import Mathlib.Data.List.Chain
import RobotPhrase.Path.Replay

/-!
# Connected paths

Replaying statements gives one connected path.  A segment is the motion of its statement, moved in time to the clock
(`Segment.IsReplayed`).  The pose that a segment hands on carries the time at which it ends, so behind the first segment
pose and clock agree, and the next segment starts exactly where this one stops (`Path.IsTrajectory.cons`).  By induction
every replay is a trajectory (`replayFrom_isTrajectory`).

A replay goes on where the replay of the statements before it ended (`replayFrom_append`), and statements that are no
motions leave no trace in it (`replayFrom_filter`).
-/

namespace RobotPhrase

/-! ### One statement -/

/-- Whether a statement moves the robot or lets time pass. -/
def isMotion (statement : String) : Bool := (Motion.ofStatement? statement).isSome

/-- Pose and rates do not decide whether there is a segment. -/
theorem isSome_segment? (rates : Rates) (pose : Pose) (statement : String) :
    (segment? rates pose statement).isSome = isMotion statement := by
  unfold segment? isMotion
  rw [Option.isSome_map]

theorem isMotion_of_segment? {rates : Rates} {pose : Pose} {statement : String} {s : Segment}
    (h : segment? rates pose statement = some s) : isMotion statement = true := by
  rw [← isSome_segment? rates pose, h]
  rfl

theorem not_isMotion {statement : String} (h : Motion.ofStatement? statement = none) : ¬ isMotion statement = true := by
  simp [isMotion, h]

/-! ### Segments -/

namespace Segment

/-- What a motion of each kind leaves as it was. -/
def KeepsPlace (s : Segment) : Prop :=
  match s.kind with
  | .straight => s.stop.angle = s.start.angle
  | .turn => s.stop.x = s.start.x ∧ s.stop.y = s.start.y
  | .wait => s.stop.x = s.start.x ∧ s.stop.y = s.start.y ∧ s.stop.angle = s.start.angle

/-- A segment that is the motion of its statement, computed at some time and moved to the time of its start. -/
def IsReplayed (rates : Rates) (s : Segment) : Prop :=
  ∃ time, (segment? rates { s.start with timestamp := time } s.statement).map (·.startingAt s.start.timestamp) = some s

theorem keepsPlace_of_segment? {rates : Rates} {pose : Pose} {statement : String} {s : Segment}
    (h : segment? rates pose statement = some s) : s.KeepsPlace := by
  obtain ⟨m, -, rfl⟩ := Option.map_eq_some_iff.1 h
  cases m with
  | straight distance => exact rfl
  | turn angle => exact ⟨rfl, rfl⟩
  | wait duration => exact ⟨rfl, rfl, rfl⟩

theorem KeepsPlace.startingAt {s : Segment} (h : s.KeepsPlace) (clock : Float) : (s.startingAt clock).KeepsPlace := by
  obtain ⟨kind, start, stop, statement⟩ := s
  cases kind <;> exact h

theorem IsReplayed.keepsPlace {rates : Rates} {s : Segment} (h : s.IsReplayed rates) : s.KeepsPlace := by
  obtain ⟨time, h⟩ := h
  obtain ⟨t, ht, hs⟩ := Option.map_eq_some_iff.1 h
  have hkeeps := (keepsPlace_of_segment? ht).startingAt s.start.timestamp
  rwa [hs] at hkeeps

end Segment

/-! ### Trajectories -/

/-- A path of replayed segments, each of which starts where the one before it stops. -/
structure Path.IsTrajectory (p : Path) (rates : Rates) (start : Pose) (clock : Float) : Prop where
  first : ∀ s, p.segments.head? = some s → s.start = { start with timestamp := clock }
  joined : p.segments.IsChain fun s t => t.start = s.stop
  total : p.totalTime = (p.segments.getLast?.map fun s => s.stop.timestamp).getD clock
  finish : p.finish = (p.segments.getLast?.map Segment.stop).getD start
  replayed : ∀ s ∈ p.segments, s.IsReplayed rates

section

variable {rates : Rates} {pose : Pose} {statement : String} {s : Segment}

/-- The first segment as it is written down starts at the pose and at the clock, and is the motion of its statement. -/
private theorem startingAt_of_segment? (h : segment? rates pose statement = some s) (clock : Float) :
    (s.startingAt clock).start = { pose with timestamp := clock } ∧ (s.startingAt clock).statement = statement ∧
      (s.startingAt clock).IsReplayed rates := by
  obtain ⟨m, hm, rfl⟩ := Option.map_eq_some_iff.1 h
  exact ⟨rfl, rfl, pose.timestamp, Option.map_eq_some_iff.2 ⟨_, h, rfl⟩⟩

/-- A motion in front of a trajectory that starts where the motion stops. -/
theorem Path.IsTrajectory.cons (h : segment? rates pose statement = some s) (clock : Float) {p : Path}
    (hp : p.IsTrajectory rates (s.startingAt clock).stop (s.startingAt clock).stop.timestamp) :
    Path.IsTrajectory { p with segments := s.startingAt clock :: p.segments } rates pose clock := by
  obtain ⟨hstart, -, hreplayed⟩ := startingAt_of_segment? h clock
  generalize s.startingAt clock = first at *
  constructor
  case first =>
    intro t ht
    obtain rfl : first = t := Option.some.inj ht
    exact hstart
  case joined =>
    cases hsegments : p.segments with
    | nil => exact .singleton first
    | cons t ts =>
      -- the time of the pose is the clock already, so nothing is replaced
      have ht : t.start = first.stop := hp.first t (by rw [hsegments]; rfl)
      have hjoined := hp.joined
      rw [hsegments] at hjoined
      exact .cons_cons ht hjoined
  case total =>
    rw [List.getLast?_cons, hp.total]
    cases p.segments.getLast? <;> rfl
  case finish =>
    rw [List.getLast?_cons, hp.finish]
    cases p.segments.getLast? <;> rfl
  case replayed =>
    intro t ht
    rcases List.mem_cons.1 ht with rfl | ht
    · exact hreplayed
    · exact hp.replayed t ht

end

/-- Every replay is a trajectory, from any pose and at any time. -/
theorem replayFrom_isTrajectory (rates : Rates) (pose : Pose) (clock : Float) (statements : List String) :
    (replayFrom rates pose clock statements).IsTrajectory rates pose clock := by
  induction statements generalizing pose clock with
  | nil => exact ⟨by simp [replayFrom], .nil, rfl, rfl, by simp [replayFrom]⟩
  | cons statement rest ih =>
    cases h : segment? rates pose statement with
    | none =>
      rw [replayFrom_cons_of_none (Option.map_eq_none_iff.1 h)]
      exact ih pose clock
    | some s =>
      rw [replayFrom_cons_of_some h]
      exact .cons h clock (ih _ _)

/-- The segments are those of the motions among the statements, in order. -/
theorem map_statement_replayFrom (rates : Rates) (pose : Pose) (clock : Float) (statements : List String) :
    (replayFrom rates pose clock statements).segments.map Segment.statement = statements.filter isMotion := by
  induction statements generalizing pose clock with
  | nil => rfl
  | cons statement rest ih =>
    cases h : segment? rates pose statement with
    | none =>
      have hnone := Option.map_eq_none_iff.1 h
      rw [replayFrom_cons_of_none hnone, List.filter_cons_of_neg (not_isMotion hnone), ih]
    | some s =>
      rw [replayFrom_cons_of_some h, List.filter_cons_of_pos (isMotion_of_segment? h), List.map_cons,
        (startingAt_of_segment? h clock).2.1, ih]

/-- Replaying statements gives one connected path: its first segment starts at the given pose at time zero, every other
one where the one before it stops, the path ends in time and place where its last segment does, and its segments are the
motions of exactly those statements that are motions. -/
theorem replay_isTrajectory (rates : Rates) (start : Pose) (statements : List String) :
    (replay rates start statements).IsTrajectory rates start 0 ∧
      (∀ s ∈ (replay rates start statements).segments, s.KeepsPlace) ∧
      (replay rates start statements).segments.map Segment.statement =
        statements.filter fun statement => (segment? rates start statement).isSome := by
  have htrajectory : (replay rates start statements).IsTrajectory rates start 0 :=
    replayFrom_isTrajectory rates start 0 statements
  refine ⟨htrajectory, fun s hs => (htrajectory.replayed s hs).keepsPlace, ?_⟩
  simp only [isSome_segment?]
  exact map_statement_replayFrom rates start 0 statements

/-! ### Replaying piece by piece -/

/-- A path and the one that goes on from its end. -/
def Path.followedBy (p q : Path) : Path := ⟨p.segments ++ q.segments, q.totalTime, q.finish⟩

theorem replayFrom_append (rates : Rates) (pose : Pose) (clock : Float) (cs ds : List String) :
    replayFrom rates pose clock (cs ++ ds) =
      (replayFrom rates pose clock cs).followedBy
        (replayFrom rates (replayFrom rates pose clock cs).finish (replayFrom rates pose clock cs).totalTime ds) := by
  induction cs generalizing pose clock with
  | nil => rfl
  | cons c cs ih =>
    rw [List.cons_append]
    cases h : segment? rates pose c with
    | none =>
      have hnone := Option.map_eq_none_iff.1 h
      rw [replayFrom_cons_of_none hnone, replayFrom_cons_of_none hnone, ih]
    | some s =>
      rw [replayFrom_cons_of_some h, replayFrom_cons_of_some h, ih]
      rfl

/-- Statements that are no motions leave no trace. -/
theorem replayFrom_filter (rates : Rates) (pose : Pose) (clock : Float) (statements : List String) :
    replayFrom rates pose clock (statements.filter isMotion) = replayFrom rates pose clock statements := by
  induction statements generalizing pose clock with
  | nil => rfl
  | cons statement rest ih =>
    cases h : segment? rates pose statement with
    | none =>
      have hnone := Option.map_eq_none_iff.1 h
      rw [List.filter_cons_of_neg (not_isMotion hnone), replayFrom_cons_of_none hnone, ih]
    | some s =>
      rw [List.filter_cons_of_pos (isMotion_of_segment? h), replayFrom_cons_of_some h, replayFrom_cons_of_some h, ih]

/-- Lists with the same motions have the same path. -/
theorem replay_eq_of_filter_eq (rates : Rates) (start : Pose) {cs ds : List String}
    (h : cs.filter isMotion = ds.filter isMotion) : replay rates start cs = replay rates start ds := by
  unfold replay
  rw [← replayFrom_filter rates start 0 cs, h, replayFrom_filter]

/-- Replay is blind to statements that are no motions, and incremental.  Whether a statement is passed over depends on
its text only; any list that lies between the motions of `cs` and `cs` itself, that is, `cs` without some of the
statements that are no motions, has the same path; and a path only grows when statements are added at the end. -/
theorem replay_incremental (rates : Rates) (start : Pose) (cs : List String) :
    (∀ c rates' pose', (segment? rates' pose' c).isSome = (segment? rates start c).isSome) ∧
      (∀ kept, (cs.filter fun c => (segment? rates start c).isSome).Sublist kept → kept.Sublist cs →
        replay rates start kept = replay rates start cs) ∧
      ∀ ds, (replay rates start cs).segments <+: (replay rates start (cs ++ ds)).segments := by
  simp only [isSome_segment?]
  refine ⟨fun _ _ _ => trivial, ?_, ?_⟩
  · intro kept hmotions hkept
    apply replay_eq_of_filter_eq
    -- both lists have the motions of the other one
    have hle : (cs.filter isMotion).Sublist (kept.filter isMotion) := by
      simpa using hmotions.filter isMotion
    exact (hkept.filter isMotion).antisymm hle
  · intro ds
    unfold replay
    rw [replayFrom_append]
    exact List.prefix_append _ _

end RobotPhrase
