import RobotPhrase.Path.Preview
import RobotPhrase.Proofs.MotionCalls
import RobotPhrase.Proofs.Trajectory

/-!
# Previews of requests

A request is answered with a preview exactly if it is valid, and otherwise with the error of the first condition that
it violates (`preview_eq_ok_iff`, `preview_eq_error_iff`).  The points of a preview come in blocks, one for each segment
and all of the same size, so that the place of a point tells its segment and its part of the way (`getElem?_points`).
A statement gives at most one segment, which bounds the number of points (`length_segments_replay_le`).
-/

namespace RobotPhrase

/-! ### The points of a path -/

namespace Segment

/-- How far the heading goes round on a segment, clockwise: from more than -180 up to 180 for headings up to 360. -/
def arc (s : Segment) : Float :=
  let clockwise := s.stop.angle - s.start.angle
  let shorter := if 180 < clockwise then clockwise - 360 else clockwise
  if shorter ≤ -180 then shorter + 360 else shorter

/-- The pose after the part `progress` of the way and of the time of a segment. -/
def poseAfter (s : Segment) (progress : Float) : Pose where
  x := s.start.x + (s.stop.x - s.start.x) * progress
  y := s.start.y + (s.stop.y - s.start.y) * progress
  angle := MotionKind.heading (s.start.angle + s.arc * progress)
  timestamp := s.start.timestamp + (s.stop.timestamp - s.start.timestamp) * progress

theorem length_points (s : Segment) (n : Nat) : (s.points n).length = n + 1 := by
  simp [points]

theorem getElem?_points (s : Segment) {n i : Nat} (hi : i ≤ n) :
    (s.points n)[i]? = some (s.poseAfter (Float.ofNat i / Float.ofNat n)) := by
  unfold points
  rw [List.getElem?_map, List.getElem?_range (by omega)]
  rfl

end Segment

namespace Path

variable (p : Path) {n : Nat}

private theorem points_eq_flatMap (hn : 0 < n) : p.points n = p.segments.flatMap fun s => s.points n := by
  unfold points
  rw [if_neg (by omega), Int.toNat_natCast]

theorem length_points (hn : 0 < n) : (p.points n).length = p.segments.length * (n + 1) := by
  rw [points_eq_flatMap p hn]
  induction p.segments with
  | nil => simp
  | cons s ss ih =>
    rw [List.flatMap_cons, List.length_append, ih, s.length_points, List.length_cons, Nat.succ_mul, Nat.add_comm]

/-- The block of a segment begins behind the blocks of the segments before it. -/
theorem getElem?_points (hn : 0 < n) (k : Nat) {i : Nat} (hi : i ≤ n) :
    (p.points n)[k * (n + 1) + i]? = p.segments[k]?.map fun s => s.poseAfter (Float.ofNat i / Float.ofNat n) := by
  rw [points_eq_flatMap p hn]
  induction p.segments generalizing k with
  | nil => simp
  | cons s ss ih =>
    rw [List.flatMap_cons]
    cases k with
    | zero =>
      rw [Nat.zero_mul, Nat.zero_add, List.getElem?_append_left (by rw [s.length_points]; omega), s.getElem?_points hi]
      rfl
    | succ k =>
      have hlater : (k + 1) * (n + 1) + i = (s.points n).length + (k * (n + 1) + i) := by
        rw [s.length_points, Nat.succ_mul]
        omega
      rw [hlater, List.getElem?_append_right (Nat.le_add_right _ _), Nat.add_sub_cancel_left, ih,
        List.getElem?_cons_succ]

end Path

theorem length_segments_replay_le (rates : Rates) (start : Pose) (statements : List String) :
    (replay rates start statements).segments.length ≤ statements.length := by
  have hmotions := map_statement_replayFrom rates start 0 statements
  unfold replay
  rw [← List.length_map (f := Segment.statement), hmotions]
  exact List.length_filter_le _ _

/-! ### The conditions on a request -/

namespace PreviewRequest

/-- A rate is finite and positive. -/
def IsPositiveRate (rate : Float) : Prop := rate.isFinite = true ∧ 0 < rate

/-- The conditions in the order in which they are looked at, each with the error that tells the values in question. -/
def conditions (r : PreviewRequest) : List (Prop × PreviewError) := [
  (IsPositiveRate r.rates.speed ∧ IsPositiveRate r.rates.turnRate, .invalidRates r.rates.speed r.rates.turnRate),
  (2 ≤ r.pointsPerSegment ∧ r.pointsPerSegment ≤ 200, .invalidPointsPerSegment r.pointsPerSegment),
  (1 ≤ r.commands.length ∧ r.commands.length ≤ 500, .invalidCommandCount r.commands.length),
  (¬ r.start.timestamp < 0, .negativeTimestamp r.start.timestamp)]

/-- What a request must keep to. -/
def IsValid (r : PreviewRequest) : Prop := ∀ p ∈ r.conditions, p.1

/-- The first of the conditions that does not hold is one with the error `e`. -/
def FirstViolated (conditions : List (Prop × PreviewError)) (e : PreviewError) : Prop :=
  ∃ before c after, conditions = before ++ (c, e) :: after ∧ (∀ p ∈ before, p.1) ∧ ¬ c

theorem not_firstViolated_nil (e : PreviewError) : ¬ FirstViolated [] e := by
  rintro ⟨before, c, after, h, -⟩
  simp at h

theorem firstViolated_cons_iff {c : Prop} {e e' : PreviewError} {rest : List (Prop × PreviewError)} :
    FirstViolated ((c, e) :: rest) e' ↔ (¬ c ∧ e = e') ∨ (c ∧ FirstViolated rest e') := by
  constructor
  · rintro ⟨before, d, after, hsplit, hbefore, hd⟩
    cases before with
    | nil =>
      obtain ⟨hfirst, -⟩ := List.cons.inj hsplit
      obtain ⟨rfl, rfl⟩ := Prod.mk.inj hfirst
      exact .inl ⟨hd, rfl⟩
    | cons p before =>
      obtain ⟨rfl, rfl⟩ := List.cons.inj hsplit
      have hc : c := hbefore (c, e) (by simp)
      exact .inr ⟨hc, before, d, after, rfl, fun q hq => hbefore q (by simp [hq]), hd⟩
  · rintro (⟨hc, rfl⟩ | ⟨hc, before, d, after, rfl, hbefore, hd⟩)
    · exact ⟨[], c, rest, rfl, by simp, hc⟩
    · refine ⟨(c, e) :: before, d, after, rfl, ?_, hd⟩
      intro p hp
      rcases List.mem_cons.1 hp with rfl | hp
      · exact hc
      · exact hbefore p hp

/-- The outcome of a check is what the conditions say. -/
structure Reports (conditions : List (Prop × PreviewError)) (outcome : Option PreviewError) : Prop where
  none_iff : outcome = none ↔ ∀ p ∈ conditions, p.1
  some_iff : ∀ e, outcome = some e ↔ FirstViolated conditions e

theorem reports_nil : Reports [] none where
  none_iff := by simp
  some_iff e := by simp [not_firstViolated_nil]

/-- One more condition in front is looked at first. -/
theorem Reports.cons {conditions : List (Prop × PreviewError)} {outcome : Option PreviewError}
    (h : Reports conditions outcome) {c violated : Prop} [Decidable violated] (hc : violated ↔ ¬ c) (e : PreviewError) :
    Reports ((c, e) :: conditions) (if violated then some e else outcome) where
  none_iff := by
    by_cases hviolated : violated
    · simp [hviolated, hc.1 hviolated]
    · have hholds : c := Classical.not_not.1 (mt hc.2 hviolated)
      simp [hviolated, hholds, h.none_iff]
  some_iff e' := by
    rw [firstViolated_cons_iff]
    by_cases hviolated : violated
    · simp [hviolated, hc.1 hviolated]
    · have hholds : c := Classical.not_not.1 (mt hc.2 hviolated)
      simp [hviolated, hholds, h.some_iff]

variable {r : PreviewRequest}

theorem reports_error? (r : PreviewRequest) : Reports r.conditions r.error? := by
  have hrates : (!(isUsable r.rates.speed && isUsable r.rates.turnRate)) = true ↔
      ¬ (IsPositiveRate r.rates.speed ∧ IsPositiveRate r.rates.turnRate) := by
    rw [Bool.not_eq_true', ← Bool.not_eq_true]
    simp only [isUsable, Bool.and_eq_true, decide_eq_true_eq, IsPositiveRate]
  have hpoints : (!(minPoints ≤ r.pointsPerSegment && r.pointsPerSegment ≤ maxPoints)) = true ↔
      ¬ (2 ≤ r.pointsPerSegment ∧ r.pointsPerSegment ≤ 200) := by
    rw [Bool.not_eq_true', ← Bool.not_eq_true, Bool.and_eq_true, decide_eq_true_eq, decide_eq_true_eq]
    rfl
  have hcommands : (r.commands.isEmpty || maxCommands < r.commands.length) = true ↔
      ¬ (1 ≤ r.commands.length ∧ r.commands.length ≤ 500) := by
    rw [Bool.or_eq_true, List.isEmpty_iff, ← List.length_eq_zero_iff, decide_eq_true_eq, maxCommands]
    omega
  have htimestamp : r.start.timestamp < 0 ↔ ¬ ¬ r.start.timestamp < 0 := Classical.not_not.symm
  exact (((reports_nil.cons htimestamp _).cons hcommands _).cons hpoints _).cons hrates _

theorem IsValid.points (h : r.IsValid) : 2 ≤ r.pointsPerSegment ∧ r.pointsPerSegment ≤ 200 :=
  h (_, .invalidPointsPerSegment r.pointsPerSegment) (by simp [conditions])

theorem IsValid.commands (h : r.IsValid) : 1 ≤ r.commands.length ∧ r.commands.length ≤ 500 :=
  h (_, .invalidCommandCount r.commands.length) (by simp [conditions])

/-! ### The preview of a request -/

theorem preview_eq_error_iff {e : PreviewError} : r.preview = .error e ↔ FirstViolated r.conditions e := by
  rw [← (reports_error? r).some_iff, preview]
  cases r.error? <;> simp

theorem preview_eq_ok_iff {p : Preview} : r.preview = .ok p ↔ r.IsValid ∧
    p = ⟨replay r.rates r.start r.commands, (replay r.rates r.start r.commands).points r.pointsPerSegment⟩ := by
  unfold IsValid
  rw [← (reports_error? r).none_iff, preview]
  cases r.error? <;> simp [eq_comm]

/-- A request is answered with a preview exactly if it is valid, and otherwise with the first violated condition.  The
path of a preview is the replay of the commands, and its points are evenly spaced on one segment after another, the ends
of the segments included. -/
theorem preview_valid_or_first_violated (r : PreviewRequest) :
    ((∃ p, r.preview = .ok p) ↔ r.IsValid) ∧
    (∀ e, r.preview = .error e ↔ FirstViolated r.conditions e) ∧
    ∀ p, r.preview = .ok p → ∃ n : Nat, n = r.pointsPerSegment ∧
      p.path = replay r.rates r.start r.commands ∧
      p.points.length = p.path.segments.length * (n + 1) ∧ p.points.length ≤ 100500 ∧
      ∀ k i s, p.path.segments[k]? = some s → i ≤ n →
        p.points[k * (n + 1) + i]? = some (s.poseAfter (Float.ofNat i / Float.ofNat n)) := by
  refine ⟨?_, fun e => preview_eq_error_iff, ?_⟩
  · simp [preview_eq_ok_iff]
  · intro p hp
    obtain ⟨hvalid, rfl⟩ := preview_eq_ok_iff.1 hp
    have hbounds := hvalid.points
    obtain ⟨n, hn⟩ : ∃ n : Nat, r.pointsPerSegment = n := ⟨r.pointsPerSegment.toNat, by omega⟩
    rw [hn] at hbounds ⊢
    have hlength := Path.length_points (replay r.rates r.start r.commands) (n := n) (by omega)
    have hsegments := Nat.le_trans (length_segments_replay_le r.rates r.start r.commands) hvalid.commands.2
    refine ⟨n, rfl, rfl, hlength, ?_, ?_⟩
    · calc ((replay r.rates r.start r.commands).points n).length
        _ = (replay r.rates r.start r.commands).segments.length * (n + 1) := hlength
        _ ≤ 500 * 201 := Nat.mul_le_mul hsegments (by omega)
    · intro k i s hs hi
      dsimp only at hs ⊢
      rw [Path.getElem?_points _ (by omega) k hi, hs]
      rfl

end PreviewRequest

end RobotPhrase
