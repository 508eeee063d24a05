import RobotPhrase.Path.Replay
import RobotPhrase.Proofs.Numeral

/-!
# Calls in a statement

A statement is a motion if a call is written in it: an opening such as `robot.turn(`, a literal and a closing
parenthesis, wherever it stands (`MotionKind.IsCall`).  The search passes over openings that are not continued as a call
and finds the leftmost call of its kind (`argument?_eq_some_iff`), or nothing if there is none
(`argument?_eq_none_iff`).  Calls to drive straight go before turns, and turns before waits, whatever their order in the
statement (`ofStatement?_eq_some_iff`).  The value of the literal says where the motion leads
(`MotionKind.destination`).
-/

namespace RobotPhrase

open Text

namespace MotionKind

def opening : MotionKind → String
  | straight => "robot.straight("
  | turn => "robot.turn("
  | wait => "wait("

def motion : MotionKind → Float → Motion
  | straight => .straight
  | turn => .turn
  | wait => .wait

theorem kind_motion (kind : MotionKind) (value : Float) : (kind.motion value).kind = kind := by
  cases kind <;> rfl

/-- An angle brought into the range from 0 up to 360: its remainder, made positive by a full turn.  A full turn itself,
to which a tiny negative angle is rounded, is none. -/
def heading (angle : Float) : Float :=
  let rest := remainder angle 360
  let positive := if rest < 0 then rest + 360 else rest
  if 360 ≤ positive then 0 else positive

/-- The pose to which a motion with the argument `value` leads: `value` millimetres of half a pixel in the direction of
the heading, `value` degrees round, or nowhere.  It takes the time that the distance or the angle takes at its rate, a
rate that is not positive counting as 1, or for a wait `value` milliseconds. -/
def destination (kind : MotionKind) (value : Float) (rates : Rates) (start : Pose) : Pose :=
  match kind with
  | straight =>
    { x := start.x + value * 0.5 * Float.cos ((start.angle - 90) * 0.017453292519943295)
      y := start.y + value * 0.5 * Float.sin ((start.angle - 90) * 0.017453292519943295)
      angle := start.angle
      timestamp := start.timestamp + value.abs / (if 0 < rates.speed then rates.speed else 1) * 1000 }
  | turn =>
    { x := start.x
      y := start.y
      angle := heading (start.angle + value)
      timestamp := start.timestamp + value.abs / (if 0 < rates.turnRate then rates.turnRate else 1) * 1000 }
  | wait =>
    { x := start.x
      y := start.y
      angle := start.angle
      timestamp := start.timestamp + value }

theorem apply_motion (kind : MotionKind) (value : Float) (rates : Rates) (start : Pose) :
    (kind.motion value).apply rates start = kind.destination value rates start := by
  cases kind <;> rfl

/-- How the argument of such a call is read. -/
def read : MotionKind → List Char → Option (Numeral × List Char)
  | straight | turn => Numeral.read?
  | wait => Numeral.readUnsigned?

end MotionKind

/-- A call of a kind behind the part `before` of a text, with the literal `n` as its argument; that of a wait has no
sign. -/
structure MotionKind.IsCall (kind : MotionKind) (before : List Char) (n : Numeral) (text : List Char) : Prop where
  literal : n.IsLiteral
  unsigned : kind = .wait → n.negative = false
  written : ∃ after, text = before ++ kind.opening.toList ++ n.text ++ ')' :: after

/-- The leftmost call of a kind. -/
structure MotionKind.IsFirstCall (kind : MotionKind) (before : List Char) (n : Numeral) (text : List Char) : Prop where
  call : kind.IsCall before n text
  leftmost : ∀ b m, kind.IsCall b m text → before.length ≤ b.length

def MotionKind.HasCall (kind : MotionKind) (text : List Char) : Prop := ∃ before n, kind.IsCall before n text

/-! ### One place -/

theorem stops_parenthesis (rest : List Char) : Numeral.Stops (')' :: rest) := by
  intro c hc
  obtain rfl : ')' = c := Option.some.inj hc
  decide

/-- In front of a parenthesis the argument is read if it is a literal, as a whole. -/
private theorem read_eq_some_iff {kind : MotionKind} {cs rest : List Char} {n : Numeral} :
    kind.read cs = some (n, ')' :: rest) ↔
      n.IsLiteral ∧ (kind = .wait → n.negative = false) ∧ cs = n.text ++ ')' :: rest := by
  have hends : n.EndsBefore (')' :: rest) := (stops_parenthesis rest).endsBefore n
  cases kind with
  | straight | turn => simp [MotionKind.read, Numeral.read?_eq_some_iff, hends]
  | wait => simp [MotionKind.read, Numeral.readUnsigned?_eq_some_iff, hends]

variable {kind : MotionKind}

theorem argumentAt?_eq_some_iff {cs : List Char} {n : Numeral} :
    argumentAt? kind.opening.toList kind.read cs = some n ↔ kind.IsCall [] n cs := by
  unfold argumentAt?
  constructor
  · intro h
    obtain ⟨behind, hbehind, h⟩ := Option.bind_eq_some_iff.1 h
    obtain ⟨⟨m, rest⟩, hread, h⟩ := Option.bind_eq_some_iff.1 h
    dsimp only at h
    split at h
    · rename_i hclosed
      obtain rfl : m = n := Option.some.inj h
      obtain ⟨after, rfl⟩ := List.head?_eq_some_iff.1 hclosed
      obtain ⟨hliteral, hsign, rfl⟩ := read_eq_some_iff.1 hread
      exact ⟨hliteral, hsign, after, by simpa using after?_eq_some_iff.1 hbehind⟩
    · simp at h
  · rintro ⟨hliteral, hsign, after, rfl⟩
    have hbehind : after? kind.opening.toList ([] ++ kind.opening.toList ++ n.text ++ ')' :: after) =
        some (n.text ++ ')' :: after) := after?_eq_some_iff.2 (by simp)
    have hread : kind.read (n.text ++ ')' :: after) = some (n, ')' :: after) :=
      read_eq_some_iff.2 ⟨hliteral, hsign, rfl⟩
    rw [hbehind]
    simp [hread]

/-- A call in a text is a call in the rest of the text, or it stands in front. -/
theorem MotionKind.IsCall.cons_iff {c d : Char} {before cs : List Char} {n : Numeral} :
    kind.IsCall (d :: before) n (c :: cs) ↔ c = d ∧ kind.IsCall before n cs := by
  constructor
  · rintro ⟨hliteral, hsign, after, htext⟩
    obtain ⟨hc, hcs⟩ := List.cons.inj htext
    exact ⟨hc, hliteral, hsign, after, hcs⟩
  · rintro ⟨rfl, hliteral, hsign, after, hcs⟩
    exact ⟨hliteral, hsign, after, by rw [hcs]; rfl⟩

/-- Nothing stands to the left of a call in front. -/
theorem MotionKind.IsCall.isFirstCall {cs : List Char} {n : Numeral} (h : kind.IsCall [] n cs) :
    kind.IsFirstCall [] n cs :=
  ⟨h, fun _ _ _ => Nat.zero_le _⟩

theorem MotionKind.IsCall.opening_infix {before cs : List Char} {n : Numeral} (h : kind.IsCall before n cs) :
    kind.opening.toList <:+: cs := by
  obtain ⟨after, rfl⟩ := h.written
  exact ⟨before, n.text ++ ')' :: after, by simp⟩

theorem not_isCall_nil {before : List Char} {n : Numeral} : ¬ kind.IsCall before n [] := by
  rintro ⟨-, -, after, htext⟩
  simp at htext

/-! ### The search -/

theorem isSome_argument?_iff {cs : List Char} :
    (argument? kind.opening.toList kind.read cs).isSome = true ↔ kind.HasCall cs := by
  induction cs with
  | nil =>
    refine iff_of_false (by simp [argument?]) ?_
    rintro ⟨before, n, hcall⟩
    exact not_isCall_nil hcall
  | cons c cs ih =>
    rw [argument?, Option.isSome_or, Bool.or_eq_true, ih, Option.isSome_iff_exists]
    constructor
    · rintro (⟨n, hn⟩ | ⟨before, n, hcall⟩)
      · exact ⟨[], n, argumentAt?_eq_some_iff.1 hn⟩
      · exact ⟨c :: before, n, MotionKind.IsCall.cons_iff.2 ⟨rfl, hcall⟩⟩
    · rintro ⟨before, n, hcall⟩
      cases before with
      | nil => exact .inl ⟨n, argumentAt?_eq_some_iff.2 hcall⟩
      | cons d before => exact .inr ⟨before, n, (MotionKind.IsCall.cons_iff.1 hcall).2⟩

theorem argument?_eq_none_iff {cs : List Char} :
    argument? kind.opening.toList kind.read cs = none ↔ ¬ kind.HasCall cs := by
  rw [← isSome_argument?_iff, Bool.not_eq_true, Option.isSome_eq_false_iff, Option.isNone_iff_eq_none]

/-- What is found is the argument of the leftmost call. -/
theorem argument?_eq_some_iff {cs : List Char} {n : Numeral} :
    argument? kind.opening.toList kind.read cs = some n ↔ ∃ before, kind.IsFirstCall before n cs := by
  induction cs with
  | nil =>
    refine iff_of_false (by simp [argument?]) ?_
    rintro ⟨before, hfirst⟩
    exact not_isCall_nil hfirst.call
  | cons c cs ih =>
    rw [argument?, Option.or_eq_some_iff, ih, argumentAt?_eq_some_iff]
    constructor
    · rintro (hcall | ⟨hmiss, before, hfirst⟩)
      · exact ⟨[], hcall.isFirstCall⟩
      · refine ⟨c :: before, MotionKind.IsCall.cons_iff.2 ⟨rfl, hfirst.call⟩, ?_⟩
        intro b m hcall
        cases b with
        | nil =>
          rw [argumentAt?_eq_some_iff.2 hcall] at hmiss
          simp at hmiss
        | cons d b =>
          have := hfirst.leftmost b m (MotionKind.IsCall.cons_iff.1 hcall).2
          simp only [List.length_cons]
          omega
    · rintro ⟨before, hfirst⟩
      cases before with
      | nil => exact .inl hfirst.call
      | cons d before =>
        obtain ⟨rfl, hcall⟩ := MotionKind.IsCall.cons_iff.1 hfirst.call
        -- a call in front would lie to the left of the leftmost one
        have hmiss : argumentAt? kind.opening.toList kind.read (c :: cs) = none := by
          rw [Option.eq_none_iff_forall_ne_some]
          intro m hm
          have := hfirst.leftmost [] m (argumentAt?_eq_some_iff.1 hm)
          simp at this
        refine .inr ⟨hmiss, before, hcall, ?_⟩
        intro b m hb
        have := hfirst.leftmost (c :: b) m (MotionKind.IsCall.cons_iff.2 ⟨rfl, hb⟩)
        simp only [List.length_cons] at this
        omega

/-- Openings that are not continued as a call are passed over. -/
example : argument? "wait(".toList Numeral.readUnsigned? "wait(-1) wait(5.) await(2)".toList =
    some ⟨false, ['2'], []⟩ := by
  decide

theorem MotionKind.HasCall.exists_first {cs : List Char} (h : kind.HasCall cs) :
    ∃ before n, kind.IsFirstCall before n cs := by
  obtain ⟨n, hn⟩ := Option.isSome_iff_exists.1 (isSome_argument?_iff.2 h)
  obtain ⟨before, hfirst⟩ := argument?_eq_some_iff.1 hn
  exact ⟨before, n, hfirst⟩

/-! ### Statements -/

/-- The kinds of calls that are looked for before those of this kind. -/
def MotionKind.earlier : MotionKind → List MotionKind
  | straight => []
  | turn => [straight]
  | wait => [straight, turn]

theorem ofStatement?_eq (statement : String) :
    Motion.ofStatement? statement =
      ((argument? MotionKind.straight.opening.toList MotionKind.straight.read statement.toList).map fun n =>
        MotionKind.straight.motion n.value).or
        (((argument? MotionKind.turn.opening.toList MotionKind.turn.read statement.toList).map fun n =>
          MotionKind.turn.motion n.value).or
          ((argument? MotionKind.wait.opening.toList MotionKind.wait.read statement.toList).map fun n =>
            MotionKind.wait.motion n.value)) :=
  rfl

/-- The motion of a statement is that of its leftmost call of the first kind that has one. -/
theorem ofStatement?_eq_some_iff {statement : String} {m : Motion} :
    Motion.ofStatement? statement = some m ↔
      ∃ (kind : MotionKind) (before : List Char) (n : Numeral), kind.IsFirstCall before n statement.toList ∧
        m = kind.motion n.value ∧ ∀ other ∈ kind.earlier, ¬ other.HasCall statement.toList := by
  rw [ofStatement?_eq]
  simp only [Option.or_eq_some_iff, Option.map_eq_some_iff, Option.map_eq_none_iff, argument?_eq_some_iff,
    argument?_eq_none_iff]
  constructor
  · rintro (⟨n, ⟨before, hfirst⟩, rfl⟩ | ⟨hstraight, ⟨n, ⟨before, hfirst⟩, rfl⟩ | ⟨hturn, n, ⟨before, hfirst⟩, rfl⟩⟩)
    · exact ⟨.straight, before, n, hfirst, rfl, by simp [MotionKind.earlier]⟩
    · exact ⟨.turn, before, n, hfirst, rfl, by simpa [MotionKind.earlier] using hstraight⟩
    · exact ⟨.wait, before, n, hfirst, rfl, by simpa [MotionKind.earlier] using ⟨hstraight, hturn⟩⟩
  · rintro ⟨kind, before, n, hfirst, rfl, hearlier⟩
    cases kind with
    | straight => exact .inl ⟨n, ⟨before, hfirst⟩, rfl⟩
    | turn => exact .inr ⟨hearlier .straight (by decide), .inl ⟨n, ⟨before, hfirst⟩, rfl⟩⟩
    | wait =>
      exact .inr ⟨hearlier .straight (by decide), .inr ⟨hearlier .turn (by decide), n, ⟨before, hfirst⟩, rfl⟩⟩

theorem ofStatement?_eq_none_iff {statement : String} :
    Motion.ofStatement? statement = none ↔ ∀ kind : MotionKind, ¬ kind.HasCall statement.toList := by
  rw [ofStatement?_eq]
  simp only [Option.or_eq_none_iff, Option.map_eq_none_iff, argument?_eq_none_iff]
  constructor
  · rintro ⟨hstraight, hturn, hwait⟩ kind
    cases kind with
    | straight => exact hstraight
    | turn => exact hturn
    | wait => exact hwait
  · intro h
    exact ⟨h .straight, h .turn, h .wait⟩

section

variable {rates : Rates} {start : Pose} {statement : String}

/-- A segment is computed from the value of the leftmost call of its kind. -/
theorem segment?_eq_some_iff {s : Segment} :
    segment? rates start statement = some s ↔
      ∃ (kind : MotionKind) (before : List Char) (n : Numeral), kind.IsFirstCall before n statement.toList ∧
        s = ⟨kind, start, kind.destination n.value rates start, statement⟩ ∧
        ∀ other ∈ kind.earlier, ¬ other.HasCall statement.toList := by
  unfold segment?
  rw [Option.map_eq_some_iff]
  constructor
  · rintro ⟨m, hm, rfl⟩
    obtain ⟨kind, before, n, hfirst, rfl, hearlier⟩ := ofStatement?_eq_some_iff.1 hm
    exact ⟨kind, before, n, hfirst, by rw [kind.kind_motion, kind.apply_motion], hearlier⟩
  · rintro ⟨kind, before, n, hfirst, rfl, hearlier⟩
    refine ⟨kind.motion n.value, ofStatement?_eq_some_iff.2 ⟨kind, before, n, hfirst, rfl, hearlier⟩, ?_⟩
    rw [kind.kind_motion, kind.apply_motion]

theorem kind_segment?_eq_some_iff :
    (segment? rates start statement).map Segment.kind = some kind ↔
      kind.HasCall statement.toList ∧ ∀ other ∈ kind.earlier, ¬ other.HasCall statement.toList := by
  rw [Option.map_eq_some_iff]
  constructor
  · rintro ⟨s, hs, rfl⟩
    obtain ⟨kind, before, n, hfirst, rfl, hearlier⟩ := segment?_eq_some_iff.1 hs
    exact ⟨⟨before, n, hfirst.call⟩, hearlier⟩
  · rintro ⟨hcall, hearlier⟩
    obtain ⟨before, n, hfirst⟩ := hcall.exists_first
    exact ⟨_, segment?_eq_some_iff.2 ⟨kind, before, n, hfirst, rfl, hearlier⟩, rfl⟩

end

/-- Statements are recognised exactly by their calls: a statement drives straight if it has a call to do so, else turns
if it has a call to turn, else waits if it has a call to wait, else it is passed over; and the segment leads where the
value of the literal in the leftmost call of its kind says. -/
theorem segment?_recognised (rates : Rates) (start : Pose) (statement : String) :
    ((segment? rates start statement).map Segment.kind = some .straight ↔
        MotionKind.straight.HasCall statement.toList) ∧
      ((segment? rates start statement).map Segment.kind = some .turn ↔
        ¬ MotionKind.straight.HasCall statement.toList ∧ MotionKind.turn.HasCall statement.toList) ∧
      ((segment? rates start statement).map Segment.kind = some .wait ↔
        ¬ MotionKind.straight.HasCall statement.toList ∧ ¬ MotionKind.turn.HasCall statement.toList ∧
          MotionKind.wait.HasCall statement.toList) ∧
      (segment? rates start statement = none ↔ ∀ kind : MotionKind, ¬ kind.HasCall statement.toList) ∧
      ∀ s, segment? rates start statement = some s → ∃ before n, s.kind.IsFirstCall before n statement.toList ∧
        s = ⟨s.kind, start, s.kind.destination n.value rates start, statement⟩ := by
  refine ⟨?_, ?_, ?_, ?_, ?_⟩
  · rw [kind_segment?_eq_some_iff]
    simp [MotionKind.earlier]
  · rw [kind_segment?_eq_some_iff, and_comm]
    simp [MotionKind.earlier]
  · rw [kind_segment?_eq_some_iff, and_comm]
    simp [MotionKind.earlier, and_assoc]
  · rw [segment?, Option.map_eq_none_iff, ofStatement?_eq_none_iff]
  · intro s hs
    obtain ⟨kind, before, n, hfirst, rfl, -⟩ := segment?_eq_some_iff.1 hs
    exact ⟨before, n, hfirst, rfl⟩

end RobotPhrase
