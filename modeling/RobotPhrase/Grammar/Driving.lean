import RobotPhrase.Grammar.Sentence

/-!
# Moving and turning

"move backward 10cm at speed 150", "turn left 90 degrees", "turn right precisely 45".
-/

namespace RobotPhrase.Grammar

open Vocabulary

/-- A second number given as a rate: the first one at or behind a word for speed, or else the first one behind "at"
that is not at `used`, the place of the distance or angle.  Zero is not a rate. -/
def rate? (s : Sentence) (used : Option Nat) : Option Float :=
  if s.numerals.length < 2 then none
  else
    let candidate : Option (Numeral × Nat) :=
      match s.place? .speed with
      | some place => s.numerals.find? fun (_, i) => place ≤ i
      | none =>
        (s.tokens.findIdx? fun t => t.raw == "at").bind fun place =>
          s.numerals.find? fun (_, i) => place ≤ i && used ≠ some i
    (candidate.map fun (n, _) => n.value).filter fun v => v != 0

/-- The numeral of the distance, with its place: the last one before the first unit, or else the first one. -/
def distanceNumeral? (s : Sentence) : Option (Numeral × Nat) :=
  ((s.place? .unit).bind fun place => (s.numerals.filter fun (_, i) => i < place).getLast?).or s.numerals.head?

def move : Rule := fun _ s =>
  let direction := s.direction?
  if !s.hasVerb moveVerbs && direction.isNone then none
  else if direction.any fun d => d ≠ "forward" && d ≠ "backward" then none
  else match distanceNumeral? s with
    | none => some ((Answer.clarify "distance" "How far should the robot move?" .distance).withKind .move)
    | some (n, place) =>
      let speed := rate? s (some place)
      let factor := (s.first? .unit).map fun unit => (distanceFactor? unit.text).getD 1
      let distance := match factor with
        | some factor => n.value * factor
        | none => n.value
      let distance := if direction = some "backward" then -distance else distance
      some (.success (.move (speed.map truncate) (truncate distance)) .move ⟨95⟩)

def turn : Rule := fun _ s =>
  let direction := s.direction?
  if !s.hasVerb turnVerbs && direction.isNone then none
  else if direction.any fun d => d ≠ "left" && d ≠ "right" then none
  else match s.numerals.head? with
    | none => some ((Answer.clarify "angle" "What angle should the robot turn?" .angle).withKind .turn)
    | some (n, place) =>
      let rate := rate? s (some place)
      let angle := if direction = some "left" then -n.value else n.value
      some (.success (.turn (rate.map truncate) (truncate angle)) .turn ⟨95⟩)

/-- A turn watched by the gyroscope.  Its angle is negated as a whole number, which may not be possible. -/
def preciseTurnM {m : Type → Type} [Monad m] (arithmetic : Arithmetic m) : RuleM m := fun _ s =>
  let direction := s.direction?
  if !s.hasVerb turnVerbs || !s.has .precise then return none
  else if direction.any fun d => d ≠ "left" && d ≠ "right" then return none
  else match s.firstNumeral? with
    | none =>
      return some
        ((Answer.clarify "angle" "What angle should the robot turn precisely?" .angle).withKind .preciseTurn)
    | some n => do
      let angle := truncate n.value
      let angle ← if direction = some "left" then arithmetic.negate angle else pure angle
      return some (.success (.preciseTurn angle) .preciseTurn ⟨90⟩)

end RobotPhrase.Grammar
