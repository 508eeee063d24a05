import RobotPhrase.Grammar.Sentence

/-!
# Stopping, waiting, motors and speeds

"stop the arm", "wait 2 seconds", "run arm motor 180 degrees", "set speed to 300".
-/

namespace RobotPhrase.Grammar

open Vocabulary

def stop : Rule := fun scene s =>
  if s.hasVerb stopVerbs then
    some (match s.motor? scene.motors with
      | some motor => .success (.stop (some motor)) .stop ⟨90⟩
      | none => .success (.stop none) .stop ⟨85⟩)
  else none

/-- A speed is set by a word for speed, unless the robot moves or turns somewhere. -/
def setSpeed : Rule := fun _ s =>
  if !s.has .speed || s.hasVerb moveVerbs then none
  else if s.hasVerb turnVerbs && s.has .direction && !s.hasVerb setVerbs then none
  else match s.firstNumeral? with
    | none => some ((Answer.clarify "speed" "What speed should be set? (mm/s)" .distance).withKind .setSpeed)
    | some n =>
      let setting := if s.tokens.any fun t => turnRateWords.contains t.raw then Setting.turnRate else .straightSpeed
      some (.success (.set setting (wholeOr n 100)) .setSpeed ⟨90⟩)

def runMotor : Rule := fun scene s =>
  if s.hasVerb runVerbs then
    (s.motor? scene.motors).map fun motor =>
      match s.firstNumeral? with
      | none =>
        (Answer.clarify "angle" ("How many degrees should the " ++ motor ++ " motor run?") .angle).withKind .motor
      | some n => .success (.runMotor motor (truncate scene.robot.motorSpeed) (truncate n.value)) .motor ⟨85⟩
  else none

/-- A time without a unit of time is in seconds. -/
def wait : Rule := fun _ s =>
  if s.hasVerb waitVerbs then
    match s.firstNumeral? with
    | none => some ((Answer.clarify "duration" "How long should the robot wait?" .duration).withKind .wait)
    | some n =>
      let factor := ((s.first? .unit).bind fun unit => timeFactor? unit.text).getD 1000
      some (.success (.wait (truncate (n.value * factor))) .wait ⟨90⟩)
  else none

end RobotPhrase.Grammar
