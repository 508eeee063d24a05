import RobotPhrase.Grammar.Sentence

/-!
# Sensors

"wait until distance sensor below 100", "go forward until color sensor sees black", "follow the line for 50cm".
-/

namespace RobotPhrase.Grammar

open Vocabulary

/-- The speed at which the robot drives toward what it watches for. -/
def watchSpeed : Int := 200

/-- The expression that reads a sensor. -/
def sensorReading (sensor : String) : String :=
  if ["light", "color"].contains sensor then "color_sensor.reflection()"
  else if ["distance", "ultrasonic"].contains sensor then "distance_sensor.distance()"
  else if sensor = "force" then "force_sensor.force()"
  else if sensor = "gyro" then "hub.imu.heading()"
  else "sensor.reflection()"

/-- The speed of a robot that moves while it watches. -/
def drivingSpeed? (s : Sentence) : Option Int :=
  let direction := s.direction?
  if s.hasVerb moveVerbs || direction = some "forward" || direction = some "backward" then
    some (if direction = some "backward" then -watchSpeed else watchSpeed)
  else none

/-- What the robot watches for: a colour, or else the reading of a sensor compared with a number. -/
def watched? (s : Sentence) : Option Watch :=
  match s.first? .color with
  | some color => some (.colorMissing (color.text.map Char.toUpper))
  | none => do
    let sensor ← s.first? .sensor
    let n ← s.firstNumeral?
    let asked := ((s.first? .comparison).map fun t => Relation.ofSymbol t.text).getD .greater
    return .reading (sensorReading sensor.text) (asked.waiting (s.has .whileMark)) (wholeOr n 50)

def watch : Rule := fun _ s =>
  if (s.has .untilMark || s.has .whileMark) && (s.has .sensor || s.has .color) then
    (watched? s).map fun w =>
      match drivingSpeed? s with
      | some speed => .success (.watch w (some speed)) .sensorMove ⟨90⟩
      | none => .success (.watch w none) .sensor ⟨85⟩
  else none

/-- The distance after which line following ends, in millimetres. -/
def lineDistance (s : Sentence) : Float :=
  let number := (s.firstNumeral?.map Numeral.value).getD 0
  match s.first? .unit with
  | some unit => number * (distanceFactor? unit.text).getD 1
  | none => number

def followLine : Rule := fun _ s =>
  if s.has .follow && s.has .line then
    let distance := lineDistance s
    let ending :=
      if 0 < distance then LineEnd.afterDistance (truncate distance)
      else if s.has .untilMark then .onCondition
      else .never
    some (.success (.followLine ending) .lineFollow ⟨75⟩)
  else none

end RobotPhrase.Grammar
