import RobotPhrase.Number.Numeral
import RobotPhrase.Path.Pose
import RobotPhrase.Text.Search

/-!
# Motions

Three statements of a program move the robot or let time pass: `robot.straight(mm)`, `robot.turn(deg)` and `wait(ms)`.
They are recognised by their text wherever it stands in a line, and a motion leads from one pose to the next.
-/

namespace RobotPhrase

open Text

inductive Motion
  | straight (distance : Float)
  | turn (angle : Float)
  | wait (duration : Float)

inductive MotionKind
  | straight | turn | wait
  deriving DecidableEq, Repr

def MotionKind.name : MotionKind → String
  | straight => "straight"
  | turn => "turn"
  | wait => "wait"

def Motion.kind : Motion → MotionKind
  | straight _ => .straight
  | turn _ => .turn
  | wait _ => .wait

/-- The numeral between `opening` and a closing parenthesis at the front of a text. -/
def argumentAt? (opening : List Char) (read : List Char → Option (Numeral × List Char)) (cs : List Char) :
    Option Numeral := do
  let rest ← after? opening cs
  let (n, rest) ← read rest
  if rest.head? = some ')' then return n else none

/-- The argument of the leftmost call in a text that starts with `opening` and has a numeral as its only argument. -/
def argument? (opening : List Char) (read : List Char → Option (Numeral × List Char)) : List Char → Option Numeral
  | [] => none
  | c :: cs => (argumentAt? opening read (c :: cs)).or (argument? opening read cs)

namespace Motion

/-- The motion that a statement describes.  A wait has no negative duration. -/
def ofStatement? (statement : String) : Option Motion :=
  let cs := statement.toList
  ((argument? "robot.straight(".toList Numeral.read? cs).map fun n => straight n.value).or <|
    ((argument? "robot.turn(".toList Numeral.read? cs).map fun n => turn n.value).or <|
      (argument? "wait(".toList Numeral.readUnsigned? cs).map fun n => wait n.value

end Motion

/-- Pixels for a millimetre. -/
def pixelsPerMillimetre : Float := 0.5

/-- Speed in millimetres per second and turn rate in degrees per second. -/
structure Rates where
  speed : Float := 200
  turnRate : Float := 150

/-- A rate that time can be computed with. -/
def usableRate (rate : Float) : Float := if 0 < rate then rate else 1

/-- The pose at the end of a motion. -/
def Motion.apply (m : Motion) (rates : Rates) (start : Pose) : Pose :=
  match m with
  | straight distance =>
    let heading := (start.angle - 90) * radiansPerDegree
    { x := start.x + distance * pixelsPerMillimetre * heading.cos
      y := start.y + distance * pixelsPerMillimetre * heading.sin
      angle := start.angle
      timestamp := start.timestamp + distance.abs / usableRate rates.speed * 1000 }
  | turn angle =>
    { start with
      angle := normalizeAngle (start.angle + angle)
      timestamp := start.timestamp + angle.abs / usableRate rates.turnRate * 1000 }
  | wait duration => { start with timestamp := start.timestamp + duration }

end RobotPhrase
