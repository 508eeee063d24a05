/-!
# The robot

What a program has to know about the robot: the ports its parts are plugged into, its size, and how fast it moves.
A program is described by a robot, routines written by the user, and a list of commands in plain words.
-/

namespace RobotPhrase

/-- The wiring, the size in millimetres, and the rates in millimetres and degrees per second. -/
structure Robot where
  leftPort : String := "A"
  rightPort : String := "B"
  wheelDiameter : Float := 56
  axleTrack : Float := 112
  speed : Float := 200
  acceleration : Float := 700
  turnRate : Float := 150
  turnAcceleration : Float := 300
  motorSpeed : Float := 200
  attachment1 : Option String := none
  attachment2 : Option String := none
  colorSensor : Option String := none
  ultrasonicSensor : Option String := none
  forceSensor : Option String := none

namespace Robot

instance : Inhabited Robot := ⟨{ }⟩

/-- The port of a part that is plugged in: an empty port and the port "None" mean that it is not. -/
def usedPort? (port : Option String) : Option String := port.filter fun p => p ≠ "" && p ≠ "None"

/-- The names of the attachment motors that are plugged in. -/
def motorNames (r : Robot) : List String :=
  (if (usedPort? r.attachment1).isSome then ["attachment1"] else [])
    ++ (if (usedPort? r.attachment2).isSome then ["attachment2"] else [])

end Robot

/-- A routine written by the user. -/
structure Routine where
  name : String
  parameters : List String := []
  body : String := ""
  deriving DecidableEq, Repr

/-- Everything needed to compile one program. -/
structure ProgramSpec where
  robot : Robot := { }
  routines : List Routine := []
  commands : List String := []

def ProgramSpec.routineNames (spec : ProgramSpec) : List String := spec.routines.map Routine.name

end RobotPhrase
