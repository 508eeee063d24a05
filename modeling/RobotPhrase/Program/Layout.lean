import RobotPhrase.Number.Rounded
import RobotPhrase.Robot
import RobotPhrase.Text.Blank
import RobotPhrase.Text.Search

/-!
# The layout of a program

A program has four sections: imports, the setup of the hardware, the routines of the user, and the main part, which is
the code of the commands in order.  The drive base is set up exactly if the main part uses it.
-/

namespace RobotPhrase

open Text

/-- A program in its sections, and as one text. -/
structure Program where
  imports : String
  setup : String
  routines : String
  main : String
  full : String
  deriving DecidableEq, Repr

namespace Program

/-- Whether a line drives the robot base or one of its wheels. -/
def usesDriveBase (line : List Char) : Bool :=
  startsWith "robot.".toList (trim line) || occurs "left_motor".toList line || occurs "right_motor".toList line

/-- Whether any of the codes drives the robot base or one of its wheels. -/
def needsDriveBase (codes : List String) : Bool := codes.any fun code => (lines code.toList).any usesDriveBase

/-- Whether a double is a whole number. -/
private def isWhole (x : Float) : Bool :=
  match Binary.ofFloat x with
  | .finite _ m q => 0 ≤ q || m % Nat.pow 2 (-q).toNat == 0
  | _ => false

/-- A length in a program: a whole number gets one decimal place. -/
def lengthText (x : Float) : String := if isWhole x then showFixed 1 x else showFloat x

def driveBaseImport : String := "from pybricks.robotics import DriveBase"

def taskImport : String := "from pybricks.tools import wait, multitask, run_task"

def importLines (r : Robot) (multitask driveBase color : Bool) : List String :=
  let plugged (port : Option String) (device : String) : List String :=
    if (Robot.usedPort? port).isSome then [device] else []
  let devices := ["Motor"] ++ plugged r.colorSensor "ColorSensor" ++ plugged r.ultrasonicSensor "UltrasonicSensor"
    ++ plugged r.forceSensor "ForceSensor"
  let parameters := ["Port", "Direction", "Stop"] ++ if color then ["Color"] else []
  ["from pybricks.hubs import PrimeHub",
    "from pybricks.pupdevices import " ++ ", ".intercalate devices,
    "from pybricks.parameters import " ++ ", ".intercalate parameters]
  ++ (if driveBase then [driveBaseImport] else [])
  ++ [if multitask then taskImport else "from pybricks.tools import wait"]

def importSection (r : Robot) (multitask driveBase color : Bool) : String :=
  joinLines (importLines r multitask driveBase color)

/-- The lines that set up the wheels and the drive base. -/
def driveBaseLines (r : Robot) : List String := [
  "# Motor setup",
  "left_motor = Motor(Port." ++ r.leftPort ++ ", Direction.COUNTERCLOCKWISE)",
  "right_motor = Motor(Port." ++ r.rightPort ++ ", Direction.CLOCKWISE)",
  "",
  "# DriveBase setup",
  "robot = DriveBase(left_motor, right_motor, wheel_diameter=" ++ lengthText r.wheelDiameter
    ++ ", axle_track=" ++ lengthText r.axleTrack ++ ")",
  "robot.settings(straight_speed=" ++ toString (truncate r.speed)
    ++ ", straight_acceleration=" ++ toString (truncate r.acceleration)
    ++ ", turn_rate=" ++ toString (truncate r.turnRate)
    ++ ", turn_acceleration=" ++ toString (truncate r.turnAcceleration) ++ ")",
  ""]

/-- The lines that set up the attachment motors; the second needs the first. -/
def attachmentLines (r : Robot) : List String :=
  match Robot.usedPort? r.attachment1 with
  | none => []
  | some port =>
    ["# Attachment motors", "attachment1 = Motor(Port." ++ port ++ ")"]
      ++ (match Robot.usedPort? r.attachment2 with
        | some port => ["attachment2 = Motor(Port." ++ port ++ ")"]
        | none => [])
      ++ [""]

/-- The lines that set up the sensors. -/
def sensorLines (r : Robot) : List String :=
  let sensor (name device : String) (port : Option String) : List String :=
    match Robot.usedPort? port with
    | some port => [name ++ " = " ++ device ++ "(Port." ++ port ++ ")"]
    | none => []
  let sensors := sensor "color_sensor" "ColorSensor" r.colorSensor
    ++ sensor "distance_sensor" "UltrasonicSensor" r.ultrasonicSensor
    ++ sensor "force_sensor" "ForceSensor" r.forceSensor
  if sensors.isEmpty then [] else ["# Sensors"] ++ sensors ++ [""]

def setupSection (r : Robot) (driveBase : Bool) : String :=
  joinLines (
    ["# Initialize hub", "hub = PrimeHub()", ""] ++ (if driveBase then driveBaseLines r else [])
      ++ attachmentLines r ++ sensorLines r)

/-- A routine as a function: its lines that are not blank, indented; a function without any passes. -/
def routineLines (r : Routine) : List String :=
  let body := ((lines r.body.toList).map trim).filter fun line => !line.isEmpty
  ["def " ++ r.name ++ "(" ++ ", ".intercalate r.parameters ++ "):"]
    ++ (if body.isEmpty then ["    pass"] else body.map fun line => "    " ++ String.ofList line)
    ++ [""]

def routineSection (rs : List Routine) : String :=
  if rs.isEmpty then "" else joinLines ("# Routines/Functions" :: rs.flatMap routineLines)

def mainSection (codes : List String) : String :=
  if codes.isEmpty then "# Add your commands here\npass" else joinLines codes

/-- The program for a robot with the given codes and routines. -/
def assemble (r : Robot) (codes : List String) (userRoutines : List Routine) (multitask : Bool) : Program :=
  let driveBase := needsDriveBase codes
  let color := codes.any (mentions "Color.")
  let imports := importSection r multitask driveBase color
  let setup := setupSection r driveBase
  let routines := routineSection userRoutines
  let main := mainSection codes
  let full := joinLines (
    [imports, "", setup] ++ (if routines.isEmpty then [] else ["", routines]) ++ ["", "# Main program", main])
  ⟨imports, setup, routines, main, full⟩

end Program

end RobotPhrase
