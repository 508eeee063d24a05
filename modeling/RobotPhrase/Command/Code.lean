import RobotPhrase.Command
import RobotPhrase.Text.Blank

/-!
# The code of a command

A command is written as lines of a program for the hub.  Blocks are indented by four blanks; a phrase that was not
understood stands in its block as a remark, as it was typed.
-/

namespace RobotPhrase

def Setting.name : Setting → String
  | straightSpeed => "straight_speed"
  | turnRate => "turn_rate"

def Relation.symbol : Relation → String
  | greater => ">"
  | less => "<"
  | equal => "=="
  | atMost => "<="
  | atLeast => ">="

/-- Whether two whole numbers are in a relation. -/
def Relation.holds : Relation → Int → Int → Bool
  | greater, x, y => y < x
  | less, x, y => x < y
  | equal, x, y => x == y
  | atMost, x, y => x ≤ y
  | atLeast, x, y => y ≤ x

/-- The relation that an operator of the vocabulary stands for. -/
def Relation.ofSymbol (symbol : String) : Relation :=
  if symbol = ">" then .greater else if symbol = "<" then .less else .equal

/-- The relation under which the robot goes on waiting: "while" keeps the relation of the sentence, "until" reverses
its direction. -/
def Relation.waiting (r : Relation) (isWhile : Bool) : Relation :=
  if isWhile then r
  else match r with
    | .greater => .atMost
    | _ => .atLeast

/-- A line one level deeper. -/
def indent (line : String) : String := "    " ++ line

/-- The statement that changes a rate of the drive base. -/
def settingsLine (setting : Setting) (value : Int) : String :=
  "robot.settings(" ++ setting.name ++ "=" ++ toString value ++ ")"

def straightLine (distance : Int) : String := "robot.straight(" ++ toString distance ++ ")"

def turnLine (angle : Int) : String := "robot.turn(" ++ toString angle ++ ")"

def waitLine (duration : Int) : String := "wait(" ++ toString duration ++ ")"

/-- The change of a rate in front of a statement. -/
def withRate (setting : Setting) (rate : Option Int) (line : String) : List String :=
  match rate with
  | some value => [settingsLine setting value, line]
  | none => [line]

/-- Feedback from the gyroscope until the robot has turned by the angle. -/
def preciseTurnLines (angle : Int) : List String := [
  "# Precise turn using gyro feedback",
  "target_angle = hub.imu.heading() + " ++ toString angle,
  "while abs(hub.imu.heading() - target_angle) > 1:",
  "    error = target_angle - hub.imu.heading()",
  "    speed = max(30, min(200, abs(error) * 2))",
  "    if error > 0:",
  "        left.run(-speed)",
  "        right.run(speed)",
  "    else:",
  "        left.run(speed)",
  "        right.run(-speed)",
  "    wait(10)",
  "robot.stop()"]

/-- The condition of a waiting loop. -/
def Watch.text : Watch → String
  | colorMissing constant => "color_sensor.color() != Color." ++ constant
  | reading expression relation value => expression ++ " " ++ relation.symbol ++ " " ++ toString value

/-- The loop that waits while a condition holds. -/
def Watch.lines (w : Watch) : List String := ["while " ++ w.text ++ ":", "    wait(10)"]

/-- The remark above a loop that drives. -/
def Watch.heading : Watch → String
  | colorMissing _ => "# Drive until color detected"
  | reading .. => "# Drive until sensor condition met"

/-- The lines that end line following.  Without an ending there is an empty line in their place. -/
def LineEnd.lines : LineEnd → List String
  | afterDistance distance => ["if robot.distance() >= " ++ toString distance ++ ":", "    break"]
  | onCondition => ["# Add stop condition"]
  | never => [""]

def followLineLines (ending : LineEnd) : List String :=
  ["# Line following - adjust threshold and speed as needed",
    "threshold = 50",
    "while True:",
    "    error = left_light.reflection() - threshold",
    "    correction = error * 1.0  # Adjust gain as needed",
    "    left.run(200 - correction)",
    "    right.run(200 + correction)"]
  ++ ending.lines.map indent
  ++ ["    wait(10)", "robot.stop()"]

/-- The body of a loop. -/
def loopBodyLines : Option Block → List String
  | none => ["    # Add commands here", "    pass"]
  | some (.code lines) => lines.map indent
  | some (.remark phrase) => ["    # " ++ phrase, "    pass"]

/-- The body of a task. -/
def taskBodyLines : Block → List String
  | .code lines => lines.map indent
  | .remark phrase => ["    # TODO: " ++ phrase]

/-- Two tasks with their bodies, and the line that runs both. -/
def taskLines (first second : List String) : List String :=
  ["async def task1():"] ++ first ++ ["", "async def task2():"] ++ second
    ++ ["", "await multitask(task1(), task2())"]

/-- A call with its arguments as they were typed. -/
def callLine (routine : String) (arguments : List Numeral) : String :=
  routine ++ "(" ++ ", ".intercalate (arguments.map fun n => String.ofList n.text) ++ ")"

/-- The code of a command, line by line. -/
def Command.lines : Command → List String
  | move speed distance => withRate .straightSpeed speed (straightLine distance)
  | turn rate angle => withRate .turnRate rate (turnLine angle)
  | preciseTurn angle => preciseTurnLines angle
  | wait duration => [waitLine duration]
  | runMotor motor speed angle => [motor ++ ".run_angle(" ++ toString speed ++ ", " ++ toString angle ++ ")"]
  | stop motor => [motor.getD "robot" ++ ".stop()"]
  | set setting value => [settingsLine setting value]
  | watch condition none => condition.lines
  | watch condition (some speed) =>
    [condition.heading, "robot.drive(" ++ toString speed ++ ", 0)"] ++ condition.lines ++ ["robot.stop()"]
  | followLine ending => followLineLines ending
  | loop count body => ("for i in range(" ++ toString count ++ "):") :: loopBodyLines body
  | tasks first second firstBlock secondBlock =>
    ("# Parallel execution: " ++ first ++ " AND " ++ second)
      :: taskLines (taskBodyLines firstBlock) (taskBodyLines secondBlock)
  | taskOutline => taskLines ["    # First action", "    pass"] ["    # Second action", "    pass"]
  | call routine arguments => [callLine routine arguments]
  | completed code => [code]

/-- The code of a command as one text. -/
def Command.code (c : Command) : String := Text.joinLines c.lines

end RobotPhrase
