import RobotPhrase.Number.Numeral

/-!
# Commands

What a sentence can tell the robot to do, the kinds under which commands are reported, and degrees of confidence in them.
-/

namespace RobotPhrase

/-- Confidence in hundredths. -/
structure Confidence where
  hundredths : Nat
  deriving DecidableEq, Repr

/-- The confidence as a number between zero and one. -/
def Confidence.value (c : Confidence) : Float := Float.ofNat c.hundredths / 100

/-- The kind of a command, as reports name it. -/
inductive CommandKind
  | move | turn | preciseTurn | wait | motor | stop | setSpeed | loop | sensor | sensorMove | lineFollow | parallel
  | multitask | routineCall
  /-- Code that was written by a completer. -/
  | completed
  deriving DecidableEq, Repr

def CommandKind.name : CommandKind → String
  | move => "move" | turn => "turn" | preciseTurn => "precise_turn" | wait => "wait" | motor => "motor"
  | stop => "stop" | setSpeed => "set_speed" | loop => "loop" | sensor => "sensor" | sensorMove => "sensor_move"
  | lineFollow => "line_follow" | parallel => "parallel" | multitask => "multitask" | routineCall => "routine_call"
  | completed => "llm"

/-- The two rates of the drive base that can be set. -/
inductive Setting
  | straightSpeed
  | turnRate
  deriving DecidableEq, Repr

/-- A relation between a reading and a number. -/
inductive Relation
  | greater | less | equal | atMost | atLeast
  deriving DecidableEq, Repr

/-- What the robot watches for, as the condition under which it keeps waiting. -/
inductive Watch
  /-- The color sensor does not see this colour. -/
  | colorMissing (constant : String)
  /-- The reading of a sensor is in this relation to a value. -/
  | reading (expression : String) (relation : Relation) (value : Int)
  deriving DecidableEq, Repr

/-- When line following ends. -/
inductive LineEnd
  | afterDistance (distance : Int)
  /-- The sentence gives a condition, which is left to the user to write. -/
  | onCondition
  | never
  deriving DecidableEq, Repr

/-- What became of a phrase inside a compound command. -/
inductive Block
  | code (lines : List String)
  /-- The phrase was not understood and is kept as a remark. -/
  | remark (phrase : String)
  deriving DecidableEq, Repr

inductive Command
  | move (speed : Option Int) (distance : Int)
  | turn (rate : Option Int) (angle : Int)
  | preciseTurn (angle : Int)
  | wait (duration : Int)
  | runMotor (motor : String) (speed angle : Int)
  /-- Stop one motor, or else the robot. -/
  | stop (motor : Option String)
  | set (setting : Setting) (value : Int)
  /-- Wait until a condition ends, driving meanwhile at a given speed, if any. -/
  | watch (condition : Watch) (driving : Option Int)
  | followLine (ending : LineEnd)
  /-- Repeat a body; without one the user has to add it. -/
  | loop (count : Int) (body : Option Block)
  /-- Two phrases carried out at the same time. -/
  | tasks (first second : String) (firstBlock secondBlock : Block)
  /-- Two tasks for the user to fill in. -/
  | taskOutline
  | call (routine : String) (arguments : List Numeral)
  | completed (code : String)
  deriving DecidableEq, Repr

end RobotPhrase
