/-!
# Vocabulary

The words that commands are made of, grouped by what they stand for.  A word may stand in several groups.  Distances
are measured in millimetres, times in milliseconds and angles in degrees; `distanceFactor?` and `timeFactor?` give the
size of a unit.
-/

namespace RobotPhrase.Vocabulary

/-! ### Actions -/

def moveVerbs : List String := ["move", "go", "drive", "travel", "advance", "proceed"]

def turnVerbs : List String := ["turn", "rotate", "spin", "pivot", "swing"]

def waitVerbs : List String := ["wait", "pause", "delay", "sleep", "hold"]

def runVerbs : List String := ["run", "spin", "rotate", "move", "activate", "start"]

def stopVerbs : List String := ["stop", "halt", "brake", "freeze", "end"]

def setVerbs : List String := ["set", "change", "configure", "adjust", "use", "make"]

def followVerbs : List String := ["follow", "track", "trace"]

def callVerbs : List String := ["call", "execute", "start", "begin", "launch"]

def repeatVerbs : List String := ["repeat", "loop", "do"]

def defineVerbs : List String := ["define", "create", "make", "build"]

def arcVerbs : List String := ["arc", "curve", "sweep", "bend"]

def beepVerbs : List String := ["beep", "sound", "play", "tone", "buzz"]

def displayVerbs : List String := ["display", "show", "print", "write", "draw"]

def lightVerbs : List String := ["light", "led", "illuminate", "glow"]

/-- Every verb of driving, in order of precedence, with repetitions. -/
def allVerbs : List String :=
  moveVerbs ++ turnVerbs ++ waitVerbs ++ runVerbs ++ stopVerbs ++ setVerbs ++ followVerbs ++ callVerbs

/-! ### Directions -/

def forwardWords : List String := ["forward", "forwards", "ahead", "straight", "front"]

def backwardWords : List String := ["backward", "backwards", "back", "reverse", "behind"]

def leftWords : List String := ["left", "counterclockwise", "ccw"]

def rightWords : List String := ["right", "clockwise", "cw"]

/-- Every direction word, in order of precedence. -/
def allDirections : List String := forwardWords ++ backwardWords ++ leftWords ++ rightWords

/-- The one of `forward`, `backward`, `left`, `right` that a direction word means. -/
def canonicalDirection (word : String) : String :=
  if forwardWords.contains word then "forward"
  else if backwardWords.contains word then "backward"
  else if leftWords.contains word then "left"
  else if rightWords.contains word then "right"
  else word

/-! ### Units -/

/-- Units of length with their size in millimetres. -/
def distanceUnits : List (String × Float) := [
  ("mm", 1.0), ("millimeter", 1.0), ("millimeters", 1.0), ("millimetre", 1.0), ("millimetres", 1.0),
  ("cm", 10.0), ("centimeter", 10.0), ("centimeters", 10.0), ("centimetre", 10.0), ("centimetres", 10.0),
  ("m", 1000.0), ("meter", 1000.0), ("meters", 1000.0), ("metre", 1000.0), ("metres", 1000.0)]

/-- Units of time with their size in milliseconds. -/
def timeUnits : List (String × Float) := [
  ("ms", 1.0), ("millisecond", 1.0), ("milliseconds", 1.0),
  ("s", 1000.0), ("sec", 1000.0), ("second", 1000.0), ("seconds", 1000.0),
  ("min", 60000.0), ("minute", 60000.0), ("minutes", 60000.0)]

def angleUnits : List String := ["degree", "degrees", "deg"]

/-- Every unit word: lengths, then times, then angles. -/
def allUnits : List String := distanceUnits.map Prod.fst ++ timeUnits.map Prod.fst ++ angleUnits

def distanceFactor? (unit : String) : Option Float := distanceUnits.lookup unit

def timeFactor? (unit : String) : Option Float := timeUnits.lookup unit

/-! ### Things -/

def motorWords : List String := ["motor", "arm", "claw", "gripper", "lift", "attachment", "grabber", "lever"]

def sensorWords : List String := ["sensor", "light", "color", "distance", "ultrasonic", "force", "gyro"]

def lineWords : List String := ["line", "edge", "border"]

def hubWords : List String := ["hub", "prime", "spike", "brick"]

def missionWords : List String := ["mission", "routine", "program", "task"]

def headingWords : List String := ["heading", "direction", "orientation", "angle", "yaw"]

/-- The names of the colours that a sensor tells apart, and one more spelling of gray. -/
def colors : List String := [
  "red", "orange", "yellow", "green", "cyan", "blue", "violet", "magenta", "white", "gray", "grey", "black", "none"]

/-- The spelling of a colour that programs use. -/
def canonicalColor (word : String) : String := if word = "grey" then "gray" else word

/-! ### Manner, condition and connection -/

def speedWords : List String := ["speed", "velocity", "rate", "fast", "slow", "quickly", "slowly"]

def preciseWords : List String := ["precisely", "exactly", "accurate", "carefully", "gyro"]

def parallelWords : List String := ["simultaneously", "together", "parallel", "concurrently", "while"]

def timesWords : List String := ["times", "iterations", "loops"]

def untilWords : List String := ["until", "till", "when"]

def whileWords : List String := ["while", "during", "as"]

def conditionWords : List String := ["sees", "detects", "reads", "measures", "is"]

def comparisonWords : List String := ["greater", "less", "more", "above", "below", "equals", "equal"]

/-- The operator that a comparison word means. -/
def comparisonOperator (word : String) : String :=
  if ["greater", "more", "above"].contains word then ">"
  else if ["less", "below"].contains word then "<"
  else if ["equals", "equal"].contains word then "=="
  else word

def ifWords : List String := ["if", "when"]

def thenWords : List String := ["then"]

def elseWords : List String := ["else", "otherwise"]

def holdWords : List String := ["hold", "lock", "maintain", "keep"]

def resetWords : List String := ["reset", "zero", "clear", "calibrate"]

def onWords : List String := ["on", "enable", "activate"]

def offWords : List String := ["off", "disable", "deactivate"]

/-- Words that carry no meaning of their own. -/
def fillerWords : List String := ["for", "to", "the", "a", "an", "of", "by", "at", "in", "on", "and", "then"]

/-! ### Special lists -/

/-- Words that are never taken for a mistyped verb or direction. -/
def neverMistyped : List String := ["speed", "slow", "fast", "quick", "rate"]

/-- What may stand in front of the name of a routine. -/
def callOpenings : List String := ["run ", "call ", "execute ", "start "]

/-- Words that are not taken for the name of an unknown routine. -/
def reservedNames : List String := ["forward", "backward", "left", "right", "motor", "speed", "arm", "grabber"]

/-- Texts that make a plain "and" join two actions. -/
def actionHints : List String := ["move", "drive", "turn", "run", "motor"]

/-- Words that turn the setting of a speed into the setting of a turn rate. -/
def turnRateWords : List String := ["turn", "turning", "rotation"]

end RobotPhrase.Vocabulary
