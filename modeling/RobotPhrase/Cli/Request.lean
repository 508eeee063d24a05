import RobotPhrase.Cli.Argument
import RobotPhrase.Path.Pose

/-!
# What the command line asks for

The first argument that is no option names the command; the arguments behind it belong to it.  JSON may be asked for
before or behind the name of the command, and so may help.
-/

namespace RobotPhrase.Cli

/-- The robot as options describe it: a file, parts that take precedence over the file, and a file of routines. -/
structure RobotOptions where
  config : Option String := none
  leftPort : Option String := none
  rightPort : Option String := none
  wheelDiameter : Option Float := none
  axleTrack : Option Float := none
  speed : Option Float := none
  turnRate : Option Float := none
  attachment1 : Option String := none
  attachment2 : Option String := none
  colorSensor : Option String := none
  ultrasonicSensor : Option String := none
  forceSensor : Option String := none
  routines : Option String := none
  deriving DecidableEq

/-- The commands to compile, in a file and one by one; the reply of a completer; and where the program goes. -/
structure CompileOptions where
  file : Option String := none
  commands : List String := []
  robot : RobotOptions := { }
  reply : Option String := none
  out : Option String := none
  deriving DecidableEq

/-- The statements to replay, in a file and one by one, or sentences that `natural` asks to compile first. -/
structure PreviewOptions where
  file : Option String := none
  statements : List String := []
  natural : Bool := false
  robot : RobotOptions := { }
  points : Int := 20
  start : Pose := { }

inductive Request
  | tokenize (text : String)
  | parse (text : String) (robot : RobotOptions)
  | compile (options : CompileOptions)
  | validate (text : String)
  | suggest (text : String) (cursor : Option Nat)
  | preview (options : PreviewOptions)

inductive Invocation
  | version
  /-- Help about the program, or about one of its commands. -/
  | help (command : Option String)
  | run (json : Bool) (request : Request)

/-- The flag that every command knows. -/
def jsonRule : OptionRule := { name := "json", form := .flag }

namespace RobotOptions

def rules : List OptionRule := [
  { name := "config", kind := .path }, { name := "left-port" }, { name := "right-port" },
  { name := "wheel-diameter", kind := .double }, { name := "axle-track", kind := .double },
  { name := "speed", kind := .double }, { name := "turn-rate", kind := .double }, { name := "attachment1-port" },
  { name := "attachment2-port" }, { name := "color-sensor-port" }, { name := "ultrasonic-port" },
  { name := "force-port" }, { name := "routines", kind := .path }]

def ofGiven (g : Given) : RobotOptions where
  config := g.text? "config"
  leftPort := g.text? "left-port"
  rightPort := g.text? "right-port"
  wheelDiameter := g.double? "wheel-diameter"
  axleTrack := g.double? "axle-track"
  speed := g.double? "speed"
  turnRate := g.double? "turn-rate"
  attachment1 := g.text? "attachment1-port"
  attachment2 := g.text? "attachment2-port"
  colorSensor := g.text? "color-sensor-port"
  ultrasonicSensor := g.text? "ultrasonic-port"
  forceSensor := g.text? "force-port"
  routines := g.text? "routines"

end RobotOptions

namespace CompileOptions

def rules : List OptionRule :=
  [jsonRule, { name := "file", kind := .path }, { name := "command", letter := some 'c', repeatable := true },
    { name := "mock-reply" }, { name := "out", kind := .path }] ++ RobotOptions.rules

def ofGiven (g : Given) : CompileOptions where
  file := g.text? "file"
  commands := g.values "command"
  robot := .ofGiven g
  reply := g.text? "mock-reply"
  out := g.text? "out"

end CompileOptions

namespace PreviewOptions

def rules : List OptionRule :=
  [jsonRule, { name := "file", kind := .path }, { name := "natural", form := .flag },
    { name := "points", kind := .integer }, { name := "start-x", form := .anyValue, kind := .double },
    { name := "start-y", form := .anyValue, kind := .double },
    { name := "start-angle", form := .anyValue, kind := .double }] ++ RobotOptions.rules

def ofGiven (g : Given) : PreviewOptions :=
  let usual : PreviewOptions := { }
  { file := g.text? "file"
    statements := g.texts
    natural := g.flag "natural"
    robot := .ofGiven g
    points := (g.integer? "points").getD usual.points
    start := {
      x := (g.double? "start-x").getD usual.start.x
      y := (g.double? "start-y").getD usual.start.y
      angle := (g.double? "start-angle").getD usual.start.angle } }

end PreviewOptions

namespace Request

/-- The sentence made of the texts, of which there must be one. -/
private def sentence? (g : Given) : Option String := if g.texts.isEmpty then none else some (" ".intercalate g.texts)

def tokenizeRule : CommandRule :=
  { about := "Show how a sentence is tokenized", options := [jsonRule], texts := "<TEXT>..." }

def parseRule : CommandRule :=
  { about := "Parse one sentence into code", options := jsonRule :: RobotOptions.rules, texts := "<TEXT>..." }

def compileRule : CommandRule :=
  { about := "Compile a list of sentences into a complete program", options := CompileOptions.rules, maxTexts := some 0 }

def validateRule : CommandRule :=
  { about := "Check whether a sentence compiles with the default robot", options := [jsonRule], texts := "<TEXT>..." }

def suggestRule : CommandRule :=
  { about := "Autocomplete suggestions for partially typed text",
    options := [jsonRule, { name := "cursor", kind := .natural }], texts := "[TEXT]", maxTexts := some 1 }

def previewRule : CommandRule :=
  { about := "Simulate the drivebase path of generated statements", options := PreviewOptions.rules,
    texts := "[STATEMENTS]..." }

/-- The commands by name. -/
def rules : List (String × CommandRule) := [
  ("tokenize", tokenizeRule), ("parse", parseRule), ("compile", compileRule), ("validate", validateRule),
  ("suggest", suggestRule), ("preview", previewRule)]

/-- The request of a command with what its arguments give. -/
def ofGiven? (command : String) (g : Given) : Option Request :=
  match command with
  | "tokenize" => (sentence? g).map tokenize
  | "parse" => (sentence? g).map fun text => parse text (.ofGiven g)
  | "compile" => some (compile (.ofGiven g))
  | "validate" => (sentence? g).map validate
  | "suggest" => some (suggest (g.texts.head?.getD "") (g.natural? "cursor"))
  | "preview" => some (preview (.ofGiven g))
  | _ => none

end Request

namespace Invocation

/-- A command with its arguments. -/
private def ofCommand? (json : Bool) (command : String) (args : List String) : Option Invocation := do
  match Given.read (← Request.rules.lookup command) args with
  | .error .misuse => none
  | .error .help => return help (some command)
  | .ok g => return run (json || g.flag "json") (← Request.ofGiven? command g)

/-- What the arguments ask for, when JSON has been asked for or not. -/
private def ofArgumentsFrom? (json : Bool) : List String → Option Invocation
  | [] => none
  | arg :: rest =>
    match Argument.ofString arg with
    | .long "json" none => if json then none else ofArgumentsFrom? true rest
    | .long "version" none => some version
    | .short 'V' _ => some version
    | .text command => ofCommand? json command rest
    | option => if option.asksForHelp then some (help none) else none

/-- What the arguments ask for. -/
def ofArguments? (args : List String) : Option Invocation := ofArgumentsFrom? false args

end Invocation

/-- The paths of the files that may be read. -/
def RobotOptions.sources (o : RobotOptions) : List String := o.config.toList ++ o.routines.toList

@[inherit_doc RobotOptions.sources]
def Request.sources : Request → List String
  | parse _ o => o.sources
  | compile o => o.file.toList ++ o.robot.sources
  | preview o => o.file.toList ++ o.robot.sources
  | tokenize _ | validate _ | suggest .. => []

/-- The path of the file that may be written. -/
def Request.target? : Request → Option String
  | compile o => o.out
  | _ => none

end RobotPhrase.Cli
