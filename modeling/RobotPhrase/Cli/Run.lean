import RobotPhrase.Cli.Help
import RobotPhrase.Cli.JsonReport
import RobotPhrase.Cli.TextReport
import RobotPhrase.Robot.Load

/-!
# Running the command line

A run takes a directory and arguments, and gives what is printed, the exit code and the directory afterwards.  Its steps
read the directory, write to it and may fail; what was written before a failure stays.  A program is written to its file
before it is reported, and the report in JSON is a step that may fail.  Printing is taken to succeed.
-/

namespace RobotPhrase.Cli

/-- What is printed. -/
structure Output where
  stdout : String := ""
  stderr : String := ""
  deriving DecidableEq, Repr

/-- Why a request fails. -/
inductive Failure
  | load (e : LoadError)
  | noCommands
  | unwritable (path : String)
  | preview (e : PreviewError)
  /-- A report that has no form in JSON. -/
  | unencodable

def Failure.message : Failure → String
  | load e => e.message
  | noCommands => "no commands to compile; pass --file or --command"
  | unwritable path => "writing program: " ++ path
  | preview e => e.message
  | unencodable => "lone surrogate in string"

/-- Steps that work on a directory and may fail. -/
abbrev Action := ExceptT Failure (StateM Directory)

namespace Action

/-- The result of the steps, and the directory after them. -/
def outcome {α : Type} (x : Action α) (d : Directory) : Except Failure α × Directory := StateT.run (ExceptT.run x) d

/-- Reads from the directory. -/
def load {α : Type} (read : Directory → Except LoadError α) : Action α := do
  match read (← get) with
  | .ok a => return a
  | .error e => throw (.load e)

/-- Writes a text to a file. -/
def write (s : Surroundings) (path text : String) : Action Unit := do
  match (← get).write? path text s.here s.refuses with
  | some d => set d
  | none => throw (.unwritable path)

/-- The text of a value in JSON. -/
def encode (value : Json.Value) : Action String :=
  match Json.pretty? value with
  | some text => return text
  | none => throw .unencodable

/-- Prints a result in the form that is asked for. -/
def report (json : Bool) (value : Json.Value) (lines : List String) : Action Output := do
  if json then return { stdout := printed [← encode value] } else return { stdout := printed lines }

end Action

/-! ### What is loaded -/

variable (s : Surroundings)

namespace RobotOptions

/-- The robot of the options' file, or else a given one, with the parts that the options name. -/
def resolve (o : RobotOptions) (d : Directory) (base : Robot) : Except LoadError Robot := do
  let r ← match o.config with
    | some path => d.loadRobot path s
    | none => .ok base
  return { r with
    leftPort := o.leftPort.getD r.leftPort
    rightPort := o.rightPort.getD r.rightPort
    wheelDiameter := o.wheelDiameter.getD r.wheelDiameter
    axleTrack := o.axleTrack.getD r.axleTrack
    speed := o.speed.getD r.speed
    turnRate := o.turnRate.getD r.turnRate
    attachment1 := o.attachment1.or r.attachment1
    attachment2 := o.attachment2.or r.attachment2
    colorSensor := o.colorSensor.or r.colorSensor
    ultrasonicSensor := o.ultrasonicSensor.or r.ultrasonicSensor
    forceSensor := o.forceSensor.or r.forceSensor }

/-- The routines of the options' file, or else the given ones. -/
def resolveRoutines (o : RobotOptions) (d : Directory) (base : List Routine) : Except LoadError (List Routine) :=
  match o.routines with
  | some path => d.loadRoutines path s
  | none => .ok base

end RobotOptions

/-- The answer to a sentence for the robot of the options. -/
def answer (text : String) (o : RobotOptions) (d : Directory) : Except LoadError Answer := do
  let robot ← o.resolve s d { }
  let routines ← o.resolveRoutines s d []
  return interpret ⟨robot, robot.motorNames, routines.map Routine.name⟩ text

namespace CompileOptions

/-- The program that is asked for: that of the file, with the robot, the routines and the commands of the options. -/
def spec (o : CompileOptions) (d : Directory) : Except LoadError ProgramSpec := do
  let base ← match o.file with
    | some path => d.loadProgram path s
    | none => .ok { }
  let robot ← o.robot.resolve s d base.robot
  let routines ← o.robot.resolveRoutines s d base.routines
  return ⟨robot, routines, base.commands ++ o.commands⟩

end CompileOptions

namespace PreviewOptions

/-- The lines of the statements for sentences, as far as they are understood. -/
def compiledLines (o : PreviewOptions) (d : Directory) : Except LoadError (List String) := do
  let spec : ProgramSpec := ⟨← o.robot.resolve s d { }, ← o.robot.resolveRoutines s d [], o.statements⟩
  return spec.compile.lines

/-- The statements to replay: those of the file, and then those of the arguments. -/
def lines (o : PreviewOptions) (d : Directory) : Except LoadError (List String) := do
  let inFile ← match o.file with
    | some path => (d.text .program path s).map Text.linesOf
    | none => .ok []
  let given ← if o.natural then o.compiledLines s d else .ok o.statements
  return inFile ++ given

def request (o : PreviewOptions) (d : Directory) : Except LoadError PreviewRequest := do
  let lines ← o.lines s d
  let robot ← o.robot.resolve s d { }
  return ⟨lines, o.start, ⟨robot.speed, robot.turnRate⟩, o.points⟩

end PreviewOptions

/-! ### Carrying out requests -/

namespace CompileOptions

/-- The compiled program, with a completer if there is a reply for it. -/
def compiled (o : CompileOptions) (spec : ProgramSpec) : Compiled :=
  match o.reply with
  | some reply => (spec.compileWith (Completer.canned (some reply)) 0).1
  | none => spec.compile

/-- Writes the program to the file it goes to, if it goes to one. -/
def save (o : CompileOptions) (program : Program) : Action Unit :=
  match o.out with
  | some path => Action.write s path program.full
  | none => return

/-- Reports about a compiled program; the program itself is printed if it goes to no file. -/
def report (o : CompileOptions) (json : Bool) (c : Compiled) : Action Output := do
  if json then return { stdout := printed [← Action.encode (compiledJson c)] }
  else return {
    stdout := printed (if o.out.isSome then [] else [c.program.full])
    stderr := printed (c.reports.filterMap complaint?) }

def perform (o : CompileOptions) (json : Bool) : Action Output := do
  let spec ← Action.load (o.spec s)
  if spec.spoken.isEmpty then throw .noCommands
  else
    let c := o.compiled spec
    o.save s c.program
    o.report json c

end CompileOptions

def PreviewOptions.perform (o : PreviewOptions) (json : Bool) : Action Output := do
  let request ← Action.load (o.request s)
  match request.preview with
  | .ok p => Action.report json (previewJson p) (previewLines p)
  | .error e => throw (.preview e)

/-- Carries out a request. -/
def Request.perform (json : Bool) : Request → Action Output
  | tokenize text =>
    let tokens := RobotPhrase.tokenize text
    Action.report json (.list (tokens.map tokenJson)) (tokens.map tokenLine)
  | parse text o => do
    let a ← Action.load (answer s text o)
    Action.report json (answerJson a) (answerLines a)
  | compile o => o.perform s json
  | validate text =>
    let v := RobotPhrase.validate text
    Action.report json (validationJson v) [validationLine v]
  | suggest text cursor =>
    let suggestions := RobotPhrase.suggest text (cursor.getD text.utf8ByteSize)
    Action.report json (.list (suggestions.map suggestionJson)) (suggestions.map suggestionLine)
  | preview o => o.perform s json

/-- What a run leaves behind. -/
structure Run where
  exitCode : Nat
  output : Output
  directory : Directory

/-- What a request leaves behind when it has been carried out or has failed. -/
def Run.ofOutcome : Except Failure Output × Directory → Run
  | (.ok output, d) => ⟨0, output, d⟩
  | (.error failure, d) => ⟨1, { stderr := printed ["Error: " ++ failure.message] }, d⟩

/-- The name of the program and its version. -/
def versionLine : String := "brick 0.1.0"

/-- Runs the program: the exit code is 2 for arguments that make no sense, and 1 for a request that fails. -/
def runIn (d : Directory) (args : List String) : Run :=
  match Invocation.ofArguments? args with
  | none => ⟨2, { stderr := printed [usageLine] }, d⟩
  | some .version => ⟨0, { stdout := printed [versionLine] }, d⟩
  | some (.help command) => ⟨0, { stdout := printed (helpLines command) }, d⟩
  | some (.run json request) => .ofOutcome ((request.perform s json).outcome d)

@[inherit_doc runIn]
def run (d : Directory) (args : List String) : Run := runIn { } d args

end RobotPhrase.Cli
