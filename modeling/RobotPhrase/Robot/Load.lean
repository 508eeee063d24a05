import RobotPhrase.Directory
import RobotPhrase.Json.Document
import RobotPhrase.Json.Reader
import RobotPhrase.Robot.Document
import RobotPhrase.Text.LetterCase
import RobotPhrase.Yaml.Document

/-!
# Robots, routines and programs in files

A file whose name ends in `.json` is read as JSON and every other one as YAML.
-/

namespace RobotPhrase

/-- What a file describes. -/
inductive Subject
  | program | robot | routines
  deriving DecidableEq, Repr

def Subject.name : Subject → String
  | program => "program"
  | robot => "robot config"
  | routines => "routines"

/-- Why a file cannot be used. -/
inductive LoadError
  /-- The file is missing, or is no text. -/
  | unreadable (subject : Subject) (path : String)
  | badJson (path : String)
  | badYaml (path : String)
  deriving DecidableEq, Repr

def LoadError.message : LoadError → String
  | unreadable subject path => "reading " ++ subject.name ++ ": " ++ path
  | badJson path => "parsing json: " ++ path
  | badYaml path => "parsing yaml: " ++ path

/-- The part of a file's name behind its last point, unless the name only begins with a point. -/
def extension? (path : String) : Option String :=
  let name := (Directory.parts path).getLast?.getD ""
  match (Text.pieces (· == '.') name.toList).reverse with
  | [] | [_] | [_, []] => none
  | extension :: _ => some (String.ofList extension)

/-- Whether a file is read as JSON. -/
def holdsJson (path : String) : Bool := (extension? path).any (Text.eqIgnoreAsciiCase "json")

/-- What a text describes, in the format that belongs to its path. -/
def decodeFile {β : Type} (path text : String) (read : {α : Type} → DocumentFormat α → α → Option β) :
    Except LoadError β :=
  if holdsJson path then
    match (Json.parse? text).bind (read Json.format) with
    | some b => .ok b
    | none => .error (.badJson path)
  else
    match (Yaml.parse? text).bind fun root => read (Yaml.format root) root with
    | some b => .ok b
    | none => .error (.badYaml path)

/-- How the texts of files are read, each of them with its path. -/
structure Readers where
  program (path text : String) : Except LoadError ProgramSpec
  robot (path text : String) : Except LoadError Robot
  routines (path text : String) : Except LoadError (List Routine)

/-- Reads JSON and YAML. -/
def Readers.usual : Readers where
  program path text := decodeFile path text ProgramSpec.ofDocument?
  robot path text := decodeFile path text Robot.ofDocument?
  routines path text := decodeFile path text fun f => f.list? (Routine.ofDocument? f)

/-- What a run finds besides its directory: where it works, where it may not write, and how it reads. -/
structure Surroundings where
  /-- The names on the way from the root to the working directory. -/
  here : List String := []
  /-- Whether writing to a place is refused, for lack of permission or of room. -/
  refuses : String → Bool := fun _ => false
  readers : Readers := .usual

namespace Directory

/-- The text of a file about a subject. -/
def text (d : Directory) (subject : Subject) (path : String) (s : Surroundings := { }) : Except LoadError String :=
  match d.read? path s.here with
  | some text => .ok text
  | none => .error (.unreadable subject path)

def loadProgram (d : Directory) (path : String) (s : Surroundings := { }) : Except LoadError ProgramSpec := do
  s.readers.program path (← d.text .program path s)

def loadRobot (d : Directory) (path : String) (s : Surroundings := { }) : Except LoadError Robot := do
  s.readers.robot path (← d.text .robot path s)

def loadRoutines (d : Directory) (path : String) (s : Surroundings := { }) : Except LoadError (List Routine) := do
  s.readers.routines path (← d.text .routines path s)

end Directory

end RobotPhrase
