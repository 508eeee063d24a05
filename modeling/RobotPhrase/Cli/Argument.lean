import RobotPhrase.Number.Literal

/-!
# Command line arguments

Options and texts may stand in any order.  The value of an option is attached to it or is the next argument; what looks
like an option can be such a next argument only where the option allows it.  Behind a double dash there are texts only.
The arguments are read from left to right, up to the first that is wrong or asks for help.
-/

namespace RobotPhrase.Cli

/-- What comes with an option. -/
inductive OptionForm
  | flag
  | value
  /-- A value that may look like an option. -/
  | anyValue
  deriving DecidableEq, Repr

/-- What the value of an option must be. -/
inductive ValueKind
  | text
  /-- The path of a file, which is not empty. -/
  | path
  | double
  | integer
  | natural
  deriving DecidableEq, Repr

def ValueKind.accepts : ValueKind → String → Bool
  | text, _ => true
  | path, s => !s.isEmpty
  | double, s => (Literal.float? s.toList).isSome
  | integer, s => (Literal.signedWord? s.toList).isSome
  | natural, s => (Literal.word? s.toList).isSome

/-- An option that a command knows. -/
structure OptionRule where
  name : String
  form : OptionForm := .value
  kind : ValueKind := .text
  letter : Option Char := none
  repeatable : Bool := false
  deriving DecidableEq, Repr

/-- What a command is for, and which arguments it knows. -/
structure CommandRule where
  about : String
  options : List OptionRule
  /-- How the texts are named in the usage. -/
  texts : String := ""
  /-- How many texts there may be at most. -/
  maxTexts : Option Nat := none

/-- An argument by its looks. -/
inductive Argument
  /-- The double dash before the last texts. -/
  | separator
  | long (name : String) (attached : Option String)
  | short (letter : Char) (attached : Option String)
  | text (s : String)
  deriving DecidableEq, Repr

namespace Argument

/-- The value behind an equals sign in what follows an option's letter, or that itself. -/
private def attachedTo : List Char → Option String
  | [] => none
  | '=' :: value => some (String.ofList value)
  | value => some (String.ofList value)

def ofString (arg : String) : Argument :=
  match arg.toList with
  | ['-', '-'] => separator
  | '-' :: '-' :: rest =>
    let name := String.ofList (rest.takeWhile (· != '='))
    match rest.dropWhile (· != '=') with
    | [] => long name none
    | _ :: value => long name (some (String.ofList value))
  | '-' :: letter :: rest => short letter (attachedTo rest)
  | _ => text arg

def isText : Argument → Bool
  | text _ => true
  | _ => false

/-- Whether an argument asks for help; the letter for it may be followed by others. -/
def asksForHelp : Argument → Bool
  | long "help" none | short 'h' _ => true
  | _ => false

/-- The rule that an option falls under, and its attached value. -/
def rule? (rules : List OptionRule) : Argument → Option (OptionRule × Option String)
  | long name attached => (rules.find? fun r => r.name == name).map fun r => (r, attached)
  | short letter attached => (rules.find? fun r => r.letter == some letter).map fun r => (r, attached)
  | _ => none

end Argument

/-- The options that are given, with their values, and the texts.  A flag has the empty value. -/
structure Given where
  options : List (String × String) := []
  texts : List String := []
  deriving DecidableEq, Repr

/-- Why arguments are not read to the end. -/
inductive Stop
  | misuse
  | help
  deriving DecidableEq, Repr

namespace Given

/-- Adds an option, unless its value is wrong or it is there already and may be given only once. -/
private def addOption (g : Given) (r : OptionRule) (value : String) : Except Stop Given :=
  if r.form != .flag && !r.kind.accepts value then .error .misuse
  else if !r.repeatable && (g.options.lookup r.name).isSome then .error .misuse
  else .ok { g with options := g.options ++ [(r.name, value)] }

/-- Adds a text, unless there are enough. -/
private def addText (rule : CommandRule) (g : Given) (s : String) : Except Stop Given :=
  if rule.maxTexts.any (· ≤ g.texts.length) then .error .misuse else .ok { g with texts := g.texts ++ [s] }

/-- What the arguments of a command give, added to what was given before them. -/
def readFrom (rule : CommandRule) (g : Given) : List String → Except Stop Given
  | [] => .ok g
  | arg :: rest =>
    match Argument.ofString arg with
    | .separator => rest.foldlM (addText rule) g
    | .text s => do readFrom rule (← g.addText rule s) rest
    | option =>
      if option.asksForHelp then .error .help
      else match option.rule? rule.options, rest with
        | none, _ => .error .misuse
        | some (r, attached), rest =>
          if r.form = .flag then
            if attached.isSome then .error .misuse else do readFrom rule (← g.addOption r "") rest
          else match attached, rest with
            | some value, rest => do readFrom rule (← g.addOption r value) rest
            | none, value :: rest =>
              if r.form = .anyValue || (Argument.ofString value).isText then
                do readFrom rule (← g.addOption r value) rest
              else .error .misuse
            | none, [] => .error .misuse

/-- What the arguments of a command give. -/
def read (rule : CommandRule) (args : List String) : Except Stop Given := readFrom rule { } args

/-- Whether a flag is given. -/
def flag (g : Given) (name : String) : Bool := (g.options.lookup name).isSome

/-- The values of an option that may be repeated. -/
def values (g : Given) (name : String) : List String :=
  g.options.filterMap fun (n, value) => if n == name then some value else none

/-- The value of an option, if it is given. -/
def text? (g : Given) (name : String) : Option String := g.options.lookup name

def double? (g : Given) (name : String) : Option Float := (g.text? name).bind fun s => Literal.float? s.toList

def integer? (g : Given) (name : String) : Option Int := (g.text? name).bind fun s => Literal.signedWord? s.toList

def natural? (g : Given) (name : String) : Option Nat := (g.text? name).bind fun s => Literal.word? s.toList

end Given

end RobotPhrase.Cli
