import RobotPhrase.Cli.Request

/-!
# Help

What is printed about the program and its commands, on request or where the arguments make no sense.
-/

namespace RobotPhrase.Cli

def usageLine : String :=
  "usage: brick [--json] tokenize|parse|compile|validate|suggest|preview [options] [text ...]"

/-- An option as it is written. -/
def OptionRule.line (r : OptionRule) : String :=
  let letter := (r.letter.map fun c => "-" ++ c.toString ++ ", ").getD "    "
  "  " ++ letter ++ "--" ++ r.name ++ if r.form = .flag then "" else " <" ++ r.name ++ ">"

/-- The option that every command knows besides its own. -/
private def helpLine : String := "  -h, --help"

/-- Help about a command. -/
def CommandRule.lines (name : String) (rule : CommandRule) : List String :=
  let texts := if rule.texts.isEmpty then "" else " " ++ rule.texts
  [rule.about, "", "Usage: brick " ++ name ++ " [OPTIONS]" ++ texts, "", "Options:"]
    ++ rule.options.map OptionRule.line ++ [helpLine]

/-- Help about the program. -/
def programHelp : List String :=
  ["Compile robot commands written in plain English into Pybricks programs", "",
    "Usage: brick [OPTIONS] <COMMAND>", "", "Commands:"]
    ++ Request.rules.map (fun (name, rule) => "  " ++ name ++ "  " ++ rule.about)
    ++ ["", "Options:", jsonRule.line, helpLine, "  -V, --version"]

/-- Help about the program, or about one of its commands. -/
def helpLines (command : Option String) : List String :=
  match command.bind fun name => (Request.rules.lookup name).map fun rule => rule.lines name with
  | some lines => lines
  | none => programHelp

end RobotPhrase.Cli
