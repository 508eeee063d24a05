import RobotPhrase.Interpreter
import RobotPhrase.Program.Completer
import RobotPhrase.Program.Layout

/-!
# Compiling a program

Each command is understood on its own.  What the grammar leaves open, and only that, goes to the completer, if there is
one: a command that is not understood gets its code from it, and a question its wording.
-/

namespace RobotPhrase

/-- A command and what became of it. -/
structure Report where
  command : String
  answer : Answer
  deriving DecidableEq, Repr

/-- A program and the report on each of its commands. -/
structure Compiled where
  reports : List Report
  program : Program
  deriving DecidableEq, Repr

/-- Whether every command became code. -/
def Compiled.isComplete (c : Compiled) : Bool := c.reports.all fun r => r.answer.status == .parsed

/-- The lines of the codes of the reports, one report after another. -/
def Compiled.lines (c : Compiled) : List String :=
  (c.reports.filterMap fun r => r.answer.code?).flatMap Text.linesOf

namespace ProgramSpec

/-- The names that the commands may refer to. -/
def scene (spec : ProgramSpec) : Scene := ⟨spec.robot, spec.robot.motorNames, spec.routineNames⟩

/-- The commands that are not blank, without the blanks around them. -/
def spoken (spec : ProgramSpec) : List String := (spec.commands.map Text.trimmed).filter fun c => !c.isEmpty

/-- The program made of the codes of the reports. -/
def assemble (spec : ProgramSpec) (reports : List Report) : Compiled :=
  let codes := reports.filterMap fun r => r.answer.code?
  let multitask := reports.any fun r => r.answer.isUnderstood && r.answer.kind? == some .multitask
  ⟨reports, Program.assemble spec.robot codes spec.routines multitask⟩

/-- The reports without a completer. -/
def reports (spec : ProgramSpec) : List Report := spec.spoken.map fun c => ⟨c, interpret spec.scene c⟩

/-- The program without a completer. -/
def compile (spec : ProgramSpec) : Compiled := spec.assemble spec.reports

end ProgramSpec

namespace Completer

variable {σ : Type}

/-- The code of a completer for a command, if it has one. -/
def fallback (c : Completer σ) (r : Robot) (command : String) (s : σ) : Option Answer × σ :=
  match c.complete (fallbackPrompt command r) s with
  | (.ok completion, s) => (some (.success (.completed completion.code) .completed ⟨85⟩), s)
  | (.error _, s) => (none, s)

/-- What a completer makes of an answer. -/
def settle (c : Completer σ) (r : Robot) (command : String) (answer : Answer) (s : σ) : Answer × σ :=
  let (answer, s) :=
    if answer.status = .needsModel then
      let (completed, s) := c.fallback r command s
      (completed.getD answer, s)
    else (answer, s)
  match answer.outcome with
  | .needsClarification asked =>
    let (message, s) := c.explain command asked.question.field asked.message s
    ({ answer with outcome := .needsClarification ⟨asked.question, message⟩ }, s)
  | _ => (answer, s)

/-- What a completer makes of reports, one after another. -/
def settleAll (c : Completer σ) (r : Robot) : List Report → σ → List Report × σ
  | [], s => ([], s)
  | report :: rest, s =>
    let (answer, s) := c.settle r report.command report.answer s
    let (rest, s) := c.settleAll r rest s
    (⟨report.command, answer⟩ :: rest, s)

end Completer

/-- The program with a completer. -/
def ProgramSpec.compileWith {σ : Type} (spec : ProgramSpec) (c : Completer σ) (s : σ) : Compiled × σ :=
  let (reports, s) := c.settleAll spec.robot spec.reports s
  (spec.assemble reports, s)

end RobotPhrase
