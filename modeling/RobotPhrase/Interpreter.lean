import RobotPhrase.Grammar.Control
import RobotPhrase.Grammar.Driving
import RobotPhrase.Grammar.Loop
import RobotPhrase.Grammar.RoutineCall
import RobotPhrase.Grammar.Sensing

/-!
# Understanding a sentence

The rules of the grammar are tried in order and the first that does not decline answers.  The phrases inside a loop or
a pair of tasks are read in the same way, with a budget of levels: without budget a compound command is refused, and
no routine is known inside one.

The arithmetic in which a sentence is read may stop, and then there is no answer (`interpretChecked`).  Wrapping
arithmetic gives an answer to every sentence (`interpret`).
-/

namespace RobotPhrase

open Grammar

section

variable {m : Type → Type} [Monad m]

/-- A rule that computes nothing that may stop. -/
def Rule.lift (rule : Rule) : RuleM m := fun scene s => pure (rule scene s)

/-- The rules in order of precedence.  Phrases inside a sentence are read by `inner`. -/
def rulesM (arithmetic : Arithmetic m) (inner : Option (String → m Answer)) : List (RuleM m) := [
  Rule.lift routineCall, twoTasksM inner, loopM inner, Rule.lift watch, Rule.lift followLine, Rule.lift taskOutline,
  Rule.lift stop, Rule.lift setSpeed, Rule.lift runMotor, preciseTurnM arithmetic, Rule.lift turn, Rule.lift move,
  Rule.lift wait]

/-- The answer to a sentence whose phrases are read by `inner`. -/
def answerM (arithmetic : Arithmetic m) (inner : Option (String → m Answer)) (scene : Scene) (text : String) :
    m Answer :=
  let s := Sentence.ofText text
  if s.tokens.isEmpty then return .error "Empty command"
  else return (← (rulesM arithmetic inner).findSomeM? fun rule => rule scene s).getD .unrecognized

/-- The answer to a sentence in which compound commands may be nested `budget` levels deep. -/
def interpretM (arithmetic : Arithmetic m) (budget : Nat) (scene : Scene) (text : String) : m Answer :=
  match budget with
  | 0 => answerM arithmetic none scene text
  | n + 1 => answerM arithmetic (some (interpretM arithmetic n { scene with routines := [] })) scene text

end

/-- How deep compound commands may be nested. -/
def maxNesting : Nat := 1

/-- The answer to a sentence. -/
def interpret (scene : Scene) (text : String) : Answer := interpretM .wrapping maxNesting scene text

/-- The answer to a sentence, if all numbers on the way to it fit into 64 bits. -/
def interpretChecked (scene : Scene) (text : String) : Option Answer := interpretM .checked maxNesting scene text

/-- The answer to a sentence for the robot as it is by default. -/
def interpretPlain (text : String) : Answer := interpret ⟨{ }, [], []⟩ text

/-- A sentence checked on its own. -/
structure Validation where
  valid : Bool
  error : Option String
  clarification : Option Clarification

def validate (text : String) : Validation :=
  let a := interpretPlain text
  ⟨a.isUnderstood, a.errorMessage?, a.clarification?⟩

end RobotPhrase
