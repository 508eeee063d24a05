import RobotPhrase.Grammar.Sentence
import RobotPhrase.Text.Search

/-!
# Two things at once

"A while B", "simultaneously A and B", "A and B at the same time", and "A and B" if it speaks of an action: the two
phrases become two tasks.  A word such as "together" alone gives an outline.
-/

namespace RobotPhrase.Grammar

open Text Vocabulary

/-- What a compound command inside another one is refused with. -/
def nestingError : String := "Nested compound commands are not supported"

/-- A phrase read on its own: its code, or else the phrase as a remark. -/
def blockM {m : Type → Type} [Monad m] (inner : String → m Answer) (phrase : String) : m Block := do
  match (← inner phrase).command? with
  | some c => return .code c.lines
  | none => return .remark phrase

private def whileMark : List Char := " while ".toList

private def andMark : List Char := " and ".toList

/-- The texts on the two sides of a mark that occurs exactly once. -/
def cutOnce (mark text : List Char) : Option (List Char × List Char) :=
  (cut mark text).filter fun (_, rest) => !occurs mark rest

/-- The two phrases of a sentence in lowercase, before they are trimmed. -/
def rawHalves? (text : List Char) : Option (List Char × List Char) :=
  if occurs whileMark text then cutOnce whileMark text
  else if occurs "simultaneously".toList text then cut andMark (trim (without "simultaneously".toList 0 text))
  else if occurs "at the same time".toList text then cut andMark (trim (without "at the same time".toList 0 text))
  else if occurs andMark text && actionHints.any fun hint => occurs hint.toList text then cut andMark text
  else none

/-- The two phrases of a sentence in lowercase, neither of them empty. -/
def halves? (text : List Char) : Option (String × String) := do
  let (first, second) ← rawHalves? text
  let first := trim first
  let second := trim second
  if first.isEmpty || second.isEmpty then none else return (String.ofList first, String.ofList second)

/-- Two tasks, read by `inner`; without it they are refused. -/
def twoTasksM {m : Type → Type} [Monad m] (inner : Option (String → m Answer)) : RuleM m := fun _ s =>
  match halves? (lower s.text.toList) with
  | none => return none
  | some (first, second) =>
    match inner with
    | none => return some (.error nestingError)
    | some inner => do
      let firstBlock ← blockM inner first
      let secondBlock ← blockM inner second
      return some (.success (.tasks first second firstBlock secondBlock) .multitask ⟨85⟩)

/-- An outline is left to a completer to refine. -/
def taskOutline : Rule := fun _ s =>
  if s.has .parallel then some (Answer.success .taskOutline .parallel ⟨70⟩).withModel else none

end RobotPhrase.Grammar
