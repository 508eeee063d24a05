import RobotPhrase.Grammar.Tasks
import RobotPhrase.Text.Utf8

/-!
# Loops

"repeat 4 times: move forward 100mm".  The body of a loop is what follows the mark "times:", or else the first colon.
-/

namespace RobotPhrase.Grammar

open Text

/-- The byte offset behind the first occurrence of a mark. -/
def offsetAfter? (mark text : List Char) : Option Nat :=
  (cut mark text).map fun (before, _) => byteSize before + byteSize mark

/-- The byte offset at which the body of a loop begins.  The mark "times:" may be written in capitals, so it is looked
for in the sentence in lowercase. -/
def bodyOffset? (lowered source : List Char) : Option Nat :=
  (offsetAfter? "times:".toList lowered).or <|
    (offsetAfter? "times :".toList lowered).or <|
      (offsetAfter? ": ".toList source).or <| offsetAfter? ":".toList source

/-- The body of a loop as it was typed, if an offset into the sentence in lowercase is one into the sentence; else in
lowercase. -/
def loopBody (text : List Char) : List Char :=
  let lowered := lower text
  let source := if byteSize lowered = byteSize text then text else lowered
  match bodyOffset? lowered source with
  | some n => trim ((dropBytes? n source).getD [])
  | none => []

/-- A loop, with the body read by `inner`; without it a loop is refused. -/
def loopM {m : Type → Type} [Monad m] (inner : Option (String → m Answer)) : RuleM m := fun _ s =>
  if s.has .repetition then
    match inner with
    | none => return some (.error nestingError)
    | some inner =>
      match s.firstNumeral? with
      | none =>
        return some ((Answer.clarify "count" "How many times should the action repeat?" .distance).withKind .loop)
      | some n => do
        let count := wholeOr n 1
        let phrase := loopBody s.text.toList
        if phrase.isEmpty then return some (.success (.loop count none) .loop ⟨70⟩)
        else match ← blockM inner (String.ofList phrase) with
          | .code lines => return some (.success (.loop count (some (.code lines))) .loop ⟨90⟩)
          | .remark phrase => return some (.success (.loop count (some (.remark phrase))) .loop ⟨75⟩)
  else return none

end RobotPhrase.Grammar
