import RobotPhrase.Grammar.Sentence
import RobotPhrase.Text.Search

/-!
# Calls of routines

"square with 200", "run mission1": the name of a known routine, or behind "run", "call", "execute" or "start" any
name, calls the routine with the numerals that follow.
-/

namespace RobotPhrase.Grammar

open Text Vocabulary

private def isNameStart (c : Char) : Bool := 'a' ≤ c && c ≤ 'z'

private def isNameChar (c : Char) : Bool := isNameStart c || c.isDigit || c == '_'

/-- The name at the front of a text. -/
def nameAt? (cs : List Char) : Option (List Char) :=
  match cs with
  | c :: rest => if isNameStart c then some (c :: rest.takeWhile isNameChar) else none
  | [] => none

/-- What follows the name of a routine, without an introductory "with". -/
def argumentText (rest : List Char) : List Char :=
  let rest := trim rest
  match after? "with ".toList rest with
  | some arguments => trim arguments
  | none => rest

/-- What follows the first of the openings that the text starts with. -/
def afterOpening? (input : List Char) : Option (List Char) :=
  callOpenings.findSome? fun opening => after? opening.toList input

/-- What follows the name of a routine at the front of a text, behind an opening or not. -/
def afterName? (name input : List Char) : Option (List Char) :=
  (after? name input).or
    (callOpenings.findSome? fun opening => (after? opening.toList input).bind (after? name))

/-- The first known routine that the text calls, and what follows its name. -/
def knownCall? (routines : List String) (input : List Char) : Option (String × List Char) :=
  routines.findSome? fun routine =>
    let name := lower routine.toList
    if name.isEmpty then none
    else (afterName? name input).map fun rest => (routine, rest)

/-- A call of a routine that is defined elsewhere: any name that is neither reserved nor a motor. -/
def unknownCall? (motors : List String) (s : Sentence) (input : List Char) : Option (String × List Char) := do
  let rest := trim (← afterOpening? input)
  let name ← nameAt? rest
  if (s.motor? motors).isSome || reservedNames.contains (String.ofList name) then none
  else return (String.ofList name, rest.drop name.length)

def routineCall : Rule := fun scene s =>
  let input := lower (trim s.text.toList)
  ((knownCall? scene.routines input).or (unknownCall? scene.motors s input)).map fun (routine, rest) =>
    .success (.call routine (Numeral.scan (argumentText rest))) .routineCall ⟨95⟩

end RobotPhrase.Grammar
