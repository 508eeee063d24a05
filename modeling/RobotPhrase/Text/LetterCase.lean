import RobotPhrase.Text.LetterCase.Table

/-!
# Lowercasing

The full lowercase mapping.  Two letters need more than a table: a dotted capital I becomes two characters, and the
form of a capital sigma depends on its place in the word.
-/

namespace RobotPhrase.Text

open LetterCase

private def inRanges (ranges : List (Nat × Nat)) (c : Char) : Bool :=
  ranges.any fun (first, last) => first ≤ c.toNat && c.toNat ≤ last

def isCased (c : Char) : Bool := inRanges casedRanges c

def isCaseIgnorable (c : Char) : Bool := inRanges caseIgnorableRanges c

/-- The lowercase form of a letter that has one of one character; other characters stay. -/
def lowerChar (c : Char) : Char :=
  if c.toNat < 128 then c.toLower
  else match runs.findSome? fun r => r.apply? c.toNat with
    | some n => Char.ofNat n
    | none => c

/-- Whether the first character that is not ignored for case is a cased letter. -/
def startsCased (cs : List Char) : Bool :=
  match cs.dropWhile isCaseIgnorable with
  | c :: _ => isCased c
  | [] => false

/-- The lowercase form of `c` between the texts `before`, given backwards, and `rest`: a sigma takes its final form at
the end of a word. -/
def lowerAt (before : List Char) (c : Char) (rest : List Char) : List Char :=
  if c = 'Σ' then [if startsCased before && !startsCased rest then 'ς' else 'σ']
  else if c = 'İ' then ['i', '\u0307']
  else [lowerChar c]

def lowerFrom (before : List Char) : List Char → List Char
  | [] => []
  | c :: cs => lowerAt before c cs ++ lowerFrom (c :: before) cs

/-- A text in lowercase. -/
def lower (cs : List Char) : List Char := lowerFrom [] cs

/-- `lower` on strings. -/
def lowercase (s : String) : String := String.ofList (lower s.toList)

/-- Whether two texts are equal up to the case of ASCII letters. -/
def eqIgnoreAsciiCase (a b : String) : Bool := a.toList.map Char.toLower == b.toList.map Char.toLower

end RobotPhrase.Text
