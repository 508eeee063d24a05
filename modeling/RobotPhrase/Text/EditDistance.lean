import RobotPhrase.Text.LetterCase

/-!
# Edit distance

`levenshtein a b` is the least number of insertions, deletions and substitutions of one character that turn `a` into
`b`, computed row by row: the row of a text `a` holds the distances from `a` to every beginning of `b`.  There is a row
for every beginning of the longer text, so that rows are short.  `distance` compares words without regard to case, and
`closest?` picks the nearest of a list of words.
-/

namespace RobotPhrase.Text

/-- The rest of the row of `a ++ [c]`, from the distance `left` just computed, what remains of `b`, and what remains of
the row of `a`. -/
def rowFrom (c : Char) (left : Nat) : List Char → List Nat → List Nat
  | d :: b, corner :: up :: row =>
    let here := min (min (up + 1) (left + 1)) (corner + if c = d then 0 else 1)
    here :: rowFrom c here b (up :: row)
  | _, _ => []

/-- From the row of `a` to the row of `a ++ [c]`. -/
def nextRow (b : List Char) (row : List Nat) (c : Char) : List Nat :=
  match row with
  | [] => []
  | first :: rest => (first + 1) :: rowFrom c (first + 1) b (first :: rest)

/-- The row of `a`. -/
def row (a b : List Char) : List Nat := a.foldl (nextRow b) (List.range (b.length + 1))

/-- The edit distance of two texts. -/
def levenshtein (a b : List Char) : Nat :=
  let (long, short) := if a.length < b.length then (b, a) else (a, b)
  if short.isEmpty then long.length else (row long short).getLastD 0

/-- The edit distance of two words without regard to case. -/
def distance (a b : String) : Nat := levenshtein (lower a.toList) (lower b.toList)

/-- Edits within which two words count as alike, unless said otherwise. -/
def defaultLimit : Nat := 3

/-- Whether two words are equal or at most `limit` edits apart, without regard to case. -/
def isNear (a b : String) (limit : Nat) : Bool :=
  let a := lowercase a
  let b := lowercase b
  a == b || distance a b ≤ limit

/-- The nearest candidate within `limit` edits, with its distance; of equally near ones the first. -/
def closest? (word : String) (limit : Nat) : List String → Option (String × Nat)
  | [] => none
  | candidate :: rest =>
    let d := distance word candidate
    match closest? word limit rest with
    | some (other, e) => if d ≤ e then some (candidate, d) else some (other, e)
    | none => if d ≤ limit then some (candidate, d) else none

end RobotPhrase.Text
