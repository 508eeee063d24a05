/-!
# Blanks, words and lines

Texts are handled as lists of characters.  `trim` drops white space at both ends, `words` are the maximal runs
without white space, `lines` are the pieces between line feeds.  Both are filters of `pieces`, which cuts a text at
every character of a class and loses nothing else.
-/

namespace RobotPhrase.Text

/-- White space: the characters of the Unicode property `White_Space`. -/
def isBlank (c : Char) : Bool :=
  let n := c.toNat
  (9 ≤ n && n ≤ 13) || n == 0x20 || n == 0x85 || n == 0xA0 || n == 0x1680 || (0x2000 ≤ n && n ≤ 0x200A)
    || n == 0x2028 || n == 0x2029 || n == 0x202F || n == 0x205F || n == 0x3000

def trimStart (cs : List Char) : List Char := cs.dropWhile isBlank

def trimEnd (cs : List Char) : List Char := (cs.reverse.dropWhile isBlank).reverse

/-- A text without the blanks at its two ends. -/
def trim (cs : List Char) : List Char := trimEnd (trimStart cs)

/-- The pieces of a text between the characters in `p`, empty ones included. -/
def pieces (p : Char → Bool) : List Char → List (List Char)
  | [] => [[]]
  | c :: cs =>
    if p c then [] :: pieces p cs
    else match pieces p cs with
      | [] => [[c]]
      | w :: ws => (c :: w) :: ws

theorem pieces_ne_nil (p : Char → Bool) (cs : List Char) : pieces p cs ≠ [] := by
  cases cs with
  | nil => simp [pieces]
  | cons c cs =>
    unfold pieces
    split
    · simp
    · split <;> simp

/-- The maximal runs without a blank. -/
def words (cs : List Char) : List (List Char) := (pieces isBlank cs).filter fun w => !w.isEmpty

/-- A line without the carriage return that stood before its line feed. -/
def dropReturn (line : List Char) : List Char :=
  if line.getLast? = some '\r' then line.dropLast else line

/-- The last piece of a text is a line only if something stands in it, and then it has no line feed. -/
def endLines : List (List Char) → List (List Char)
  | [] => []
  | [line] => if line.isEmpty then [] else [line]
  | line :: rest => dropReturn line :: endLines rest

/-- The lines of a text: a line feed, or a carriage return and a line feed, ends a line. -/
def lines (cs : List Char) : List (List Char) := endLines (pieces (· == '\n') cs)

/-- `trim` on strings. -/
def trimmed (s : String) : String := String.ofList (trim s.toList)

/-- `lines` on strings. -/
def linesOf (s : String) : List String := (lines s.toList).map String.ofList

/-- `words` on strings. -/
def wordsOf (s : String) : List String := (words s.toList).map String.ofList

/-- Texts written one under another. -/
def joinLines (ls : List String) : String := "\n".intercalate ls

end RobotPhrase.Text
