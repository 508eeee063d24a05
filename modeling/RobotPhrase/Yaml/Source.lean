/-!
# The characters of a YAML text

Line breaks are read in all their spellings, and every character knows where it stands: the structure of a YAML text
depends on columns.
-/

namespace RobotPhrase.Yaml

/-- A character and its place in the text. -/
structure Placed where
  char : Char
  line : Nat
  column : Nat
  index : Nat
  deriving DecidableEq, Repr

/-- Whether a character may occur in a text. -/
def mayOccur (c : Char) : Bool :=
  let n := c.toNat
  n == 0x09 || n == 0x0A || n == 0x0D || (0x20 ≤ n && n ≤ 0x7E) || n == 0x85 || (0xA0 ≤ n && n ≤ 0xD7FF)
    || (0xE000 ≤ n && n ≤ 0xFFFD) || 0x10000 ≤ n

/-- Whether a character ends a line. -/
def isBreak (c : Char) : Bool := c == '\n' || c == '\u2028' || c == '\u2029'

/-- Whether a character is a space or a tab. -/
def isSpacing (c : Char) : Bool := c == ' ' || c == '\t'

/-- The characters with their places, from a given place on.  A carriage return, alone or before a line feed, and the
character U+0085 are read as line feeds. -/
def placeFrom (line column index : Nat) : List Char → List Placed
  | [] => []
  | '\r' :: '\n' :: rest => ⟨'\n', line, column, index⟩ :: placeFrom (line + 1) 0 (index + 2) rest
  | c :: rest =>
    let c := if c == '\r' || c == '\u0085' then '\n' else c
    ⟨c, line, column, index⟩ ::
      if isBreak c then placeFrom (line + 1) 0 (index + 1) rest else placeFrom line (column + 1) (index + 1) rest

/-- The characters of a text with their places, if all of them may occur. -/
def place? (text : List Char) : Option (List Placed) :=
  if text.all mayOccur then some (placeFrom 0 0 0 text) else none

/-- The character that may stand, without a meaning, at the beginning of a line. -/
def byteOrderMark : Char := '\ufeff'

/-- Whether a word ends before the given characters. -/
def endsWord : List Placed → Bool
  | [] => true
  | p :: _ => isSpacing p.char || isBreak p.char

/-- The characters behind a given mark, if it stands at the front. -/
def behind? : List Char → List Placed → Option (List Placed)
  | [], cs => some cs
  | _ :: _, [] => none
  | m :: mark, p :: rest => if m == p.char then behind? mark rest else none

/-- The characters behind a line that consists of a mark between documents. -/
def behindMarker? (marker : List Char) (cs : List Placed) : Option (List Placed) :=
  match cs with
  | p :: _ => if p.column == 0 then (behind? marker cs).filter endsWord else none
  | [] => none

/-- The mark that begins a document. -/
def documentOpening : List Char := ['-', '-', '-']

/-- The mark that ends a document. -/
def documentClosing : List Char := ['.', '.', '.']

/-- Whether a mark between documents stands at the front. -/
def atMarker (cs : List Placed) : Bool :=
  (behindMarker? documentOpening cs).isSome || (behindMarker? documentClosing cs).isSome

/-- The characters from the next one that belongs to the structure on, and whether a key may begin there.  Spaces, line
breaks, comments and a byte order mark that begins a line are passed over, and tabs where no key can be; outside
brackets every new line may begin with a key. -/
def skipFiller (inBrackets keyAllowed inComment : Bool) : List Placed → List Placed × Bool
  | [] => ([], keyAllowed)
  | p :: rest =>
    if isBreak p.char then skipFiller inBrackets (keyAllowed || !inBrackets) false rest
    else if inComment then skipFiller inBrackets keyAllowed true rest
    else if p.char == ' ' || (p.char == '\t' && (inBrackets || !keyAllowed))
        || (p.char == byteOrderMark && p.column == 0) then
      skipFiller inBrackets keyAllowed false rest
    else if p.char == '#' then skipFiller inBrackets keyAllowed true rest
    else (p :: rest, keyAllowed)

end RobotPhrase.Yaml
