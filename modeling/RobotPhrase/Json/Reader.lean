import RobotPhrase.Json.Value
import RobotPhrase.Number.Hexadecimal

/-!
# Reading JSON

The grammar is the strict one: nothing but blanks may stand around the value, and there are no comments, no trailing
commas, no leading zeros and no control characters in strings.
-/

namespace RobotPhrase.Json

private def isSpace (c : Char) : Bool := c == ' ' || c == '\t' || c == '\n' || c == '\r'

private def skipSpaces (cs : List Char) : List Char := cs.dropWhile isSpace

private def unit16? (a b c d : Char) : Option Nat := do
  return ((((← hexDigit? a) * 16 + (← hexDigit? b)) * 16 + (← hexDigit? c)) * 16) + (← hexDigit? d)

/-- A part of a string: a character, or a unit of 16 bits written as an escape. -/
private inductive Part
  | char (c : Char)
  | unit (n : Nat)

/-- The text that the parts of a string spell, if every surrogate has its partner. -/
private def spell : List Part → Option (List Char)
  | [] => some []
  | .char c :: rest => (spell rest).map (c :: ·)
  | .unit n :: rest =>
    if 0xDC00 ≤ n && n ≤ 0xDFFF then none
    else if 0xD800 ≤ n && n ≤ 0xDBFF then
      match rest with
      | .unit low :: rest =>
        if 0xDC00 ≤ low && low ≤ 0xDFFF then
          (spell rest).map (Char.ofNat (0x10000 + (n - 0xD800) * 0x400 + (low - 0xDC00)) :: ·)
        else none
      | _ => none
    else (spell rest).map (Char.ofNat n :: ·)

private def escape? (c : Char) : Option Char :=
  [('"', '"'), ('\\', '\\'), ('/', '/'), ('b', '\x08'), ('f', '\x0c'), ('n', '\n'), ('r', '\r'), ('t', '\t')].lookup c

/-- The parts of a string up to its closing quote, and the rest. -/
private def stringParts : List Char → Option (List Part × List Char)
  | [] => none
  | '"' :: rest => some ([], rest)
  | '\\' :: 'u' :: a :: b :: c :: d :: rest => do
    let n ← unit16? a b c d
    let (parts, rest) ← stringParts rest
    return (.unit n :: parts, rest)
  | '\\' :: c :: rest => do
    let c ← escape? c
    let (parts, rest) ← stringParts rest
    return (.char c :: parts, rest)
  | c :: rest =>
    if c.toNat < 0x20 || c == '\\' then none
    else (stringParts rest).map fun (parts, rest) => (.char c :: parts, rest)

private def stringValue (parts : List Part) : Value :=
  match spell parts with
  | some cs => .text (String.ofList cs)
  | none => .brokenText

/-- The power of ten that may end a number. -/
private def exponentAt (cs : List Char) : Option (Option Int × List Char) :=
  match cs with
  | c :: rest =>
    if c == 'e' || c == 'E' then
      let (negative, rest) := match rest with
        | '-' :: rest => (true, rest)
        | '+' :: rest => (false, rest)
        | rest => (false, rest)
      let digits := rest.takeWhile Char.isDigit
      if digits.isEmpty then none
      else
        let size : Int := Numeral.digitsValue digits
        some (some (if negative then -size else size), rest.dropWhile Char.isDigit)
    else some (none, cs)
  | [] => some (none, [])

private def numberAt (cs : List Char) : Option (Number × List Char) := do
  let (negative, cs) := match cs with
    | '-' :: rest => (true, rest)
    | cs => (false, cs)
  let whole := cs.takeWhile Char.isDigit
  let rest := cs.dropWhile Char.isDigit
  if whole.isEmpty || (whole.head? == some '0' && 1 < whole.length) then none
  else match rest with
    | '.' :: rest =>
      let fraction := rest.takeWhile Char.isDigit
      if fraction.isEmpty then none
      else
        let (exponent, rest) ← exponentAt (rest.dropWhile Char.isDigit)
        return (⟨negative, whole, fraction, exponent⟩, rest)
    | rest =>
      let (exponent, rest) ← exponentAt rest
      return (⟨negative, whole, [], exponent⟩, rest)

mutual

/-- The value at the front of a text, and the rest.  Every step down takes one unit of `fuel`. -/
private def valueAt : Nat → List Char → Option (Value × List Char)
  | 0, _ => none
  | fuel + 1, cs =>
    match skipSpaces cs with
    | 'n' :: 'u' :: 'l' :: 'l' :: rest => some (.null, rest)
    | 't' :: 'r' :: 'u' :: 'e' :: rest => some (.bool true, rest)
    | 'f' :: 'a' :: 'l' :: 's' :: 'e' :: rest => some (.bool false, rest)
    | '"' :: rest => (stringParts rest).map fun (parts, rest) => (stringValue parts, rest)
    | '[' :: rest =>
      match skipSpaces rest with
      | ']' :: rest => some (.list [], rest)
      | rest => (itemsAt fuel rest).map fun (items, rest) => (.list items, rest)
    | '\x7b' :: rest =>
      match skipSpaces rest with
      | '\x7d' :: rest => some (.object [], rest)
      | rest => (membersAt fuel rest).map fun (members, rest) => (.object members, rest)
    | cs => (numberAt cs).map fun (n, rest) => (.number n, rest)

private def itemsAt : Nat → List Char → Option (List Value × List Char)
  | 0, _ => none
  | fuel + 1, cs => do
    let (item, rest) ← valueAt fuel cs
    match skipSpaces rest with
    | ']' :: rest => return ([item], rest)
    | ',' :: rest =>
      let (items, rest) ← itemsAt fuel rest
      return (item :: items, rest)
    | _ => none

private def membersAt : Nat → List Char → Option (List (String × Value) × List Char)
  | 0, _ => none
  | fuel + 1, cs =>
    match skipSpaces cs with
    | '"' :: rest => do
      let (parts, rest) ← stringParts rest
      let name ← spell parts
      match skipSpaces rest with
      | ':' :: rest =>
        let (value, rest) ← valueAt fuel rest
        let entry := (String.ofList name, value)
        match skipSpaces rest with
        | '\x7d' :: rest => return ([entry], rest)
        | ',' :: rest =>
          let (members, rest) ← membersAt fuel rest
          return (entry :: members, rest)
        | _ => none
      | _ => none
    | _ => none

end

/-- The value that a text spells. -/
def parse? (s : String) : Option Value := do
  let cs := s.toList
  let (value, rest) ← valueAt (2 * cs.length + 2) cs
  if (skipSpaces rest).isEmpty then return value else none

end RobotPhrase.Json
