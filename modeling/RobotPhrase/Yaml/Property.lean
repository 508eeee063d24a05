import RobotPhrase.Yaml.Scalar

/-!
# Anchors, tags and directives of YAML

An anchor names a node, so that an alias can stand for it elsewhere, and a tag says of what type it is.  A tag is
written in full between angle brackets, or as a handle and the rest of the tag behind it; directives before a document
say for which version it is written and what handles stand for.
-/

namespace RobotPhrase.Yaml

/-- Whether a character may stand in the name of an anchor, a handle or a directive. -/
def isNameChar (c : Char) : Bool := c.isAlphanum || c == '_' || c == '-'

/-- The characters at the front that have a property, and the rest. -/
def spanChars (p : Char → Bool) (cs : List Placed) : List Char × List Placed :=
  ((cs.takeWhile fun q => p q.char).map Placed.char, cs.dropWhile fun q => p q.char)

/-- The name of an anchor at the front, and the rest. -/
def anchorName? (cs : List Placed) : Option (String × List Placed) :=
  match spanChars isNameChar cs with
  | ([], _) => none
  | (name, rest) =>
    if endsWord rest || rest.head?.any (fun p => "?:,]\x7d%@\x60".toList.contains p.char) then
      some (String.ofList name, rest)
    else none

/-! ### Tags -/

/-- Whether a character may stand in a tag; some may only if the tag is written in full. -/
def isTagChar (full : Bool) (c : Char) : Bool :=
  isNameChar c || ";/?:@&=+$.!~*'()".toList.contains c || (full && (c == ',' || c == '[' || c == ']'))

/-- The byte that is written as a percent sign and two hexadecimal digits, and the rest. -/
private def escapedByte? : List Placed → Option (Nat × List Placed)
  | p :: q :: r :: rest =>
    if p.char == '%' then do
      return (16 * (← hexDigit? q.char) + (← hexDigit? r.char), rest)
    else none
  | _ => none

/-- The bytes that continue a character, of which `missing` are still to be read behind `code`. -/
private def escapedRest? (code : Nat) : (missing : Nat) → List Placed → Option (Nat × List Placed)
  | 0, cs => some (code, cs)
  | missing + 1, cs => do
    let (byte, cs) ← escapedByte? cs
    if byte / 64 = 2 then escapedRest? (64 * code + byte % 64) missing cs else none

/-- The character that is written as percent signs and its bytes, and the rest.  Bytes that make no character in its
shortest form are replaced. -/
private def escapedChar? (cs : List Placed) : Option (Char × List Placed) := do
  let (byte, cs) ← escapedByte? cs
  let (least, code, missing) ←
    if byte < 0x80 then some (0, byte, 0)
    else if byte / 32 = 6 then some (0x80, byte % 32, 1)
    else if byte / 16 = 14 then some (0x800, byte % 16, 2)
    else if byte / 8 = 30 then some (0x10000, byte % 8, 3)
    else none
  let (code, cs) ← escapedRest? code missing cs
  return (if least ≤ code then (charOfCode? code).getD '\ufffd' else '\ufffd', cs)

/-- The characters of a tag at the front, and the rest.  Every character takes one unit of `fuel`. -/
private def tagCharsFrom? (full : Bool) : (fuel : Nat) → List Placed → Option (List Char × List Placed)
  | 0, _ => none
  | _ + 1, [] => some ([], [])
  | fuel + 1, p :: rest =>
    if p.char == '%' then do
      let (c, rest) ← escapedChar? (p :: rest)
      (tagCharsFrom? full fuel rest).map fun (cs, r) => (c :: cs, r)
    else if isTagChar full p.char then (tagCharsFrom? full fuel rest).map fun (cs, r) => (p.char :: cs, r)
    else some ([], p :: rest)

def tagChars? (full : Bool) (cs : List Placed) : Option (List Char × List Placed) :=
  tagCharsFrom? full (cs.length + 1) cs

/-- A tag as it is written; a tag that is written in full has no handle. -/
structure TagText where
  handle : String
  ending : String
  deriving DecidableEq, Repr

/-- The tag behind an exclamation mark, and the rest. -/
def tagText? (cs : List Placed) : Option (TagText × List Placed) :=
  match behind? ['<'] cs with
  | some cs => do
    let (text, rest) ← tagChars? true cs
    let rest ← behind? ['>'] rest
    if text.isEmpty then none else return (⟨"", String.ofList text⟩, rest)
  | none =>
    let (name, rest) := spanChars isNameChar cs
    match behind? ['!'] rest with
    | some rest => do
      let (text, rest) ← tagChars? false rest
      if text.isEmpty then none
      else return (⟨String.ofList ('!' :: name ++ ['!']), String.ofList text⟩, rest)
    | none => do
      let (text, rest) ← tagChars? false cs
      -- an exclamation mark alone is a tag of its own
      return (if text.isEmpty then ⟨"", "!"⟩ else ⟨"!", String.ofList text⟩, rest)

/-- The tag behind an exclamation mark, if something else follows, and the rest. -/
def tag? (inBrackets : Bool) (cs : List Placed) : Option (TagText × List Placed) :=
  (tagText? cs).filter fun (_, rest) => endsWord rest || (inBrackets && rest.head?.any fun p => p.char == ',')

/-! ### Directives -/

inductive Directive
  | version (major minor : Nat)
  /-- What a handle stands for. -/
  | handle (name stands : String)
  deriving DecidableEq, Repr

/-- The greatest number of digits in the number of a version. -/
def maxVersionLength : Nat := 9

private def versionNumber? (cs : List Placed) : Option (Nat × List Placed) :=
  let (digits, rest) := spanChars Char.isDigit cs
  if digits.isEmpty || maxVersionLength < digits.length then none
  else some (digits.foldl (fun n c => 10 * n + (c.toNat - '0'.toNat)) 0, rest)

private def versionDirective? (cs : List Placed) : Option (Directive × List Placed) := do
  let (major, cs) ← versionNumber? (spanChars isSpacing cs).2
  let cs ← behind? ['.'] cs
  let (minor, cs) ← versionNumber? cs
  return (.version major minor, cs)

/-- A handle in a directive: an exclamation mark, alone or before a name and a second one. -/
private def handleName? (cs : List Placed) : Option (String × List Placed) := do
  let (name, rest) := spanChars isNameChar (← behind? ['!'] cs)
  match behind? ['!'] rest with
  | some rest => return (String.ofList ('!' :: name ++ ['!']), rest)
  | none => if name.isEmpty then return ("!", rest) else none

private def handleDirective? (cs : List Placed) : Option (Directive × List Placed) := do
  let (name, cs) ← handleName? (spanChars isSpacing cs).2
  let (spacing, cs) := spanChars isSpacing cs
  let (stands, cs) ← tagChars? true cs
  if spacing.isEmpty || stands.isEmpty || !endsWord cs then none
  else return (.handle name (String.ofList stands), cs)

/-- The directive behind a percent sign, and the characters behind its line. -/
def directive? (cs : List Placed) : Option (Directive × List Placed) := do
  let (name, cs) := spanChars isNameChar cs
  let (directive, cs) ←
    if !endsWord cs then none
    else match String.ofList name with
      | "YAML" => versionDirective? cs
      | "TAG" => handleDirective? cs
      | _ => none
  return (directive, ← endOfLine? false cs)

end RobotPhrase.Yaml
