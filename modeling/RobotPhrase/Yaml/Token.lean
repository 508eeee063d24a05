import RobotPhrase.Yaml.Property

/-!
# YAML tokens

A text is cut into scalars and marks.  Blocks have no marks of their own: a block opens where a dash, or a key before a
colon, stands deeper than the block around it, and closes at the first token that stands less deep.  That a scalar or
a bracket begins a key shows only at the colon behind it, so the mark for the key is put in front of it then; a question
mark announces a key.
-/

namespace RobotPhrase.Yaml

/-- How a scalar is spelled. -/
inductive Style
  | plain | quoted | literal | folded
  deriving DecidableEq, Repr

inductive Token
  | scalar (style : Style) (text : String)
  | anchor (name : String)
  | reference (name : String)
  | tag (text : TagText)
  | directive (d : Directive)
  /-- The dash before an item of a block. -/
  | dash
  | key
  | colon
  | sequenceOpen
  | mappingOpen
  | blockClose
  | listOpen
  | listClose
  | objectOpen
  | objectClose
  | comma
  | documentOpen
  | documentClose
  deriving DecidableEq, Repr

/-- A place where a key may begin. -/
structure KeyStart where
  /-- The number of tokens before it. -/
  place : Nat
  start : Placed
  /-- Whether nothing but a key can stand there. -/
  required : Bool

/-- The tokens read so far, and what decides how to go on. -/
structure Scan where
  /-- The tokens, latest first. -/
  tokens : List Token := []
  /-- The number of tokens. -/
  count : Nat := 0
  /-- The columns of the open blocks, innermost first. -/
  indents : List Nat := []
  /-- Whether a key may begin at the next token. -/
  keyAllowed : Bool := true
  /-- The place since which a key may be pending, between the innermost brackets. -/
  key : Option KeyStart := none
  /-- The places since which keys may be pending around each of the open brackets, innermost first. -/
  outer : List (Option KeyStart) := []

namespace Scan

def inBrackets (s : Scan) : Bool := !s.outer.isEmpty

/-- The column of the innermost block. -/
def indent (s : Scan) : Int := (s.indents.head?.map Int.ofNat).getD (-1)

def push (s : Scan) (t : Token) : Scan := { s with tokens := t :: s.tokens, count := s.count + 1 }

/-- Puts a token in front of those after a given place. -/
def insert (s : Scan) (place : Nat) (t : Token) : Scan :=
  let later := s.count - place
  { s with tokens := s.tokens.take later ++ t :: s.tokens.drop later, count := s.count + 1 }

/-- Closes the blocks that are deeper than a column. -/
def closeBlocks (s : Scan) (column : Int) : Scan :=
  if s.inBrackets then s
  else
    let closed := s.indents.takeWhile fun (i : Nat) => column < i
    { s with
      indents := s.indents.drop closed.length
      tokens := List.replicate closed.length .blockClose ++ s.tokens
      count := s.count + closed.length }

/-- Opens a block at a column, unless one is open there; its mark goes to a given place. -/
def openBlock (s : Scan) (column place : Nat) (t : Token) : Scan :=
  if s.inBrackets || (column : Int) ≤ s.indent then s
  else { s.insert place t with indents := column :: s.indents }

/-- Gives up the pending key. -/
def dropKey? (s : Scan) : Option Scan :=
  if s.key.any KeyStart.required then none else some { s with key := none }

/-- How far the colon of a key may be from its beginning. -/
def maxKeyLength : Nat := 1024

/-- Gives up a pending key that has become too long, or is not on the line of the next token. -/
def expireKey? (s : Scan) (next : Placed) : Option Scan :=
  if s.key.any fun k => k.start.line < next.line || k.start.index + maxKeyLength < next.index then s.dropKey?
  else some s

/-- Notes that a key may begin at a character. -/
def noteKey? (s : Scan) (p : Placed) : Option Scan :=
  if s.keyAllowed then do
    let s ← s.dropKey?
    return { s with key := some ⟨s.count, p, !s.inBrackets && s.indent == p.column⟩ }
  else some s

/-- A mark between documents, or a directive before one. -/
def marker? (s : Scan) (t : Token) : Option Scan := do
  let s ← (s.closeBlocks (-1)).dropKey?
  return { s with keyAllowed := false }.push t

/-- A bracket that opens. -/
def open? (s : Scan) (p : Placed) (t : Token) : Option Scan := do
  let s ← s.noteKey? p
  return { s with outer := s.key :: s.outer, key := none, keyAllowed := true }.push t

/-- A bracket that closes. -/
def close? (s : Scan) (t : Token) : Option Scan := do
  let s ← s.dropKey?
  return { s with key := s.outer.head?.join, outer := s.outer.tail, keyAllowed := false }.push t

def comma? (s : Scan) : Option Scan := do
  let s ← s.dropKey?
  return { s with keyAllowed := true }.push .comma

/-- A dash before an item. -/
def dash? (s : Scan) (p : Placed) : Option Scan :=
  if s.inBrackets || s.keyAllowed then do
    let s ← (s.openBlock p.column s.count .sequenceOpen).dropKey?
    return { s with keyAllowed := true }.push .dash
  else none

/-- A colon behind a key. -/
def colon? (s : Scan) (p : Placed) : Option Scan :=
  match s.key with
  | some k =>
    let s := (s.insert k.place .key).openBlock k.start.column k.place .mappingOpen
    some ({ s with key := none, keyAllowed := false }.push .colon)
  | none =>
    if s.inBrackets || s.keyAllowed then
      some ({ s.openBlock p.column s.count .mappingOpen with keyAllowed := !s.inBrackets }.push .colon)
    else none

/-- A question mark before a key. -/
def question? (s : Scan) (p : Placed) : Option Scan :=
  if s.inBrackets || s.keyAllowed then do
    let s ← (s.openBlock p.column s.count .mappingOpen).dropKey?
    return { s with keyAllowed := !s.inBrackets }.push .key
  else none

/-- A token with which a key may begin; `keyAllowed` tells whether another may begin right behind it. -/
def word? (s : Scan) (p : Placed) (t : Token) (keyAllowed : Bool) : Option Scan := do
  let s ← s.noteKey? p
  return { s with keyAllowed := keyAllowed }.push t

/-- A block scalar. -/
def block? (s : Scan) (style : Style) (text : List Char) : Option Scan := do
  let s ← s.dropKey?
  return { s with keyAllowed := true }.push (.scalar style (String.ofList text))

/-- Whether a plain scalar may begin with a character.  A tab that was not passed over cannot begin one. -/
def beginsPlain (s : Scan) (c : Char) (rest : List Placed) : Bool :=
  if c == '-' then !endsWord rest
  else if c == '?' || c == ':' then !s.inBrackets && !endsWord rest
  else !isSpacing c && !"[]\x7b\x7d,#&*!|>'\"%@`".toList.contains c

/-- Reads a token that is neither a directive nor a mark between documents. -/
private def nodeToken? (s : Scan) (p : Placed) (rest : List Placed) : Option (Scan × List Placed) :=
  match p.char with
  | '[' => return (← s.open? p .listOpen, rest)
  | '\x7b' => return (← s.open? p .objectOpen, rest)
  | ']' => return (← s.close? .listClose, rest)
  | '\x7d' => return (← s.close? .objectClose, rest)
  | ',' => return (← s.comma?, rest)
  | '*' => do
    let (name, rest) ← anchorName? rest
    return (← s.word? p (.reference name) false, rest)
  | '&' => do
    let (name, rest) ← anchorName? rest
    return (← s.word? p (.anchor name) false, rest)
  | '!' => do
    let (text, rest) ← tag? s.inBrackets rest
    return (← s.word? p (.tag text) false, rest)
  | '\'' => do
    let (text, rest) ← singleQuotedFrom .none rest
    return (← s.word? p (.scalar .quoted (String.ofList text)) false, rest)
  | '"' => do
    let (text, rest) ← doubleQuotedFrom .none none rest
    return (← s.word? p (.scalar .quoted (String.ofList text)) false, rest)
  | c =>
    if c == '-' && endsWord rest then return (← s.dash? p, rest)
    else if c == '?' && (s.inBrackets || endsWord rest) then return (← s.question? p, rest)
    else if c == ':' && (s.inBrackets || endsWord rest) then return (← s.colon? p, rest)
    else if (c == '|' || c == '>') && !s.inBrackets then do
      let (text, rest) ← Yaml.block? (c == '>') s.indent rest
      return (← s.block? (if c == '>' then .folded else .literal) text, rest)
    else if s.beginsPlain c rest then do
      let (text, rest, gap) ← plainFrom s.inBrackets (s.indent + 1) .none (p :: rest)
      return (← s.word? p (.scalar .plain (String.ofList text)) gap.hasBreak, rest)
    else none

/-- Reads the token at the front. -/
def token? (s : Scan) (p : Placed) (rest : List Placed) : Option (Scan × List Placed) :=
  if p.column == 0 && p.char == '%' then do
    let (d, rest) ← directive? rest
    return (← s.marker? (.directive d), rest)
  else match behindMarker? documentOpening (p :: rest), behindMarker? documentClosing (p :: rest) with
    | some rest, _ => return (← s.marker? .documentOpen, rest)
    | none, some rest => return (← s.marker? .documentClose, rest)
    | none, none => s.nodeToken? p rest

/-- Reads all tokens.  Every token takes one unit of `fuel`. -/
def run? : Nat → Scan → List Placed → Option (List Token)
  | 0, _, _ => none
  | fuel + 1, s, cs =>
    match skipFiller s.inBrackets s.keyAllowed false cs with
    | ([], _) => do
      let s ← (s.closeBlocks (-1)).dropKey?
      return s.tokens.reverse
    | (p :: rest, keyAllowed) => do
      let s ← { s with keyAllowed := keyAllowed }.expireKey? p
      let (s, rest) ← (s.closeBlocks p.column).token? p rest
      run? fuel s rest

end Scan

/-- The tokens of a text. -/
def tokens? (text : List Char) : Option (List Token) := do
  let cs ← place? text
  Scan.run? (cs.length + 1) { } cs

end RobotPhrase.Yaml
