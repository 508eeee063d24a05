import RobotPhrase.Number.Hexadecimal
import RobotPhrase.Yaml.Source

/-!
# YAML scalars

The text of a scalar in its spellings: plain, between single or double quotes, and as a block whose lines are kept or
folded.  Outside blocks a scalar may run over several lines; a single line break in it then stands for a space, and of
several the first is left out.  The same happens between the lines of a folded block.
-/

namespace RobotPhrase.Yaml

/-- What stands between two words of a scalar: spacing on one line, or line breaks. -/
inductive Gap
  | spacing (cs : List Char)
  | breaks (first : Option Char) (more : List Char)
  deriving DecidableEq, Repr

namespace Gap

def none : Gap := spacing []

/-- A gap made longer by a space, a tab or a line break. -/
def push (c : Char) : Gap → Gap
  | spacing cs => if isBreak c then breaks (some c) [] else spacing (cs ++ [c])
  | breaks first more => breaks first (if isBreak c then more ++ [c] else more)

/-- The text that a gap stands for. -/
def text : Gap → List Char
  | spacing cs => cs
  | breaks .none more => more
  | breaks (some '\n') [] => [' ']
  | breaks (some '\n') more => more
  | breaks (some c) more => c :: more

def hasBreak : Gap → Bool
  | spacing _ => false
  | breaks _ _ => true

def isEmpty (g : Gap) : Bool := g == none

end Gap

/-- The characters that structure a text between brackets. -/
def isBracketMark (c : Char) : Bool := c == ',' || c == '[' || c == ']' || c == '\x7b' || c == '\x7d'

/-- Whether a plain scalar stops before a character that follows a gap. -/
private def stopsBehind (inBrackets : Bool) (indent : Int) (gap : Gap) (p : Placed) (rest : List Placed) : Bool :=
  !gap.isEmpty && ((!inBrackets && (p.column : Int) < indent) || atMarker (p :: rest) || p.char == '#')

/-- Whether a plain scalar stops before a character. -/
private def stopsAt (inBrackets : Bool) (c : Char) (rest : List Placed) : Bool :=
  (c == ':' && endsWord rest) || (inBrackets && isBracketMark c)

/-- Whether a colon stands right before a character that structures the text between brackets. -/
private def isMisplacedColon (c : Char) (rest : List Placed) : Bool :=
  c == ':' && rest.head?.any fun q => isBracketMark q.char || q.char == '?'

/-- The rest of a plain scalar behind a gap, the characters after it, and the gap at its end. -/
def plainFrom (inBrackets : Bool) (indent : Int) (gap : Gap) :
    List Placed → Option (List Char × List Placed × Gap)
  | [] => some ([], [], gap)
  | p :: rest =>
    if isBreak p.char || isSpacing p.char then
      if gap.hasBreak && p.char == '\t' && (p.column : Int) < indent then none
      else plainFrom inBrackets indent (gap.push p.char) rest
    else if stopsBehind inBrackets indent gap p rest then some ([], p :: rest, gap)
    else if inBrackets && isMisplacedColon p.char rest then none
    else if stopsAt inBrackets p.char rest then some ([], p :: rest, gap)
    else (plainFrom inBrackets indent .none rest).map fun (cs, rest) => (gap.text ++ p.char :: cs, rest)

/-- The rest of a scalar between single quotes behind a gap, and the characters after it.  A quote inside is written
twice. -/
def singleQuotedFrom (gap : Gap) : List Placed → Option (List Char × List Placed)
  | [] => none
  | p :: rest =>
    if isBreak p.char || isSpacing p.char then singleQuotedFrom (gap.push p.char) rest
    else if atMarker (p :: rest) then none
    else if p.char == '\'' then
      match rest with
      | q :: rest' =>
        if q.char == '\'' then (singleQuotedFrom .none rest').map fun (cs, r) => (gap.text ++ '\'' :: cs, r)
        else some (gap.text, rest)
      | [] => some (gap.text, [])
    else (singleQuotedFrom .none rest).map fun (cs, r) => (gap.text ++ p.char :: cs, r)

/-- The character that is written as a backslash and a given one. -/
def escape? : Char → Option Char
  | '0' => some '\x00'
  | 'a' => some '\x07'
  | 'b' => some '\x08'
  | 't' | '\t' => some '\t'
  | 'n' => some '\n'
  | 'v' => some '\x0b'
  | 'f' => some '\x0c'
  | 'r' => some '\r'
  | 'e' => some '\x1b'
  | ' ' => some ' '
  | '"' => some '"'
  | '/' => some '/'
  | '\\' => some '\\'
  | 'N' => some '\u0085'
  | '_' => some '\u00a0'
  | 'L' => some '\u2028'
  | 'P' => some '\u2029'
  | _ => none

/-- The number of hexadecimal digits of the code of a character, by the letter before it. -/
def codeLength? : Char → Option Nat
  | 'x' => some 2
  | 'u' => some 4
  | 'U' => some 8
  | _ => none

/-- A code that is being read: its digits so far, and how many are missing. -/
structure Code where
  value : Nat
  missing : Nat
  deriving DecidableEq, Repr

/-- The rest of a scalar between double quotes behind a gap, and the characters after it.  A backslash begins the code
of a character, or takes away the line break behind it. -/
def doubleQuotedFrom (gap : Gap) (code : Option Code) : List Placed → Option (List Char × List Placed)
  | [] => none
  | p :: rest =>
    match code with
    | some ⟨value, missing⟩ => do
      let value := 16 * value + (← hexDigit? p.char)
      if missing ≤ 1 then
        let c ← charOfCode? value
        (doubleQuotedFrom .none none rest).map fun (cs, r) => (c :: cs, r)
      else doubleQuotedFrom .none (some ⟨value, missing - 1⟩) rest
    | none =>
      if isBreak p.char || isSpacing p.char then doubleQuotedFrom (gap.push p.char) none rest
      else if atMarker (p :: rest) then none
      else if p.char == '"' then some (gap.text, rest)
      else if p.char == '\\' then
        match rest with
        | q :: rest =>
          if isBreak q.char then
            (doubleQuotedFrom (.breaks .none []) none rest).map fun (cs, r) => (gap.text ++ cs, r)
          else match escape? q.char, codeLength? q.char with
            | some c, _ => (doubleQuotedFrom .none none rest).map fun (cs, r) => (gap.text ++ c :: cs, r)
            | none, some n => (doubleQuotedFrom .none (some ⟨0, n⟩) rest).map fun (cs, r) => (gap.text ++ cs, r)
            | none, none => none
        | [] => none
      else (doubleQuotedFrom .none none rest).map fun (cs, r) => (gap.text ++ p.char :: cs, r)

/-- What becomes of the line breaks at the end of a block scalar. -/
inductive Chomping
  | clip | strip | keep
  deriving DecidableEq, Repr

/-- The first line of a block scalar: its chomping, and how much deeper than its surroundings the block is. -/
structure BlockHeader where
  chomping : Chomping := .clip
  depth : Option Nat := none
  deriving DecidableEq, Repr

private def chompingAt? : List Placed → Option (Chomping × List Placed)
  | p :: rest => if p.char == '+' then some (.keep, rest) else if p.char == '-' then some (.strip, rest) else none
  | [] => none

private def depthAt? : List Placed → Option (Nat × List Placed)
  | p :: rest => if p.char.isDigit then some (p.char.toNat - '0'.toNat, rest) else none
  | [] => none

/-- The header of a block scalar, whose parts may come in either order, and the characters behind it. -/
def blockHeader? (cs : List Placed) : Option (BlockHeader × List Placed) :=
  let read : BlockHeader × List Placed :=
    match chompingAt? cs, depthAt? cs with
    | some (chomping, rest), _ => match depthAt? rest with
      | some (depth, rest) => (⟨chomping, some depth⟩, rest)
      | none => (⟨chomping, none⟩, rest)
    | none, some (depth, rest) => match chompingAt? rest with
      | some (chomping, rest) => (⟨chomping, some depth⟩, rest)
      | none => (⟨.clip, some depth⟩, rest)
    | none, none => ({ }, cs)
  if read.1.depth == some 0 then none else some read

/-- The characters behind the line break that ends a line which holds nothing but spacing and a comment. -/
def endOfLine? (inComment : Bool) : List Placed → Option (List Placed)
  | [] => some []
  | p :: rest =>
    if isBreak p.char then some rest
    else if inComment || isSpacing p.char then endOfLine? inComment rest
    else if p.char == '#' then endOfLine? true rest
    else none

/-- The greatest number of spaces before the end of one of the empty lines at the front, or before the first character
of the line behind them.  A tab may not stand there. -/
def deepest? (deepest : Nat) : List Placed → Option Nat
  | [] => some deepest
  | p :: rest =>
    if p.char == ' ' then deepest? (max deepest (p.column + 1)) rest
    else if p.char == '\t' then none
    else if isBreak p.char then deepest? deepest rest
    else some deepest

/-- The line breaks before a line of a block scalar: the one that ends the line before it, unless there is none; those
of the empty lines between them; and whether the line before begins with spacing. -/
structure LineBreaks where
  first : Option Char := none
  more : List Char := []
  behindSpacing : Bool := false

namespace LineBreaks

def push (c : Char) (b : LineBreaks) : LineBreaks := { b with more := b.more ++ [c] }

def all (b : LineBreaks) : List Char := b.first.toList ++ b.more

/-- The text that the line breaks stand for before a character.  Where lines are folded, only those next to a line that
begins with spacing stand for themselves. -/
def text (b : LineBreaks) (folded : Bool) (next : Char) : List Char :=
  if folded && !b.behindSpacing && !isSpacing next then (Gap.breaks b.first b.more).text else b.all

end LineBreaks

/-- The lines of a block scalar with a given indentation, without the line breaks at its end; these line breaks; and the
characters behind the block.  `line` tells, inside a line, whether that line begins with spacing; elsewhere `pending`
are the line breaks before the current place. -/
def blockFrom (folded : Bool) (indent : Nat) (line : Option Bool) (pending : LineBreaks) :
    List Placed → Option (List Char × LineBreaks × List Placed)
  | [] => some ([], pending, [])
  | p :: rest =>
    match line with
    | some spacing =>
      if isBreak p.char then blockFrom folded indent none ⟨some p.char, [], spacing⟩ rest
      else (blockFrom folded indent line { } rest).map fun (cs, r) => (p.char :: cs, r)
    | none =>
      if isBreak p.char then blockFrom folded indent none (pending.push p.char) rest
      else if p.column < indent then
        if p.char == ' ' then blockFrom folded indent none pending rest
        else if p.char == '\t' then none
        else some ([], pending, p :: rest)
      else (blockFrom folded indent (some (isSpacing p.char)) { } rest).map fun (cs, r) =>
        (pending.text folded p.char ++ p.char :: cs, r)

/-- A block scalar behind its mark, inside a block with a given indentation, and the characters behind it. -/
def block? (folded : Bool) (parent : Int) (cs : List Placed) : Option (List Char × List Placed) := do
  let (header, cs) ← blockHeader? cs
  let cs ← endOfLine? false cs
  let indent ← match header.depth with
    | some depth => some ((max parent 0).toNat + depth)
    | none => (deepest? 0 cs).map fun deepest => max deepest (max (parent + 1) 1).toNat
  let (text, breaks, rest) ← blockFrom folded indent none { } cs
  let ending := match header.chomping with
    | .strip => []
    | .keep => breaks.all
    | .clip => breaks.first.toList
  return (text ++ ending, rest)

end RobotPhrase.Yaml
