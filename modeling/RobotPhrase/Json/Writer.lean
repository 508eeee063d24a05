import RobotPhrase.Json.Value

/-!
# Writing JSON

`compact` writes a value on one line, `pretty?` with one item a line and two blanks for each level; the second fails on
a string that stands for no text, the first writes null for it.
-/

namespace RobotPhrase.Json

private def hexChar (n : Nat) : Char := if n < 10 then Char.ofNat ('0'.toNat + n) else Char.ofNat ('a'.toNat + n - 10)

/-- A character inside a string: quotes, backslashes and control characters are escaped. -/
private def escaped (c : Char) : List Char :=
  match c with
  | '"' => ['\\', '"']
  | '\\' => ['\\', '\\']
  | '\x08' => ['\\', 'b']
  | '\x0c' => ['\\', 'f']
  | '\n' => ['\\', 'n']
  | '\r' => ['\\', 'r']
  | '\t' => ['\\', 't']
  | c => if c.toNat < 0x20 then ['\\', 'u', '0', '0', hexChar (c.toNat / 16), hexChar (c.toNat % 16)] else [c]

/-- A string with its quotes. -/
def quote (s : String) : String := String.ofList ('"' :: s.toList.flatMap escaped ++ ['"'])

mutual

def compact : Value → String
  | .null => "null"
  | .bool b => if b then "true" else "false"
  | .number n => String.ofList n.text
  | .text s => quote s
  | .brokenText => "null"
  | .list items => "[" ++ ",".intercalate (compactItems items) ++ "]"
  | .object members => "\x7b" ++ ",".intercalate (compactMembers members) ++ "\x7d"

private def compactItems : List Value → List String
  | [] => []
  | v :: rest => compact v :: compactItems rest

private def compactMembers : List (String × Value) → List String
  | [] => []
  | (name, v) :: rest => (quote name ++ ":" ++ compact v) :: compactMembers rest

end

/-- The line break before something at a given level. -/
private def newLine (level : Nat) : String := String.ofList ('\n' :: List.replicate (2 * level) ' ')

/-- Items between brackets, one a line, inside a value of the given level. -/
private def bracketed (level : Nat) (opening closing : String) (items : List String) : String :=
  if items.isEmpty then opening ++ closing
  else opening ++ newLine (level + 1) ++ ("," ++ newLine (level + 1)).intercalate items ++ newLine level ++ closing

mutual

def prettyAt? (level : Nat) : Value → Option String
  | .null => some "null"
  | .bool b => some (if b then "true" else "false")
  | .number n => some (String.ofList n.text)
  | .text s => some (quote s)
  | .brokenText => none
  | .list items => (prettyItems? (level + 1) items).map (bracketed level "[" "]")
  | .object members => (prettyMembers? (level + 1) members).map (bracketed level "\x7b" "\x7d")

def prettyItems? (level : Nat) : List Value → Option (List String)
  | [] => some []
  | v :: rest => do return (← prettyAt? level v) :: (← prettyItems? level rest)

def prettyMembers? (level : Nat) : List (String × Value) → Option (List String)
  | [] => some []
  | (name, v) :: rest => do return (quote name ++ ": " ++ (← prettyAt? level v)) :: (← prettyMembers? level rest)

end

/-- A value with one item a line, unless it holds a string that stands for no text. -/
def pretty? (v : Value) : Option String := prettyAt? 0 v

end RobotPhrase.Json
