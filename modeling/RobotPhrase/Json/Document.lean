import RobotPhrase.Document
import RobotPhrase.Json.Value

/-!
# JSON as a document format

A value with named members may also be written as a list of its members in their usual order, of which the last ones
may be missing.
-/

namespace RobotPhrase.Json

def text? : Value → Option String
  | .text s => some s
  | _ => none

def optionalText? : Value → Option (Option String)
  | .null => some none
  | .text s => some (some s)
  | _ => none

def float? : Value → Option Float
  | .number n => n.float?
  | _ => none

/-- A whole number. -/
def int? : Value → Option Int
  | .number n => n.int?
  | _ => none

def items? : Value → Option (List Value)
  | .list items => some items
  | _ => none

def members? (names : List String) : Value → Option (Members Value)
  | .object members => Members.select names members
  | .list items => if items.length ≤ names.length then some ⟨names.zip items⟩ else none
  | _ => none

def format : DocumentFormat Value := ⟨text?, optionalText?, float?, items?, members?⟩

end RobotPhrase.Json
