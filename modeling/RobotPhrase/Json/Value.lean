import RobotPhrase.Json.Number

/-!
# JSON values

An object keeps its members in the order in which they are written, repeated names included.
-/

namespace RobotPhrase.Json

inductive Value
  | null
  | bool (b : Bool)
  | number (n : Number)
  | text (s : String)
  /-- A string with half of a surrogate pair: it is well-formed and stands for no text. -/
  | brokenText
  | list (items : List Value)
  | object (members : List (String × Value))

namespace Value

def int (n : Int) : Value := number (.ofInt n)

/-- A double; what is not finite has no form in JSON and becomes null. -/
def float (x : Float) : Value :=
  match Binary.ofFloat x with
  | .finite negative m q => number (.ofBinary negative m q)
  | _ => null

/-- A text or null. -/
def optionalText (s : Option String) : Value := (s.map text).getD null

/-- The last member of an object with a given name. -/
def member? (v : Value) (name : String) : Option Value :=
  match v with
  | object members => members.reverse.lookup name
  | _ => none

end Value

end RobotPhrase.Json
