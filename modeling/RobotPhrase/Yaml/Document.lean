import RobotPhrase.Document
import RobotPhrase.Number.Literal
import RobotPhrase.Yaml.Node

/-!
# YAML as a document format

Every scalar is a text, whatever it looks like.  Only a plain scalar can be a number, or stand for a text that is left
out, and an empty one also for an empty list and for a value without members.  Of the tags, only two change what is read:
one makes a number of a literal block, and one allows nothing but a text that is left out.
-/

namespace RobotPhrase.Yaml

def text? : Node → Option String
  | .scalar _ _ _ s => some s
  | _ => none

/-- The words that stand for nothing. -/
def nullWords : List String := ["~", "null", "Null", "NULL"]

def nullTag : String := "tag:yaml.org,2002:null"

def floatTag : String := "tag:yaml.org,2002:float"

def optionalText? : Node → Option (Option String)
  | .scalar _ none .plain s => some (if s.isEmpty || nullWords.contains s then none else some s)
  | .scalar _ (some tag) .plain s =>
    if tag != nullTag then some (some s) else if nullWords.contains s then some none else none
  | .scalar _ _ _ s => some (some s)
  | _ => none

/-- The double that a plain scalar writes. -/
def floatOf? (s : String) : Option Float :=
  let size? := match s.toList with
    | '+' :: '+' :: _ | '+' :: '-' :: _ => none
    | '+' :: rest => some rest
    | cs => some cs
  size?.bind fun size =>
    if [".inf", ".Inf", ".INF"].contains (String.ofList size) then some (1 / 0)
    else if ["-.inf", "-.Inf", "-.INF"].contains s then some (-1 / 0)
    else if [".nan", ".NaN", ".NAN"].contains s then some (0 / 0)
    else (Literal.float? size).filter Float.isFinite

def float? : Node → Option Float
  | .scalar _ _ .plain s => floatOf? s
  | .scalar _ (some tag) .literal s => if tag == floatTag then floatOf? s else none
  | _ => none

def items? : Node → Option (List Node)
  | .sequence _ items => some items
  | .scalar _ _ .plain "" => some []
  | _ => none

/-- The members of a mapping, whose keys are texts as `key?` reads them. -/
def members? (key? : Node → Option String) (names : List String) : Node → Option (Members Node)
  | .mapping _ entries => do
    let named ← entries.mapM fun (key, value) => (key? key).map fun name => (name, value)
    Members.select names named
  | .scalar _ _ .plain "" => some ⟨[]⟩
  | _ => none

/-- A node, or the one that it refers to; of nodes with one number the last one is meant. -/
def follow? (root : Node) : Node → Option Node
  | .reference target => root.anchored.reverse.lookup target
  | node => some node

/-- The format of the nodes inside a root. -/
def format (root : Node) : DocumentFormat Node :=
  let followed {β : Type} (read : Node → Option β) (node : Node) : Option β := (follow? root node).bind read
  ⟨followed text?, followed optionalText?, followed float?, followed items?,
    fun names => followed (members? (followed text?) names)⟩

end RobotPhrase.Yaml
