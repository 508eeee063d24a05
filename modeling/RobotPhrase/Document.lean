/-!
# Documents

Robots, routines and programs can be described in documents of several formats.  A format is given by how it reads
texts, numbers, lists and named members from its values; the descriptions are read the same way in every format.
-/

namespace RobotPhrase

/-- The members of a value by name. -/
structure Members (α : Type) where
  entries : List (String × α)

/-- How the parts of a document are read from values of type `α`.  `members? names` gives the members of a value that
have one of the names, and none if one of them is given twice. -/
structure DocumentFormat (α : Type) where
  text? : α → Option String
  optionalText? : α → Option (Option String)
  number? : α → Option Float
  items? : α → Option (List α)
  members? : List String → α → Option (Members α)

namespace Members

variable {α β : Type}

/-- The members with one of the given names, unless a name is repeated among them. -/
def select (names : List String) (entries : List (String × α)) : Option (Members α) :=
  let known := entries.filter fun (name, _) => names.contains name
  if (known.map Prod.fst).Nodup then some ⟨known⟩ else none

/-- A member that must be there. -/
def required (ms : Members α) (name : String) (read : α → Option β) : Option β := (ms.entries.lookup name).bind read

/-- A member that may be left out. -/
def orElse (ms : Members α) (name : String) (read : α → Option β) (otherwise : β) : Option β :=
  match ms.entries.lookup name with
  | some v => read v
  | none => some otherwise

end Members

/-- A list of values, each of which must be readable. -/
def DocumentFormat.list? {α β : Type} (f : DocumentFormat α) (read : α → Option β) (v : α) : Option (List β) :=
  (f.items? v).bind fun items => items.mapM read

end RobotPhrase
