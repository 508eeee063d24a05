import RobotPhrase.Yaml.Token

/-!
# YAML nodes

A text describes one node: a scalar, a sequence or a mapping, in blocks or between brackets.  A value that is left out
is an empty plain scalar, and so is the node of a text that holds nothing.  A reference stands for a node with an anchor;
that may be a node around it, so a reference is followed only where the node is used.
-/

namespace RobotPhrase.Yaml

/-- A node; the number of its anchor is what references to it hold. -/
inductive Node
  | scalar (anchor : Option Nat) (tag : Option String) (style : Style) (text : String)
  | sequence (anchor : Option Nat) (items : List Node)
  | mapping (anchor : Option Nat) (entries : List (Node × Node))
  | reference (target : Nat)

/-- What stands before the node at the front of the tokens. -/
structure Properties where
  anchor : Option String := none
  tag : Option String := none
  deriving DecidableEq, Repr

/-- Tokens that are still to be read, the numbers of the anchors so far, and what the handles of tags stand for. -/
structure Rest where
  tokens : List Token
  anchors : List (String × Nat) := []
  handles : List (String × String) := [("!", "!"), ("!!", "tag:yaml.org,2002:")]

namespace Rest

/-- The rest behind some tokens. -/
def move (r : Rest) (tokens : List Token) : Rest := { r with tokens := tokens }

/-- Whether one of the given tokens is at the front. -/
def stopsAt (r : Rest) (stops : List Token) : Bool := r.tokens.head?.any stops.contains

/-- The tag that a text stands for, if its handle is known. -/
def tag? (r : Rest) (t : TagText) : Option String :=
  if t.handle.isEmpty then some t.ending else (r.handles.lookup t.handle).map fun stands => stands ++ t.ending

/-- An anchor and a tag, in either order, and the rest. -/
def properties? (r : Rest) : Option (Properties × Rest) :=
  match r.tokens with
  | .anchor name :: .tag t :: rest | .tag t :: .anchor name :: rest => do
    return (⟨some name, some (← r.tag? t)⟩, r.move rest)
  | .anchor name :: rest => some (⟨some name, none⟩, r.move rest)
  | .tag t :: rest => do
    return (⟨none, some (← r.tag? t)⟩, r.move rest)
  | _ => some ({ }, r)

/-- Numbers an anchor by how many names there are before it.  A name that is used again counts once, so the
number it gets then is also that of the next new name. -/
def name (r : Rest) (anchor : Option String) : Option Nat × Rest :=
  match anchor with
  | none => (none, r)
  | some name =>
    let n := r.anchors.length
    let others := r.anchors.filter fun (other, _) => other != name
    (some n, { r with anchors := (name, n) :: others })

end Rest

namespace Node

/-- What stands for a value that is left out. -/
def empty : Node := scalar none none .plain ""

mutual

/-- The node at the front, and the rest.  `inBlock` tells whether blocks may open; a sequence in a mapping may also begin
with a dash right away, which `loose` tells.  Every step down takes one unit of `fuel`. -/
private def nodeAt : Nat → (inBlock loose : Bool) → Rest → Option (Node × Rest)
  | 0, _, _, _ => none
  | fuel + 1, inBlock, loose, r =>
    match r.tokens with
    | .reference name :: rest => (r.anchors.lookup name).map fun target => (reference target, r.move rest)
    | _ => do
      let (properties, r) ← r.properties?
      let (anchor, r) := r.name properties.anchor
      match r.tokens with
      | .scalar style text :: rest =>
        -- the tag that is an exclamation mark alone says nothing about a scalar
        return (scalar anchor (properties.tag.filter (· != "!")) style text, r.move rest)
      | .listOpen :: rest => (listItems fuel true (r.move rest)).map fun (items, r) => (sequence anchor items, r)
      | .objectOpen :: rest => (objectEntries fuel true (r.move rest)).map fun (entries, r) => (mapping anchor entries, r)
      | tokens =>
        if loose && r.stopsAt [.dash] then (looseItems fuel r).map fun (items, r) => (sequence anchor items, r)
        else match inBlock, tokens with
          | true, .sequenceOpen :: rest =>
            (blockItems fuel (r.move rest)).map fun (items, r) => (sequence anchor items, r)
          | true, .mappingOpen :: rest =>
            (blockEntries fuel (r.move rest)).map fun (entries, r) => (mapping anchor entries, r)
          | _, _ => if properties == { } then none else return (scalar anchor properties.tag .plain "", r)

/-- The node at the front, or the empty one before any of the given tokens. -/
private def nodeUnless : Nat → List Token → (inBlock loose : Bool) → Rest → Option (Node × Rest)
  | 0, _, _, _, _ => none
  | fuel + 1, stops, inBlock, loose, r =>
    if r.stopsAt stops then some (empty, r) else nodeAt fuel inBlock loose r

/-- The value behind a colon, or the empty node if there is none. -/
private def valueAt : Nat → List Token → (inBlock loose : Bool) → Rest → Option (Node × Rest)
  | 0, _, _, _, _ => none
  | fuel + 1, stops, inBlock, loose, r =>
    match r.tokens with
    | .colon :: rest => nodeUnless fuel stops inBlock loose (r.move rest)
    | _ => some (empty, r)

/-- The items of a block up to its end. -/
private def blockItems : Nat → Rest → Option (List Node × Rest)
  | 0, _ => none
  | fuel + 1, r =>
    match r.tokens with
    | .dash :: rest => do
      let (item, r) ← nodeUnless fuel [.dash, .blockClose] true false (r.move rest)
      let (items, r) ← blockItems fuel r
      return (item :: items, r)
    | .blockClose :: rest => some ([], r.move rest)
    | _ => none

/-- The items of a sequence that is no block of its own. -/
private def looseItems : Nat → Rest → Option (List Node × Rest)
  | 0, _ => none
  | fuel + 1, r =>
    match r.tokens with
    | .dash :: rest => do
      let (item, r) ← nodeUnless fuel [.dash, .key, .colon, .blockClose] true false (r.move rest)
      let (items, r) ← looseItems fuel r
      return (item :: items, r)
    | _ => some ([], r)

/-- The entries of a block up to its end. -/
private def blockEntries : Nat → Rest → Option (List (Node × Node) × Rest)
  | 0, _ => none
  | fuel + 1, r =>
    match r.tokens with
    | .key :: rest => do
      let (key, r) ← nodeUnless fuel [.key, .colon, .blockClose] true true (r.move rest)
      let (value, r) ← valueAt fuel [.key, .colon, .blockClose] true true r
      let (entries, r) ← blockEntries fuel r
      return ((key, value) :: entries, r)
    | .blockClose :: rest => some ([], r.move rest)
    | _ => none

/-- The key of an item that is a mapping of one entry.  What stands in place of the key is passed over. -/
private def itemKey : Nat → Rest → Option (Node × Rest)
  | 0, _ => none
  | fuel + 1, r =>
    if r.stopsAt [.colon, .comma, .listClose] then some (empty, r.move r.tokens.tail) else nodeAt fuel false false r

/-- The items up to a closing bracket; a comma stands before each of them but the first, and may stand before the
bracket.  An item may be a mapping of one entry. -/
private def listItems : Nat → (first : Bool) → Rest → Option (List Node × Rest)
  | 0, _, _ => none
  | fuel + 1, first, r =>
    match r.tokens with
    | .listClose :: rest => some ([], r.move rest)
    | _ => do
      let tokens ← match first, r.tokens with
        | true, tokens => some tokens
        | false, .comma :: rest => some rest
        | false, _ => none
      match tokens with
      | .listClose :: rest => return ([], r.move rest)
      | .key :: rest =>
        let (key, r) ← itemKey fuel (r.move rest)
        let (value, r) ← valueAt fuel [.comma, .listClose] false false r
        let (items, r) ← listItems fuel false r
        return (mapping none [(key, value)] :: items, r)
      | _ =>
        let (item, r) ← nodeAt fuel false false (r.move tokens)
        let (items, r) ← listItems fuel false r
        return (item :: items, r)

/-- The entries up to a closing brace, with commas as between the items of a list.  A key may stand alone. -/
private def objectEntries : Nat → (first : Bool) → Rest → Option (List (Node × Node) × Rest)
  | 0, _, _ => none
  | fuel + 1, first, r =>
    match r.tokens with
    | .objectClose :: rest => some ([], r.move rest)
    | _ => do
      let tokens ← match first, r.tokens with
        | true, tokens => some tokens
        | false, .comma :: rest => some rest
        | false, _ => none
      match tokens with
      | .objectClose :: rest => return ([], r.move rest)
      | .key :: rest =>
        let (key, r) ← nodeUnless fuel [.colon, .comma, .objectClose] false false (r.move rest)
        let (value, r) ← valueAt fuel [.comma, .objectClose] false false r
        let (entries, r) ← objectEntries fuel false r
        return ((key, value) :: entries, r)
      | _ =>
        let (key, r) ← nodeAt fuel false false (r.move tokens)
        let (entries, r) ← objectEntries fuel false r
        return ((key, empty) :: entries, r)

end

/-- The node at the front, and the rest. -/
private def node? (r : Rest) : Option (Node × Rest) := nodeAt (4 * r.tokens.length + 4) true false r

mutual

/-- The nodes with an anchor inside a node, by number and in the order in which they begin. -/
def anchored : Node → List (Nat × Node)
  | node@(scalar anchor _ _ _) => (anchor.map fun n => (n, node)).toList
  | node@(sequence anchor items) => (anchor.map fun n => (n, node)).toList ++ anchoredItems items
  | node@(mapping anchor entries) => (anchor.map fun n => (n, node)).toList ++ anchoredEntries entries
  | reference _ => []

private def anchoredItems : List Node → List (Nat × Node)
  | [] => []
  | item :: items => anchored item ++ anchoredItems items

private def anchoredEntries : List (Node × Node) → List (Nat × Node)
  | [] => []
  | (key, value) :: entries => anchored key ++ anchored value ++ anchoredEntries entries

end

/-- Whether a text may be written for a version. -/
private def isKnownVersion (major minor : Nat) : Bool := major == 1 && (minor == 1 || minor == 2)

/-- The directives before a document: at most one for the version, and one for each handle. -/
private def directives? (versioned : Bool) (handles : List (String × String)) (r : Rest) : List Token → Option Rest
  | .directive (.version major minor) :: tokens =>
    if versioned || !isKnownVersion major minor then none else directives? true handles r tokens
  | .directive (.handle name stands) :: tokens =>
    if (handles.lookup name).isSome then none else directives? versioned ((name, stands) :: handles) r tokens
  | tokens => some { r with tokens := tokens, handles := handles ++ r.handles }

/-- The node of the only document that the tokens make up.  A document may have its marks around it; behind directives
the mark that begins it must be there. -/
def ofTokens? (tokens : List Token) : Option Node := do
  let r ← directives? false [] { tokens := tokens } tokens
  let (node, r) ← match r.tokens with
    | .documentOpen :: rest =>
      match rest with
      | [] | .documentOpen :: _ | .documentClose :: _ | .directive _ :: _ => some (empty, r.move rest)
      | _ => node? (r.move rest)
    | [] => if tokens.isEmpty then some (empty, r) else none
    | _ => if r.tokens.length == tokens.length then node? r else none
  if r.tokens.all fun t => t == .documentClose then return node else none

end Node

/-- The node that a text describes. -/
def parse? (text : String) : Option Node := (tokens? text.toList).bind Node.ofTokens?

end RobotPhrase.Yaml
