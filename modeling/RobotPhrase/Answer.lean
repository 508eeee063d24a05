import RobotPhrase.Command.Code

/-!
# Answers

A sentence is understood as a command, or a value is missing and asked for, or it is refused.  Besides this outcome an
answer tells the kind of the command, how far it can be trusted, and whether a completer should take over; whoever
gives the answer sets each of these parts.
-/

namespace RobotPhrase

/-- The sort of value that is asked for. -/
inductive ValueSort
  | distance | angle | duration
  deriving DecidableEq, Repr

def ValueSort.name : ValueSort → String
  | distance => "distance"
  | angle => "angle"
  | duration => "duration"

/-- The value that a sentence leaves out. -/
structure Question where
  field : String
  sort : ValueSort
  deriving DecidableEq, Repr

/-- A question in the words in which it is put. -/
structure Clarification where
  question : Question
  message : String
  deriving DecidableEq, Repr

/-- What a sentence comes to. -/
inductive Outcome
  | success (c : Command)
  | needsClarification (c : Clarification)
  | error (message : String)
  deriving DecidableEq, Repr

/-- What becomes of a sentence. -/
structure Answer where
  outcome : Outcome
  confidence : Confidence
  kind? : Option CommandKind
  /-- Whether a completer should take over, or refine the code. -/
  needsModel : Bool
  deriving DecidableEq, Repr

/-- An answer in short. -/
inductive Status
  | parsed | needsClarification | needsModel | error
  deriving DecidableEq, Repr

def Status.name : Status → String
  | parsed => "parsed"
  | needsClarification => "needs_clarification"
  | needsModel => "needs_llm"
  | error => "error"

namespace Answer

/-! ### Giving an answer -/

def success (c : Command) (kind : CommandKind) (confidence : Confidence) : Answer :=
  ⟨.success c, confidence, some kind, false⟩

/-- A question; the kind of the command has yet to be told. -/
def clarify (field message : String) (sort : ValueSort) : Answer :=
  ⟨.needsClarification ⟨⟨field, sort⟩, message⟩, ⟨70⟩, none, false⟩

def error (message : String) : Answer := ⟨.error message, ⟨0⟩, none, false⟩

/-- No rule knows the sentence, so it is left to a completer. -/
def unrecognized : Answer := { error "Could not parse command" with needsModel := true }

def withKind (a : Answer) (kind : CommandKind) : Answer := { a with kind? := some kind }

def withModel (a : Answer) : Answer := { a with needsModel := true }

/-! ### Looking at an answer -/

def command? (a : Answer) : Option Command :=
  match a.outcome with
  | .success c => some c
  | _ => none

def code? (a : Answer) : Option String := a.command?.map Command.code

def clarification? (a : Answer) : Option Clarification :=
  match a.outcome with
  | .needsClarification c => some c
  | _ => none

def errorMessage? (a : Answer) : Option String :=
  match a.outcome with
  | .error message => some message
  | _ => none

def isUnderstood (a : Answer) : Bool :=
  match a.outcome with
  | .success _ => true
  | _ => false

def status (a : Answer) : Status :=
  match a.outcome with
  | .success _ => .parsed
  | .needsClarification _ => .needsClarification
  | .error _ => if a.needsModel then .needsModel else .error

end Answer

end RobotPhrase
