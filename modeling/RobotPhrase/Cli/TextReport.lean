import RobotPhrase.Number.Rounded
import RobotPhrase.Path.Preview
import RobotPhrase.Program.Compile
import RobotPhrase.Suggestion

/-!
# Reports as text

The lines in which results are shown to people.
-/

namespace RobotPhrase

/-- A status in plain words. -/
def Status.label : Status → String
  | parsed => "parsed"
  | needsClarification => "needs clarification"
  | needsModel => "needs language model"
  | error => "error"

namespace Cli

/-- Lines, each with its line break. -/
def printed (lines : List String) : String := String.join (lines.map fun line => line ++ "\n")

/-- A text made at least `width` characters long by blanks in front. -/
def alignRight (width : Nat) (s : String) : String := String.ofList (List.replicate (width - s.length) ' ') ++ s

/-- A text made at least `width` characters long by blanks behind it. -/
def alignLeft (width : Nat) (s : String) : String := s ++ String.ofList (List.replicate (width - s.length) ' ')

/-- A token: its kind, how it stands in the sentence, and what it means. -/
def tokenLine (t : Token) : String :=
  t.kindName ++ "\t" ++ t.raw ++ "\t" ++ match t.value? with
    | some x => showFloat x
    | none => t.text

def answerLines (a : Answer) : List String :=
  [a.status.label ++ " (" ++ (a.kind?.map CommandKind.name).getD "-" ++ ", confidence "
      ++ showFixed 2 a.confidence.value ++ ")"]
    ++ a.code?.toList
    ++ (a.clarification?.map fun c => c.question.field ++ ": " ++ c.message).toList
    ++ a.errorMessage?.toList

/-- The complaint about a command that did not become code. -/
def complaint? (r : Report) : Option String :=
  if r.answer.status = .parsed then none
  else
    let detail := ((r.answer.clarification?.map Clarification.message).or r.answer.errorMessage?).getD "no rule matched"
    some (r.command ++ ": " ++ r.answer.status.label ++ " (" ++ detail ++ ")")

def validationLine (v : Validation) : String :=
  if v.valid then "valid"
  else match v.clarification with
    | some c => "incomplete: " ++ c.message
    | none => "invalid: " ++ v.error.getD "unknown error"

def suggestionLine (s : Suggestion) : String := s.label ++ "\t\"" ++ s.text ++ "\""

private def place (p : Pose) : String := showFixed 1 p.x ++ ", " ++ showFixed 1 p.y

def segmentLine (s : Segment) : String :=
  let pose (p : Pose) : String := "(" ++ place p ++ ", " ++ showFixed 0 p.angle ++ ")"
  alignRight 8 (showFixed 0 s.start.timestamp) ++ "ms  " ++ alignLeft 8 s.kind.name ++ " " ++ pose s.start ++ " -> "
    ++ pose s.stop ++ "  " ++ Text.trimmed s.statement

def previewLines (p : Preview) : List String :=
  p.path.segments.map segmentLine
    ++ ["total " ++ showFixed 0 p.path.totalTime ++ "ms, end at (" ++ place p.path.finish ++ ") heading "
      ++ showFixed 0 p.path.finish.angle ++ ", " ++ toString p.points.length ++ " points"]

end Cli

end RobotPhrase
