import RobotPhrase.Json.Writer
import RobotPhrase.Path.Preview
import RobotPhrase.Program.Compile
import RobotPhrase.Suggestion

/-!
# Reports as JSON

The values in which results are given to other programs.
-/

namespace RobotPhrase.Cli

open Json (Value)

/-- A token; what it does not have is left out. -/
def tokenJson (t : Token) : Value := .object (
  [("kind", .text t.kindName), ("raw", .text t.raw)]
    ++ (t.canonical?.map fun s => ("normalized", .text s)).toList
    ++ (t.value?.map fun x => ("numeric_value", .float x)).toList)

def clarificationMembers (c : Clarification) : List (String × Value) := [
  ("field", .text c.question.field), ("message", .text c.message), ("type", .text c.question.sort.name)]

def clarificationJson (c : Option Clarification) : Value :=
  match c with
  | some c => .object (clarificationMembers c)
  | none => .null

def kindJson (a : Answer) : Value := .optionalText (a.kind?.map CommandKind.name)

def answerJson (a : Answer) : Value :=
  let outcome := match a.outcome with
    | .success c => [("outcome", .text "success"), ("code", .text c.code)]
    | .needsClarification c => ("outcome", .text "needs_clarification") :: clarificationMembers c
    | .error message => [("outcome", .text "error"), ("message", .text message)]
  .object (outcome ++ [
    ("confidence", .float a.confidence.value), ("command_type", kindJson a), ("needs_llm", .bool a.needsModel)])

def reportJson (r : Report) : Value := .object [
  ("original", .text r.command), ("status", .text r.answer.status.name), ("code", .optionalText r.answer.code?),
  ("clarification", clarificationJson r.answer.clarification?), ("error", .optionalText r.answer.errorMessage?),
  ("command_type", kindJson r.answer), ("confidence", .float r.answer.confidence.value)]

def programJson (p : Program) : Value := .object [
  ("imports", .text p.imports), ("setup", .text p.setup), ("routines", .text p.routines), ("main", .text p.main),
  ("full", .text p.full)]

def compiledJson (c : Compiled) : Value := .object [
  ("results", .list (c.reports.map reportJson)), ("program", programJson c.program)]

def validationJson (v : Validation) : Value := .object [
  ("valid", .bool v.valid), ("error", .optionalText v.error), ("clarification", clarificationJson v.clarification)]

def suggestionJson (s : Suggestion) : Value := .object [
  ("text", .text s.text), ("label", .text s.label), ("category", .text s.kind.name)]

def poseJson (p : Pose) : Value := .object [
  ("x", .float p.x), ("y", .float p.y), ("angle", .float p.angle), ("timestamp", .float p.timestamp)]

def segmentJson (s : Segment) : Value := .object [
  ("type", .text s.kind.name), ("start_point", poseJson s.start), ("end_point", poseJson s.stop),
  ("command", .text s.statement)]

def pathJson (p : Path) : Value := .object [
  ("segments", .list (p.segments.map segmentJson)), ("total_time", .float p.totalTime),
  ("end_position", poseJson p.finish)]

def previewJson (p : Preview) : Value := .object [
  ("path", pathJson p.path), ("points", .list (p.points.map poseJson))]

end RobotPhrase.Cli
