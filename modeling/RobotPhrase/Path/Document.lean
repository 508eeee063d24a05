import RobotPhrase.Json.Document
import RobotPhrase.Path.Preview

/-!
# Poses, paths and requests in JSON

All parts of a pose, of a segment and of a path must be given.  A request needs its commands only.
-/

namespace RobotPhrase

open Json (Value)

def Pose.ofJson? (v : Value) : Option Pose := do
  let ms ← Json.members? ["x", "y", "angle", "timestamp"] v
  return {
    x := ← ms.required "x" Json.float?
    y := ← ms.required "y" Json.float?
    angle := ← ms.required "angle" Json.float?
    timestamp := ← ms.required "timestamp" Json.float? }

/-- A kind of motion is its name, or an object with nothing for that name. -/
def MotionKind.ofJson? (v : Value) : Option MotionKind :=
  let named (name : String) : Option MotionKind := [straight, turn, wait].find? fun kind => kind.name == name
  match v with
  | .text name => named name
  | .object [(name, .null)] => named name
  | _ => none

def Segment.ofJson? (v : Value) : Option Segment := do
  let ms ← Json.members? ["type", "start_point", "end_point", "command"] v
  return {
    kind := ← ms.required "type" MotionKind.ofJson?
    start := ← ms.required "start_point" Pose.ofJson?
    stop := ← ms.required "end_point" Pose.ofJson?
    statement := ← ms.required "command" Json.text? }

def Path.ofJson? (v : Value) : Option Path := do
  let ms ← Json.members? ["segments", "total_time", "end_position"] v
  return {
    segments := ← ms.required "segments" (Json.format.list? Segment.ofJson?)
    totalTime := ← ms.required "total_time" Json.float?
    finish := ← ms.required "end_position" Pose.ofJson? }

def Rates.ofJson? (v : Value) : Option Rates := do
  let ms ← Json.members? ["speed", "turn_rate"] v
  let usual : Rates := { }
  return {
    speed := ← ms.orElse "speed" Json.float? usual.speed
    turnRate := ← ms.orElse "turn_rate" Json.float? usual.turnRate }

/-- A whole number of 64 bits with a sign. -/
def signedWord? (v : Value) : Option Int := (Json.int? v).filter fun n => leastWhole ≤ n && n ≤ greatestWhole

def PreviewRequest.ofJson? (v : Value) : Option PreviewRequest := do
  let ms ← Json.members? ["commands", "start_position", "defaults", "points_per_segment"] v
  return {
    commands := ← ms.required "commands" (Json.format.list? Json.text?)
    start := ← ms.orElse "start_position" Pose.ofJson? { }
    rates := ← ms.orElse "defaults" Rates.ofJson? { }
    pointsPerSegment := ← ms.orElse "points_per_segment" signedWord? 20 }

end RobotPhrase
