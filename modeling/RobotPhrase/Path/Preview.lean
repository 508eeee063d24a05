import RobotPhrase.Number.Shortest
import RobotPhrase.Path.Sample

/-!
# Previews

A request for a preview is checked before it is replayed; the first condition that it violates is reported.
-/

namespace RobotPhrase

structure PreviewRequest where
  commands : List String
  start : Pose := { }
  rates : Rates := { }
  pointsPerSegment : Int := 20

inductive PreviewError
  | invalidRates (speed turnRate : Float)
  | invalidPointsPerSegment (points : Int)
  | invalidCommandCount (count : Nat)
  | negativeTimestamp (timestamp : Float)

def PreviewError.message : PreviewError → String
  | invalidRates speed turnRate =>
    "speed and turn rate must be positive (speed " ++ showFloat speed ++ ", turn rate " ++ showFloat turnRate ++ ")"
  | invalidPointsPerSegment points => "points per segment must be between 2 and 200, got " ++ toString points
  | invalidCommandCount count => "expected 1 to 500 commands, got " ++ toString count
  | negativeTimestamp timestamp => "start timestamp must not be negative, got " ++ showFloat timestamp

/-- The path of a program with the poses to draw. -/
structure Preview where
  path : Path
  points : List Pose

namespace PreviewRequest

def maxCommands : Nat := 500

def minPoints : Int := 2

def maxPoints : Int := 200

/-- Whether a rate is finite and positive. -/
def isUsable (rate : Float) : Bool := rate.isFinite && 0 < rate

/-- The first condition that the request violates. -/
def error? (r : PreviewRequest) : Option PreviewError :=
  if !(isUsable r.rates.speed && isUsable r.rates.turnRate) then
    some (.invalidRates r.rates.speed r.rates.turnRate)
  else if !(minPoints ≤ r.pointsPerSegment && r.pointsPerSegment ≤ maxPoints) then
    some (.invalidPointsPerSegment r.pointsPerSegment)
  else if r.commands.isEmpty || maxCommands < r.commands.length then
    some (.invalidCommandCount r.commands.length)
  else if r.start.timestamp < 0 then some (.negativeTimestamp r.start.timestamp)
  else none

/-- The preview of a request that violates no condition. -/
def preview (r : PreviewRequest) : Except PreviewError Preview :=
  match r.error? with
  | some e => .error e
  | none =>
    let path := replay r.rates r.start r.commands
    .ok ⟨path, path.points r.pointsPerSegment⟩

end PreviewRequest

end RobotPhrase
