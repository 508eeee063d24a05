import RobotPhrase.Path.Replay

/-!
# Poses along a path

The pose at a given time, and evenly spaced poses on every segment for drawing.
-/

namespace RobotPhrase

/-- A number held between zero and one; what is not a number stays so. -/
def clampUnit (x : Float) : Float := if x < 0 then 0 else if 1 < x then 1 else x

namespace Segment

/-- Whether a time falls into the segment. -/
def covers (s : Segment) (timestamp : Float) : Bool :=
  s.start.timestamp ≤ timestamp && timestamp ≤ s.stop.timestamp

/-- The pose at a time that falls into the segment. -/
def poseAt (s : Segment) (timestamp : Float) : Pose :=
  let duration := s.duration
  let progress := if duration == 0 then 1 else clampUnit ((timestamp - s.start.timestamp) / duration)
  s.start.between s.stop progress timestamp

/-- The pose after `i` of `n` equal parts of the segment. -/
def pointAt (s : Segment) (n i : Nat) : Pose :=
  let progress := Float.ofNat i / Float.ofNat n
  s.start.between s.stop progress (s.start.timestamp + s.duration * progress)

/-- The ends of the `n` equal parts of the segment. -/
def points (s : Segment) (n : Nat) : List Pose := (List.range (n + 1)).map (s.pointAt n)

end Segment

namespace Path

/-- The pose at a time: on the first segment into which it falls, or else at the end. -/
def poseAt (p : Path) (timestamp : Float) : Pose :=
  if p.segments.isEmpty then { }
  else match p.segments.find? fun s => s.covers timestamp with
    | some s => s.poseAt timestamp
    | none => p.finish

/-- The sampled poses of all segments; there are none unless `perSegment` is positive. -/
def points (p : Path) (perSegment : Int) : List Pose :=
  if perSegment ≤ 0 then [] else p.segments.flatMap fun s => s.points perSegment.toNat

end Path

end RobotPhrase
