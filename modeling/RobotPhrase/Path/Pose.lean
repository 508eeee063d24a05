import RobotPhrase.Number.Binary

/-!
# Poses and angles

Where the robot stands on the canvas and which way it looks.  Angles are in degrees: zero points up the canvas, and `y`
grows downwards.
-/

namespace RobotPhrase

/-- A place in pixels, a heading in degrees, and a time in milliseconds. -/
structure Pose where
  x : Float := 0
  y : Float := 0
  angle : Float := 0
  timestamp : Float := 0

/-- The angle between 0 and 360 with the same direction.  A tiny negative angle gives 0, not 360. -/
def normalizeAngle (angle : Float) : Float :=
  let r := remainder angle 360
  let r := if r < 0 then r + 360 else r
  if 360 ≤ r then 0 else r

/-- The angle between two headings, on the shorter way round; half a turn goes clockwise. -/
def interpolateAngle (start stop progress : Float) : Float :=
  let diff := stop - start
  let diff := if 180 < diff then diff - 360 else diff
  let diff := if diff ≤ -180 then diff + 360 else diff
  normalizeAngle (start + diff * progress)

/-- One degree in radians. -/
def radiansPerDegree : Float := 0.017453292519943295

/-- The pose between two others after a part `progress` of the way, at a given time. -/
def Pose.between (start stop : Pose) (progress timestamp : Float) : Pose where
  x := start.x + (stop.x - start.x) * progress
  y := start.y + (stop.y - start.y) * progress
  angle := interpolateAngle start.angle stop.angle progress
  timestamp := timestamp

end RobotPhrase
