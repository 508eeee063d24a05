import RobotPhrase.Path.Motion
import RobotPhrase.Text.Blank

/-!
# Replaying statements

The statements that are motions are carried out one after another; the others are passed over.  Every segment of the
resulting path starts where the one before it ends, and time starts from zero.
-/

namespace RobotPhrase

/-- The motion of one statement. -/
structure Segment where
  kind : MotionKind
  start : Pose
  stop : Pose
  statement : String

def Segment.duration (s : Segment) : Float := s.stop.timestamp - s.start.timestamp

/-- The segments of a program, the time it takes, and the pose at its end. -/
structure Path where
  segments : List Segment
  totalTime : Float
  finish : Pose

/-- The segment of a statement that is a motion. -/
def segment? (rates : Rates) (start : Pose) (statement : String) : Option Segment :=
  (Motion.ofStatement? statement).map fun m => ⟨m.kind, start, m.apply rates start, statement⟩

/-- A segment moved in time so that it begins at `clock`. -/
def Segment.startingAt (s : Segment) (clock : Float) : Segment :=
  { s with
    start := { s.start with timestamp := clock }
    stop := { s.stop with timestamp := clock + s.duration } }

/-- The path of statements from a pose, when `clock` milliseconds have passed. -/
def replayFrom (rates : Rates) (pose : Pose) (clock : Float) : List String → Path
  | [] => ⟨[], clock, pose⟩
  | statement :: rest =>
    match segment? rates pose statement with
    | none => replayFrom rates pose clock rest
    | some s =>
      let s := s.startingAt clock
      let path := replayFrom rates s.stop s.stop.timestamp rest
      { path with segments := s :: path.segments }

section

variable {rates : Rates} {pose : Pose} {statement : String} {s : Segment}

/-- A statement that is no motion is passed over. -/
theorem replayFrom_cons_of_none (h : Motion.ofStatement? statement = none) (rates : Rates) (pose : Pose) (clock : Float)
    (rest : List String) : replayFrom rates pose clock (statement :: rest) = replayFrom rates pose clock rest := by
  simp [replayFrom, segment?, h]

/-- A motion is carried out, and the rest goes on where it ends. -/
theorem replayFrom_cons_of_some (h : segment? rates pose statement = some s) (clock : Float) (rest : List String) :
    replayFrom rates pose clock (statement :: rest) =
      let path := replayFrom rates (s.startingAt clock).stop (s.startingAt clock).stop.timestamp rest
      { path with segments := s.startingAt clock :: path.segments } := by
  rw [replayFrom, h]

end

/-- The path of statements from a pose. -/
def replay (rates : Rates) (start : Pose) (statements : List String) : Path := replayFrom rates start 0 statements

/-- The path of a whole program, line by line. -/
def replayProgram (rates : Rates) (start : Pose) (program : String) : Path :=
  replay rates start (Text.linesOf program)

end RobotPhrase
