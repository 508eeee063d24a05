import RobotPhrase.Main
import RobotPhrase.Path.Document
import RobotPhrase.Proofs.Canonical
import RobotPhrase.Proofs.CallSentences
import RobotPhrase.Proofs.Completion
import RobotPhrase.Proofs.Dialogue
import RobotPhrase.Proofs.Driving
import RobotPhrase.Proofs.EditDistance
import RobotPhrase.Proofs.Files
import RobotPhrase.Proofs.Margins
import RobotPhrase.Proofs.Nesting
import RobotPhrase.Proofs.PreviewLines
import RobotPhrase.Proofs.Shape
import RobotPhrase.Proofs.Statements
import RobotPhrase.Proofs.TaskImport
import RobotPhrase.Proofs.Trajectory
import RobotPhrase.Proofs.WordTokens
import RobotPhrase.Proofs.Nearest
import RobotPhrase.Proofs.MistypedVerbs
import RobotPhrase.Proofs.ColorNames
import RobotPhrase.Proofs.CodeLines
import RobotPhrase.Proofs.Conditions
import RobotPhrase.Proofs.Loops
import RobotPhrase.Proofs.Blocks
import RobotPhrase.Proofs.MotionCalls
import RobotPhrase.Proofs.LoopMarks
import RobotPhrase.Proofs.Previews
import RobotPhrase.Proofs.Spelling
import RobotPhrase.Proofs.DrivingCode
import RobotPhrase.Proofs.Cursor
import RobotPhrase.Proofs.Fences
import RobotPhrase.Proofs.BehindCursor
