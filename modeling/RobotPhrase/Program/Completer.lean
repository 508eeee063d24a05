import RobotPhrase.Number.Shortest
import RobotPhrase.Robot
import RobotPhrase.Text.Blank
import RobotPhrase.Text.Search

/-!
# Completers

A completer turns a prompt into code, as a language model does.  It is a function with a state of its own, so that what
it was asked can be looked at afterwards.  This module holds the prompts and cleans up the replies.
-/

namespace RobotPhrase

open Text

/-- The instructions that stand before every prompt. -/
def systemPrompt : String := "You are a Pybricks Python code generator for LEGO SPIKE Prime robots.

Convert natural language commands to Pybricks Python code. The robot uses:
- DriveBase `robot` for movement (robot.straight(), robot.turn(), robot.drive())
- Individual Motor objects for attachments
- ColorSensor, UltrasonicSensor, ForceSensor

Output ONLY valid Python code, no explanations. Each command should be a single line or small block.

Examples:
- \"move forward 200mm\" -> robot.straight(200)
- \"turn right 90 degrees\" -> robot.turn(90)
- \"wait 1 second\" -> wait(1000)
- \"run grabber 180 degrees\" -> grabber.run_angle(200, 180)
- \"wait until color is red\" -> while color_sensor.color() != Color.RED: wait(10)
"

/-- The prompt for a command that the grammar does not understand. -/
def fallbackPrompt (command : String) (r : Robot) : String :=
  "Robot configuration:\n- Left motor: Port " ++ r.leftPort
    ++ "\n- Right motor: Port " ++ r.rightPort
    ++ "\n- Wheel diameter: " ++ showFloat r.wheelDiameter
    ++ "mm\n- Axle track: " ++ showFloat r.axleTrack
    ++ "mm\n- Default speed: " ++ showFloat r.speed
    ++ "mm/s\n\nConvert this command to Pybricks Python code: " ++ command

/-- The prompt for a hint at a value that a command leaves out. -/
def clarificationPrompt (command field : String) : String :=
  "The user typed: \"" ++ command ++ "\"\n\nThis command is missing the " ++ field
    ++ ". Generate a brief, helpful hint (max 15 words) explaining what's needed and give an example. "
    ++ "Format: \"[what's missing] - e.g., [example]\"

Examples of good responses:
- \"Distance needed - e.g., move forward 200mm\"
- \"Angle needed - e.g., turn left 90 degrees\"
- \"Duration needed - e.g., wait 2 seconds\"

Respond with ONLY the hint, nothing else."

/-- The mark that opens and closes a block of code in a reply. -/
def fence : List Char := "```".toList

/-- A text without a fence at its end. -/
def dropClosingFence (cs : List Char) : List Char :=
  match after? fence cs.reverse with
  | some rest => rest.reverse
  | none => cs

/-- A text without a fence at its beginning, with or without the name of the language. -/
def dropOpeningFence (cs : List Char) : List Char :=
  ((after? (fence ++ "python".toList) cs).or (after? fence cs)).getD cs

/-- A reply without the fences around it and the blanks around and inside them. -/
def stripFences (reply : List Char) : List Char := trim (dropClosingFence (dropOpeningFence (trim reply)))

/-- Why a completer has no code to give. -/
inductive CompleterError
  | missingCredentials (provider : String)
  | status (code : Nat) (message : String)
  | emptyResponse
  deriving DecidableEq, Repr

def CompleterError.message : CompleterError → String
  | missingCredentials provider => "no credentials configured for provider: " ++ provider
  | status code message => "provider returned status " ++ toString code ++ ": " ++ message
  | emptyResponse => "provider returned an empty completion"

/-- Code from a completer, and the number of tokens it cost. -/
structure Completion where
  code : String
  tokensUsed : Nat
  deriving DecidableEq, Repr

/-- The completion that a reply contains. -/
def Completion.ofReply (reply : String) (tokensUsed : Nat) : Except CompleterError Completion :=
  let code := stripFences reply.toList
  if code.isEmpty then .error .emptyResponse else .ok ⟨String.ofList code, tokensUsed⟩

/-- A completer with states of type `σ`. -/
structure Completer (σ : Type) where
  complete : String → σ → Except CompleterError Completion × σ

namespace Completer

/-- A friendlier wording of a question, or the usual one if the completer fails. -/
def explain {σ : Type} (c : Completer σ) (command field usual : String) (s : σ) : String × σ :=
  match c.complete (clarificationPrompt command field) s with
  | (.ok completion, s) => (trimmed completion.code, s)
  | (.error _, s) => (usual, s)

/-- The greatest number of tokens that is reported. -/
def tokenBound : Nat := 4294967295

/-- A completer that answers every prompt with the same reply, or has none to give.  It counts the prompts, and the
words of its input and output for tokens. -/
def canned (reply : Option String) : Completer Nat where
  complete prompt calls :=
    match reply with
    | some reply =>
      let count (text : String) : Nat := (words text.toList).length
      (Completion.ofReply reply (min tokenBound (count systemPrompt + count prompt + count reply)), calls + 1)
    | none => (.error (.missingCredentials "mock"), calls + 1)

end Completer

end RobotPhrase
