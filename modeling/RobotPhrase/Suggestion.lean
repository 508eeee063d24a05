import RobotPhrase.Text.Blank
import RobotPhrase.Text.LetterCase
import RobotPhrase.Text.Search
import RobotPhrase.Text.Utf8

/-!
# Suggestions

What a user who is typing a command may want to type next.  Only the text before the cursor counts: a word about
moving, turning or waiting calls for a value, and otherwise the last word may begin a command.
-/

namespace RobotPhrase

open Text

inductive SuggestionKind
  | movement | turn | wait | motor | control | sensor | hub | distance | angle | duration
  deriving DecidableEq, Repr

def SuggestionKind.name : SuggestionKind → String
  | movement => "movement" | turn => "turn" | wait => "wait" | motor => "motor" | control => "control"
  | sensor => "sensor" | hub => "hub" | distance => "distance" | angle => "angle" | duration => "duration"

/-- A text to insert, how it is shown, and its group. -/
structure Suggestion where
  text : String
  label : String
  kind : SuggestionKind
  deriving DecidableEq, Repr

namespace Suggestion

/-- The beginnings of commands. -/
def templates : List Suggestion := [
  ⟨"move forward ", "move forward [distance]", .movement⟩,
  ⟨"move backward ", "move backward [distance]", .movement⟩,
  ⟨"turn left ", "turn left [angle]", .turn⟩,
  ⟨"turn right ", "turn right [angle]", .turn⟩,
  ⟨"arc left ", "arc left [radius] [angle]", .movement⟩,
  ⟨"arc right ", "arc right [radius] [angle]", .movement⟩,
  ⟨"drive at ", "drive at [speed] [turn_rate]", .movement⟩,
  ⟨"wait ", "wait [duration]", .wait⟩,
  ⟨"wait until ", "wait until [condition]", .sensor⟩,
  ⟨"run ", "run [motor] [angle]", .motor⟩,
  ⟨"run motor for ", "run motor for [time]", .motor⟩,
  ⟨"run motor until stalled", "run until stalled", .motor⟩,
  ⟨"hold motor", "hold motor position", .motor⟩,
  ⟨"stop", "stop robot", .control⟩,
  ⟨"brake", "brake robot", .control⟩,
  ⟨"set speed to ", "set speed to [value]", .control⟩,
  ⟨"repeat ", "repeat [n] times: [action]", .control⟩,
  ⟨"follow line ", "follow line [condition]", .sensor⟩,
  ⟨"wait until color is ", "wait until color is [color]", .sensor⟩,
  ⟨"wait until distance < ", "wait until distance < [mm]", .sensor⟩,
  ⟨"move until ", "move until [condition]", .sensor⟩,
  ⟨"turn left precisely ", "turn precisely [angle]", .turn⟩,
  ⟨"turn right precisely ", "turn precisely [angle]", .turn⟩,
  ⟨"beep", "beep [frequency] [duration]", .hub⟩,
  ⟨"display ", "display [text/image]", .hub⟩,
  ⟨"reset heading", "reset gyro heading", .hub⟩,
  ⟨"hub light on ", "hub light on [color]", .hub⟩,
  ⟨"hub light off", "turn hub light off", .hub⟩,
  ⟨"light on ", "light on [color]", .hub⟩,
  ⟨"light off", "turn light off", .hub⟩]

/-- Values that are shown as they are inserted. -/
private def values (kind : SuggestionKind) (texts : List String) : List Suggestion := texts.map fun t => ⟨t, t, kind⟩

def distances : List Suggestion :=
  values .distance ["50mm", "100mm", "200mm", "300mm", "500mm", "10cm", "20cm", "50cm", "1m"]

def angles : List Suggestion :=
  values .angle ["15 degrees", "30 degrees", "45 degrees", "90 degrees", "180 degrees", "360 degrees"]

def durations : List Suggestion :=
  values .duration ["500ms", "1 second", "2 seconds", "3 seconds", "5 seconds"]

/-- The suggestions when nothing more specific applies. -/
def usual : List Suggestion := templates.take 5

/-- The greatest number of suggestions. -/
def maxCount : Nat := 10

/-- The suggestions behind a text in lowercase without blanks around it. -/
def behind (before : List Char) : List Suggestion :=
  let speaksOf (words : List String) : Bool := words.any fun w => occurs w.toList before
  if before.isEmpty then usual
  else if speaksOf ["move", "forward", "backward", "straight"] then distances
  else if speaksOf ["turn", "rotate", "spin"] then angles
  else if speaksOf ["wait", "pause", "delay"] then durations
  else
    let lastWord := (words before).getLast?.getD []
    let matching := templates.filter fun t => startsWith lastWord t.text.toList
    if matching.isEmpty then usual else matching

end Suggestion

/-- The part of a text before a cursor, which is a byte offset into the text in lowercase.  A cursor behind the text
counts as one at its end, and a cursor inside a character as one before it. -/
def textBefore? (text : String) (cursor : Nat) : Option (List Char) :=
  let cs := lower text.toList
  (lastBoundary? (utf8 cs) (min cursor (byteSize cs))).bind fun stop => takeBytes? stop cs

/-- The suggestions for a text with the cursor at a byte offset. -/
def suggest (text : String) (cursor : Nat) : List Suggestion :=
  (Suggestion.behind (trim ((textBefore? text cursor).getD []))).take Suggestion.maxCount

end RobotPhrase
