import RobotPhrase.Text.EditDistance
import RobotPhrase.Token
import RobotPhrase.Vocabulary

/-!
# Classes of words

`classify` looks a word up in the `lexicon`, whose entries are tried in order; only a word that stands nowhere is
compared with the verbs, directions, units and colours for a likely typing error.
-/

namespace RobotPhrase

open Vocabulary

/-- A class of words, and how its words are spelled canonically. -/
structure LexiconEntry where
  kind : WordClass
  words : List String
  canonical : String → String

/-- The classes in order of precedence. -/
def lexicon : List LexiconEntry := [
  ⟨.repetition, repeatVerbs, fun _ => "repeat"⟩,
  ⟨.times, timesWords, fun _ => "times"⟩,
  ⟨.definition, defineVerbs, fun _ => "define"⟩,
  ⟨.mission, missionWords, fun _ => "mission"⟩,
  ⟨.sensor, sensorWords, id⟩,
  ⟨.untilMark, untilWords, fun _ => "until"⟩,
  ⟨.whileMark, whileWords, fun _ => "while"⟩,
  ⟨.condition, conditionWords, id⟩,
  ⟨.comparison, comparisonWords, comparisonOperator⟩,
  ⟨.parallel, parallelWords, fun _ => "parallel"⟩,
  ⟨.precise, preciseWords, fun _ => "precise"⟩,
  ⟨.ifMark, ifWords, fun _ => "if"⟩,
  ⟨.thenMark, thenWords, fun _ => "then"⟩,
  ⟨.elseMark, elseWords, fun _ => "else"⟩,
  ⟨.line, lineWords, fun _ => "line"⟩,
  ⟨.follow, followVerbs, fun _ => "follow"⟩,
  ⟨.call, callVerbs, fun _ => "call"⟩,
  ⟨.arc, arcVerbs, fun _ => "arc"⟩,
  ⟨.beep, beepVerbs, fun _ => "beep"⟩,
  ⟨.display, displayVerbs, fun _ => "display"⟩,
  ⟨.reset, resetWords, fun _ => "reset"⟩,
  ⟨.hold, holdWords, fun _ => "hold"⟩,
  ⟨.heading, headingWords, fun _ => "heading"⟩,
  ⟨.on, onWords, fun _ => "on"⟩,
  ⟨.off, offWords, fun _ => "off"⟩,
  ⟨.hub, hubWords, fun _ => "hub"⟩,
  ⟨.light, lightVerbs, fun _ => "light"⟩,
  ⟨.verb, allVerbs, id⟩,
  ⟨.direction, allDirections, canonicalDirection⟩,
  ⟨.unit, allUnits, id⟩,
  ⟨.color, colors, canonicalColor⟩,
  ⟨.motor, motorWords, id⟩,
  ⟨.speed, speedWords, fun _ => "speed"⟩]

/-- Edits within which a verb, a direction, and a unit or colour is recognised. -/
def verbLimit : Nat := 1

@[inherit_doc verbLimit]
def directionLimit : Nat := 2

@[inherit_doc verbLimit]
def nounLimit : Nat := 2

/-- The least length of a word that may be a mistyped verb or direction. -/
def leastMistypedLength : Nat := 4

/-- A verb with a typing error keeps its first letter, so that "dance" is not read as "advance". -/
def mistypedVerb? (word : String) : Option Token :=
  match Text.closest? word verbLimit allVerbs with
  | some (verb, _) =>
    if verb.toList.head? = word.toList.head? then some (.word .verb word (some verb)) else none
  | none => none

def mistypedDirection? (word : String) : Option Token :=
  (Text.closest? word directionLimit allDirections).map fun (direction, _) =>
    .word .direction word (some (canonicalDirection direction))

/-- A unit, or else a colour, spelled almost like the word. -/
def mistypedNoun? (word : String) : Option Token :=
  ((Text.closest? word nounLimit allUnits).map fun (unit, _) => .word .unit word (some unit)).or
    ((Text.closest? word nounLimit colors).map fun (color, _) => .word .color word (some color))

/-- The word that a word with typing errors was meant to be. -/
def mistyped? (word : String) : Option Token :=
  if leastMistypedLength ≤ word.length && !neverMistyped.contains word then
    (mistypedVerb? word).or ((mistypedDirection? word).or (mistypedNoun? word))
  else mistypedNoun? word

/-- The token of a word in lowercase.  A filler has no canonical spelling, but "and", which may join two actions, keeps
its own. -/
def classify (word : String) : Token :=
  if word = "and" then .word .plain word (some word)
  else if fillerWords.contains word then .word .plain word none
  else match lexicon.find? fun entry => entry.words.contains word with
    | some entry => .word entry.kind word (some (entry.canonical word))
    | none => (mistyped? word).getD (.word .plain word none)

end RobotPhrase
