import RobotPhrase.Answer
import RobotPhrase.Number.Arithmetic
import RobotPhrase.Robot
import RobotPhrase.Token.Scan

/-!
# Sentences

A sentence is its text with its tokens.  The rules of the grammar look for words of a class, for verbs, and for
numerals together with their places.
-/

namespace RobotPhrase

structure Sentence where
  text : String
  tokens : List Token

/-- The names that a sentence may refer to, besides the robot itself. -/
structure Scene where
  robot : Robot
  motors : List String
  routines : List String

/-- A rule of the grammar: it declines a sentence or answers it. -/
abbrev Rule := Scene → Sentence → Option Answer

/-- A rule that has to compute its answer in `m`. -/
abbrev RuleM (m : Type → Type) := Scene → Sentence → m (Option Answer)

namespace Sentence

def ofText (text : String) : Sentence := ⟨text, tokenize text⟩

/-- The first word of a class. -/
def first? (s : Sentence) (kind : WordClass) : Option Token := s.tokens.find? (Token.is kind)

/-- The place of the first word of a class. -/
def place? (s : Sentence) (kind : WordClass) : Option Nat := s.tokens.findIdx? (Token.is kind)

def has (s : Sentence) (kind : WordClass) : Bool := s.tokens.any (Token.is kind)

/-- Whether one of the verbs stands in the sentence, perhaps mistyped. -/
def hasVerb (s : Sentence) (verbs : List String) : Bool :=
  s.tokens.any fun t => t.is .verb && verbs.contains t.text

/-- The numerals with their places, from left to right. -/
def numerals (s : Sentence) : List (Numeral × Nat) :=
  s.tokens.zipIdx.filterMap fun
    | (.number n, i) => some (n, i)
    | (.word .., _) => none

def firstNumeral? (s : Sentence) : Option Numeral := s.numerals.head?.map Prod.fst

/-- The first direction, as one of `forward`, `backward`, `left`, `right`. -/
def direction? (s : Sentence) : Option String := (s.first? .direction).map Token.text

/-- The motor that the sentence names: a word for a motor, or else the name of a motor of the robot. -/
def motor? (s : Sentence) (motors : List String) : Option String :=
  match s.first? .motor with
  | some t => some t.raw
  | none => s.tokens.findSome? fun t => motors.find? fun name => Text.eqIgnoreAsciiCase name t.raw

end Sentence

/-- The whole part of a numeral, or another number in place of zero. -/
def wholeOr (n : Numeral) (otherwise : Int) : Int := if n.value == 0 then otherwise else truncate n.value

end RobotPhrase
