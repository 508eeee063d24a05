import RobotPhrase.Text.Blank
import RobotPhrase.Token.Classify

/-!
# From sentences to tokens

A sentence is put in lowercase, its punctuation counts as blank, and each word becomes one token; a numeral with
letters right behind it, such as "10cm", becomes two.
-/

namespace RobotPhrase

/-- Punctuation that separates words. -/
def isPunctuation (c : Char) : Bool := [',', ':', ';', '!', '?'].contains c

/-- The letters that may follow a numeral directly. -/
def isSmallLetter (c : Char) : Bool := 'a' ≤ c && c ≤ 'z'

/-- The words of a sentence. -/
def sentenceWords (text : List Char) : List (List Char) :=
  Text.words ((Text.lower text).map fun c => if isPunctuation c then ' ' else c)

/-- The tokens of one word. -/
def wordTokens (word : List Char) : List Token :=
  match Numeral.read? word with
  | some (n, rest) =>
    if rest.all isSmallLetter then
      .number n :: (if rest.isEmpty then [] else [classify (String.ofList rest)])
    else [classify (String.ofList word)]
  | none => [classify (String.ofList word)]

/-- The tokens of a sentence. -/
def tokenize (text : String) : List Token := (sentenceWords text.toList).flatMap wordTokens

end RobotPhrase
