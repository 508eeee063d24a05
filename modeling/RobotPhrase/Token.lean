import RobotPhrase.Number.Numeral

/-!
# Tokens

A sentence is read as a list of tokens.  A token is a numeral or a word; a word has a class and, if its class gives it
one, a canonical spelling.
-/

namespace RobotPhrase

/-- What a word stands for in a command. -/
inductive WordClass
  | verb | direction | unit | color | motor | speed
  /-- A filler or a word without a class. -/
  | plain
  | repetition | times | definition | mission | sensor | condition | comparison | untilMark | whileMark | parallel
  | precise | ifMark | thenMark | elseMark | line | follow | call | arc | beep | display | reset | hold | heading
  | on | off | hub | light
  deriving DecidableEq, Repr

/-- The name of a class in listings. -/
def WordClass.name : WordClass → String
  | verb => "verb" | direction => "direction" | unit => "unit" | color => "color" | motor => "motor"
  | speed => "speed" | plain => "word" | repetition => "repeat" | times => "times" | definition => "define"
  | mission => "mission" | sensor => "sensor" | condition => "condition" | comparison => "comparison"
  | untilMark => "until" | whileMark => "while" | parallel => "parallel" | precise => "precise" | ifMark => "if"
  | thenMark => "then" | elseMark => "else" | line => "line" | follow => "follow" | call => "call" | arc => "arc"
  | beep => "beep" | display => "display" | reset => "reset" | hold => "hold" | heading => "heading" | on => "on"
  | off => "off" | hub => "hub" | light => "light"

/-- A numeral or a word of a sentence, in lowercase. -/
inductive Token
  | number (n : Numeral)
  | word (kind : WordClass) (raw : String) (canonical : Option String)
  deriving DecidableEq, Repr

namespace Token

/-- The name of the kind of a token in listings. -/
def kindName : Token → String
  | number _ => "number"
  | word kind _ _ => kind.name

/-- The token as it stands in the sentence. -/
def raw : Token → String
  | number n => String.ofList n.text
  | word _ raw _ => raw

def canonical? : Token → Option String
  | number _ => none
  | word _ _ canonical => canonical

/-- The value of a numeral. -/
def value? : Token → Option Float
  | number n => some n.value
  | word .. => none

/-- The canonical spelling, or else the token as it stands. -/
def text (t : Token) : String := t.canonical?.getD t.raw

def isNumber : Token → Bool
  | number _ => true
  | word .. => false

/-- Whether the token is a word of class `kind`. -/
def is (kind : WordClass) : Token → Bool
  | number _ => false
  | word k _ _ => k == kind

end Token

end RobotPhrase
