import RobotPhrase.Number.Numeral
import RobotPhrase.Number.Shortest
import RobotPhrase.Text.LetterCase

/-!
# Numbers as users write them

In options and documents a number may have a sign, a point with digits on either side of it, and a power of ten; a
double may also be infinite or not a number, in words.
-/

namespace RobotPhrase

namespace Literal

/-- The sign in front of a number, and the rest. -/
def sign : List Char → Bool × List Char
  | '-' :: rest => (true, rest)
  | '+' :: rest => (false, rest)
  | cs => (false, cs)

/-- A text that consists of digits, as a number. -/
def digits? (cs : List Char) : Option Nat :=
  if !cs.isEmpty && cs.all Char.isDigit then some (Numeral.digitsValue cs) else none

/-- The power of ten at the end of a number, which is zero if there is none. -/
def exponent? : List Char → Option Int
  | [] => some 0
  | c :: rest =>
    if c == 'e' || c == 'E' then
      let (negative, rest) := sign rest
      (digits? rest).map fun n => if negative then -(n : Int) else n
    else none

/-- Numbers with more digits before the point are infinite, and those with more zeros behind it are zero. -/
def greatestSize : Int := 400

/-- The double nearest to `n * 10 ^ e`. -/
def scaled (n : Nat) (e : Int) : Float :=
  let size : Int := Decimal.digitCount n + e
  if n = 0 || size < -greatestSize then 0
  else if greatestSize < size then 1 / 0
  else Float.ofScientific n (e < 0) e.natAbs

/-- A double without a sign. -/
def unsigned? (cs : List Char) : Option Float :=
  let named (name : String) : Bool := cs.map Char.toLower == name.toList
  if named "inf" || named "infinity" then some (1 / 0)
  else if named "nan" then some (0 / 0)
  else
    let whole := cs.takeWhile Char.isDigit
    let rest := cs.dropWhile Char.isDigit
    let (fraction, rest) := match rest with
      | '.' :: rest => (rest.takeWhile Char.isDigit, rest.dropWhile Char.isDigit)
      | rest => ([], rest)
    if whole.isEmpty && fraction.isEmpty then none
    else (exponent? rest).map fun e => scaled (Numeral.digitsValue (whole ++ fraction)) (e - fraction.length)

/-- The double nearest to a number. -/
def float? (cs : List Char) : Option Float :=
  let (negative, rest) := sign cs
  (unsigned? rest).map fun size => if negative then -size else size

/-- A whole number of 64 bits with a sign. -/
def signedWord? (cs : List Char) : Option Int :=
  let (negative, rest) := sign cs
  ((digits? rest).map fun n => if negative then -(n : Int) else n).filter fun n =>
    leastWhole ≤ n && n ≤ greatestWhole

/-- A whole number of 64 bits, which may have a plus sign. -/
def word? (cs : List Char) : Option Nat :=
  (digits? (match cs with
    | '+' :: rest => rest
    | cs => cs)).filter fun n => n < wordBound

end Literal

end RobotPhrase
