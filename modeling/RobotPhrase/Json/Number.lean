import RobotPhrase.Number.Numeral
import RobotPhrase.Number.Shortest

/-!
# Numbers in JSON

A number is kept as it is written, because its value depends on what is asked for: a whole number must fit 64 bits, and
a double is made from the leading digits that fit 64 bits, scaled once by a power of ten.
-/

namespace RobotPhrase.Json

/-- A number as it is written: sign, digits before the point, digits after it, and the power of ten. -/
structure Number where
  negative : Bool
  whole : List Char
  fraction : List Char
  exponent : Option Int
  deriving DecidableEq, Repr

namespace Number

/-- The longest beginning of a row of digits that keeps the number below `wordBound`, as that number, and the count of
the digits left out. -/
def absorb (significand : Nat) : List Char → Nat × Nat
  | [] => (significand, 0)
  | d :: ds =>
    let next := 10 * significand + (d.toNat - '0'.toNat)
    if next < wordBound then absorb next ds else (significand, ds.length + 1)

/-- The greatest power of ten used in one step. -/
def greatestPower : Nat := 308

/-- `x * 10 ^ e`, with a division for a negative power; a result that is too large is none. -/
def scale (x : Float) (e : Int) : Option Float :=
  if e.natAbs ≤ greatestPower then
    let power := Float.ofScientific 1 false e.natAbs
    if 0 ≤ e then
      let y := x * power
      if y.isInf then none else some y
    else some (x / power)
  else if x == 0 then some x
  else if 0 ≤ e then none
  else scale (x / Float.ofScientific 1 false greatestPower) (e + greatestPower)
termination_by e.natAbs
decreasing_by
  rename_i h _ _
  simp only [greatestPower] at h ⊢
  omega

/-- Whether the number is written without a point and without a power of ten. -/
def isWhole (n : Number) : Bool := n.fraction.isEmpty && n.exponent.isNone

/-- A number written as a whole number and within 64 bits; a negative zero is none. -/
def int? (n : Number) : Option Int :=
  let size := Numeral.digitsValue n.whole
  if n.isWhole then
    if n.negative then if 0 < size && leastWhole ≤ -(size : Int) then some (-(size : Int)) else none
    else if size < wordBound then some (size : Int) else none
  else none

/-- The double that stands for a number, if it is in the range of doubles. -/
def float? (n : Number) : Option Float :=
  let (front, skipped) := absorb 0 n.whole
  let (significand, left) := absorb front n.fraction
  let exponent : Int := (skipped : Int) - (n.fraction.length - left : Nat) + n.exponent.getD 0
  (scale (Float.ofNat significand) exponent).map fun size => if n.negative then -size else size

def ofInt (n : Int) : Number := ⟨n < 0, Nat.toDigits 10 n.natAbs, [], none⟩

/-- The least and the greatest power of ten of the first digit for which a number is written without a power of ten. -/
def leastPlain : Int := -5

@[inherit_doc leastPlain]
def greatestPlain : Int := 15

/-- The shortest form of `m * 2 ^ q`: at least one digit after the point, or else a power of ten. -/
def ofBinary (negative : Bool) (m : Nat) (q : Int) : Number :=
  if m = 0 then ⟨negative, ['0'], ['0'], none⟩
  else
    let d := Decimal.shortest .even m q
    let ds := d.digitChars
    let power : Int := ds.length - 1 + d.exponent
    if leastPlain ≤ power && power ≤ greatestPlain then
      if 0 ≤ d.exponent then ⟨negative, d.positional, ['0'], none⟩
      else
        let places := (-d.exponent).toNat
        let padded := List.replicate (places + 1 - ds.length) '0' ++ ds
        ⟨negative, padded.take (padded.length - places), padded.drop (padded.length - places), none⟩
    else ⟨negative, ds.take 1, ds.drop 1, some power⟩

/-- A power of ten is written with its sign, also when it is positive. -/
def text (n : Number) : List Char :=
  (if n.negative then ['-'] else []) ++ n.whole ++ (if n.fraction.isEmpty then [] else '.' :: n.fraction)
    ++ match n.exponent with
      | none => []
      | some e => 'e' :: (if e < 0 then '-' else '+') :: Nat.toDigits 10 e.natAbs

end Number

end RobotPhrase.Json
