import RobotPhrase.Number.Binary

/-!
# Shortest decimals

The shortest decimal of a double is the one with the fewest digits among those that read back as the same double, and
the nearest of them to it.  The reals that read back as `m * 2 ^ q` form an interval around it, so it is enough to look
at the two neighbours of the double on each decimal grid, from the coarsest to the finest.
-/

namespace RobotPhrase

/-- The number `digits * 10 ^ exponent`. -/
structure Decimal where
  digits : Nat
  exponent : Int
  deriving DecidableEq, Repr

/-- Which of two equally near decimals is taken. -/
inductive Tie
  | up
  | even
  deriving DecidableEq, Repr

namespace Decimal

/-- The number of decimal digits of `n`. -/
def digitCount (n : Nat) : Nat := (Nat.toDigits 10 n).length

/-- An interval around the number `centre`, with its ends if `closed`. -/
structure Interval where
  low : Nat
  centre : Nat
  high : Nat
  closed : Bool

def Interval.contains (i : Interval) (n : Nat) : Bool :=
  if i.closed then i.low ≤ n && n ≤ i.high else i.low < n && n < i.high

/-- The multiple of `10 ^ k` in the interval that is nearest to its centre, divided by `10 ^ k`. -/
def Interval.nearest? (i : Interval) (tie : Tie) (k : Nat) : Option Nat :=
  let unit := Nat.pow 10 k
  let below := i.centre / unit
  let above := below + 1
  match i.contains (below * unit), i.contains (above * unit) with
  | false, false => none
  | true, false => some below
  | false, true => some above
  | true, true =>
    let down := i.centre - below * unit
    let up := above * unit - i.centre
    if down < up then some below
    else if up < down then some above
    else match tie with
      | .up => some above
      | .even => some (if below % 2 = 0 then below else above)

/-- The first grid, from `10 ^ k` on down to `1`, with a point in the interval. -/
def Interval.coarsest (i : Interval) (tie : Tie) : Nat → Decimal
  | 0 => ⟨i.centre, 0⟩
  | k + 1 =>
    match i.nearest? tie (k + 1) with
    | some digits => ⟨digits, (k + 1 : Nat)⟩
    | none => i.coarsest tie k

/-- The reals that round to `m * 2 ^ q`, on the decimal grid that holds both ends, and the decimal places of that grid.
The double below a power of two is nearer than the one above, unless the exponent is the least one. -/
def interval (m : Nat) (q : Int) : Interval × Nat :=
  let gap := if m = Binary.hiddenBit && q ≠ -1074 then 1 else 2
  let (unit, places) := Binary.decimal 1 (q - 2)
  (⟨(4 * m - gap) * unit, 4 * m * unit, (4 * m + 2) * unit, m % 2 = 0⟩, places)

/-- The shortest decimal of `m * 2 ^ q`, for a positive `m`. -/
def shortest (tie : Tie) (m : Nat) (q : Int) : Decimal :=
  let (i, places) := interval m q
  let d := i.coarsest tie (digitCount i.centre)
  ⟨d.digits, d.exponent - places⟩

/-- The digits of a decimal, most significant first. -/
def digitChars (d : Decimal) : List Char := Nat.toDigits 10 d.digits

/-- A decimal with all its places written out. -/
def positional (d : Decimal) : List Char :=
  let ds := d.digitChars
  if 0 ≤ d.exponent then ds ++ List.replicate d.exponent.toNat '0'
  else
    let places := (-d.exponent).toNat
    if places < ds.length then ds.take (ds.length - places) ++ '.' :: ds.drop (ds.length - places)
    else '0' :: '.' :: (List.replicate (places - ds.length) '0' ++ ds)

end Decimal

/-- The text of a double: the shortest decimal, never with a power of ten. -/
def showFloat (x : Float) : String :=
  match Binary.ofFloat x with
  | .nan => "NaN"
  | .infinite negative => if negative then "-inf" else "inf"
  | .finite negative m q =>
    let size := if m = 0 then ['0'] else (Decimal.shortest .up m q).positional
    String.ofList (if negative then '-' :: size else size)

end RobotPhrase
