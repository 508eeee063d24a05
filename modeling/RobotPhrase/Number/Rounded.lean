import RobotPhrase.Number.Shortest

/-!
# Rounded decimals

A double written with a fixed number of decimal places, or in scientific form with a fixed number of them, rounded
from its exact value; a half goes to the even neighbour.
-/

namespace RobotPhrase

/-- The whole number nearest to `n / d`; a half goes to the even one. -/
def divRound (n d : Nat) : Nat :=
  let below := n / d
  let twice := 2 * (n % d)
  if twice < d then below
  else if d < twice then below + 1
  else if below % 2 = 0 then below else below + 1

namespace Decimal

/-- `d / 10 ^ s` rounded to a multiple of `1 / 10 ^ places`, as that multiple. -/
def roundTo (places d s : Nat) : Nat :=
  if s ≤ places then d * Nat.pow 10 (places - s) else divRound d (Nat.pow 10 (s - places))

/-- The number `n / 10 ^ places` with all its places. -/
def withPlaces (places n : Nat) : List Char :=
  if places = 0 then Nat.toDigits 10 n
  else Nat.toDigits 10 (n / Nat.pow 10 places) ++ '.' ::
    let ds := Nat.toDigits 10 (n % Nat.pow 10 places)
    List.replicate (places - ds.length) '0' ++ ds

/-- `d / 10 ^ s`, for a positive `d`, rounded to `places + 1` significant digits. -/
def significant (places d s : Nat) : Decimal :=
  let count := digitCount d
  let digits :=
    if count ≤ places + 1 then d * Nat.pow 10 (places + 1 - count) else divRound d (Nat.pow 10 (count - (places + 1)))
  let exponent : Int := (count : Int) - 1 - s
  if digits = Nat.pow 10 (places + 1) then ⟨Nat.pow 10 places, exponent + 1⟩ else ⟨digits, exponent⟩

end Decimal

private def signed (negative : Bool) (size : List Char) : String :=
  String.ofList (if negative then '-' :: size else size)

/-- A double with `places` decimal places; a negative zero keeps its sign. -/
def showFixed (places : Nat) (x : Float) : String :=
  match Binary.ofFloat x with
  | .nan => "NaN"
  | .infinite negative => if negative then "-inf" else "inf"
  | .finite negative m q =>
    let (d, s) := Binary.decimal m q
    signed negative (Decimal.withPlaces places (Decimal.roundTo places d s))

/-- A double with one digit before the point, `places` after it, and the power of ten after an `e`. -/
def showScientific (places : Nat) (x : Float) : String :=
  match Binary.ofFloat x with
  | .nan => "NaN"
  | .infinite negative => if negative then "-inf" else "inf"
  | .finite negative m q =>
    let (d, s) := Binary.decimal m q
    let rounded := if d = 0 then ⟨0, 0⟩ else Decimal.significant places d s
    signed negative (Decimal.withPlaces places rounded.digits ++ 'e' :: (toString rounded.exponent).toList)

end RobotPhrase
