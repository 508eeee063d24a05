/-!
# Doubles as exact numbers

A finite double is `± m * 2 ^ q` for a natural number `m` and an integer `q`, and so also `± d / 10 ^ s`.  From this
exact form come truncation to a bounded integer and the remainder of a division, both without rounding.
-/

namespace RobotPhrase

/-- What the bits of a double say. -/
inductive Binary
  | nan
  | infinite (negative : Bool)
  /-- The number `± m * 2 ^ q`. -/
  | finite (negative : Bool) (m : Nat) (q : Int)
  deriving DecidableEq, Repr

namespace Binary

/-- The first bit of a double, which is set in all but the smallest and is not written. -/
def hiddenBit : Nat := 0x10000000000000

def ofFloat (x : Float) : Binary :=
  let bits := x.toBits.toNat
  let negative : Bool := 0x8000000000000000 ≤ bits
  let biased := bits / hiddenBit % 0x800
  let fraction := bits % hiddenBit
  if biased = 2047 then
    if fraction = 0 then infinite negative else nan
  else if biased = 0 then finite negative fraction (-1074)
  else finite negative (hiddenBit + fraction) ((biased : Int) - 1075)

/-- The exact decimal form of `m * 2 ^ q`: a natural number `d` and a number `s` of decimal places. -/
def decimal (m : Nat) (q : Int) : Nat × Nat :=
  if 0 ≤ q then (m * Nat.pow 2 q.toNat, 0) else (m * Nat.pow 5 (-q).toNat, (-q).toNat)

/-- The whole part of `m * 2 ^ q`. -/
def whole (m : Nat) (q : Int) : Nat :=
  if 0 ≤ q then m * Nat.pow 2 q.toNat else m / Nat.pow 2 (-q).toNat

end Binary

/-- The least and the greatest whole number of 64 bits. -/
def leastWhole : Int := -9223372036854775808

@[inherit_doc leastWhole]
def greatestWhole : Int := 9223372036854775807

/-- One more than the greatest natural number of 64 bits. -/
def wordBound : Nat := 18446744073709551616

/-- A double cut off toward zero and held within 64 bits.  What is not a number becomes zero. -/
def truncate (x : Float) : Int :=
  match Binary.ofFloat x with
  | .nan => 0
  | .infinite true => leastWhole
  | .infinite false => greatestWhole
  | .finite negative m q =>
    let size : Int := Binary.whole m q
    max leastWhole (min greatestWhole (if negative then -size else size))

theorem truncate_mem_range (x : Float) : leastWhole ≤ truncate x ∧ truncate x ≤ greatestWhole := by
  have hrange : leastWhole ≤ 0 ∧ 0 ≤ greatestWhole := by decide
  unfold truncate
  split
  · exact hrange
  · omega
  · omega
  · dsimp only
    omega

/-- The remainder of `x` by the natural number `n`, with the sign of `x`; it has no rounding. -/
def remainder (x : Float) (n : Nat) : Float :=
  match Binary.ofFloat x with
  | .finite negative m q =>
    if x.abs < Float.ofNat n then x
    else
      let size :=
        if 0 ≤ q then Float.ofNat (m * Nat.pow 2 q.toNat % n)
        else Float.ofNat (m % (n * Nat.pow 2 (-q).toNat)) / Float.ofNat (Nat.pow 2 (-q).toNat)
      if negative then -size else size
  | _ => 0.0 / 0.0

end RobotPhrase
