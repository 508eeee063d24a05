import RobotPhrase.Number.Binary

/-!
# Arithmetic of 64 bits

Whole numbers have 64 bits, and a computation can leave their range.  It depends on how the program is built what happens
then: the result wraps around, or the program stops and there is none.
-/

namespace RobotPhrase

/-- How whole numbers are negated in computations of type `m`. -/
structure Arithmetic (m : Type → Type) where
  negate : Int → m Int

namespace Arithmetic

/-- A result outside the range is replaced by the number in the range that differs from it by a multiple of two to the
power of 64. -/
def wrapping : Arithmetic Id := ⟨fun n => Int.bmod (-n) wordBound⟩

/-- There is no result outside the range. -/
def checked : Arithmetic Option := ⟨fun n => if leastWhole ≤ -n ∧ -n ≤ greatestWhole then some (-n) else none⟩

end Arithmetic

end RobotPhrase
