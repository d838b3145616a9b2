import DualSlot.Text.Decimal

/-!
Decimal numbers as they are written, and which of them are too large for a double.
-/

namespace DualSlot

/-- The number `digits` times ten to the `power`. -/
structure Decimal where
  digits : Nat
  power : Int
  deriving DecidableEq, Repr

namespace Decimal

/-- Half way from the largest double to the power of two that would follow it. -/
def doubleLimit : Nat := Nat.pow 2 1024 - Nat.pow 2 970

/-- Whether the double nearest to a number is infinite, which is given by digits and the power of
ten that they are multiplied by. The limit is a whole number of 309 digits, so no more than the
first 309 matter. -/
def overflows (digits : List Char) (power : Int) : Bool :=
  let digits := digits.dropWhile (· = '0')
  let places := digits.length + power
  !digits.isEmpty && (309 < places || (places = 309 &&
    doubleLimit ≤ Text.digitsValue ((digits.take 309).rightpad 309 '0')))

end Decimal

end DualSlot
