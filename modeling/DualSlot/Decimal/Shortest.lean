import DualSlot.Decimal

/-!
The text of a double: the fewest digits that read back to it, and of those the nearest to it. All
arithmetic is on whole numbers, in units of ten to the minus 1076: of these a quarter of the
smallest positive double is a whole number.
-/

namespace DualSlot

/-- The size of a finite double: the `significand` times two to the `shift`, counted in smallest
positive doubles. -/
structure Magnitude where
  significand : Nat
  shift : Nat
  /-- The double below is only half as far away as the one above. -/
  narrow : Bool
  deriving DecidableEq, Repr

namespace Magnitude

/-- The size of the finite double with the bits. -/
def ofBits (bits : UInt64) : Magnitude :=
  let fraction := bits.toNat % Nat.pow 2 52
  let scale := bits.toNat / Nat.pow 2 52 % Nat.pow 2 11
  if scale = 0 then ⟨fraction, 0, false⟩
  else ⟨Nat.pow 2 52 + fraction, scale - 1, fraction = 0 ∧ 1 < scale⟩

/-- How many places after the point the unit has. -/
def places : Nat := 1076

/-- A quarter of the way to the double above. -/
def quarter (size : Magnitude) : Nat := Nat.pow 2 size.shift * Nat.pow 5 places

def value (size : Magnitude) : Nat := 4 * size.significand * size.quarter

/-- Whether the double is the nearest one to the number. Half way between two doubles, it is the one
with the even significand. -/
def readsBack (size : Magnitude) (number : Nat) : Bool :=
  let low := (4 * size.significand - (if size.narrow then 1 else 2)) * size.quarter
  let high := (4 * size.significand + 2) * size.quarter
  (low < number && number < high) ||
    (size.significand % 2 = 0 && (number = low || number = high))

/-- The nearest number in steps of the given power of ten that reads back, if one does: one of the
two around the value. Of two that are equally near, it is the even one. -/
def step? (size : Magnitude) (power : Nat) : Option Decimal :=
  let step := Nat.pow 10 power
  let below := size.value / step
  let beyond := 2 * (size.value % step)
  let nearest := (if beyond < step ∨ (beyond = step ∧ below % 2 = 0) then [below, below + 1]
    else [below + 1, below])
  (nearest.find? fun digits => size.readsBack (digits * step)).map fun digits =>
    ⟨digits, (power : Int) - places⟩

/-- The decimal with the fewest digits that reads back; seventeen are always enough. -/
def shortest (size : Magnitude) : Decimal :=
  let length := (Nat.toDigits 10 size.value).length
  ((List.range 17).findSome? fun dropped => size.step? (length - (dropped + 1))).getD
    ⟨size.value, -places⟩

end Magnitude

namespace Decimal

/-- The text of a number that is not zero. If the first digit stands for a power of ten from -5 to
15 it is written out, with a digit on each side of the point at least, and otherwise with that
power after one digit, a point if more follow, and the letter `e`. -/
def text (value : Decimal) : List Char :=
  let all := Nat.toDigits 10 value.digits
  let digits := (all.reverse.dropWhile (· = '0')).reverse
  let zeros (count : Nat) : List Char := List.replicate count '0'
  match (all.length : Int) - 1 + value.power with
  | .ofNat power =>
    if power ≤ 15 then
      let (whole, fraction) := (digits ++ zeros (power + 1 - digits.length)).splitAt (power + 1)
      whole ++ '.' :: (if fraction.isEmpty then ['0'] else fraction)
    else scientific digits '+' power
  | .negSucc below =>
    if below + 1 ≤ 5 then '0' :: '.' :: (zeros below ++ digits)
    else scientific digits '-' (below + 1)
where
  scientific (digits : List Char) (sign : Char) (power : Nat) : List Char :=
    digits.take 1 ++ (if digits.length ≤ 1 then [] else '.' :: digits.drop 1) ++
      'e' :: sign :: Nat.toDigits 10 power

/-- The text of a double. -/
def ofDouble (double : Float) : String :=
  let bits := double.toBits
  let size := Magnitude.ofBits bits
  let sign := if bits.toNat < Nat.pow 2 63 then [] else ['-']
  if double.isNaN then "NaN"
  else if double.isInf then .ofList (sign ++ "inf".toList)
  else if size.significand = 0 then .ofList (sign ++ "0.0".toList)
  else .ofList (sign ++ size.shortest.text)

end Decimal

end DualSlot
