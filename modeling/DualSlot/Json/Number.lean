import DualSlot.Decimal.Shortest
import DualSlot.Text.Decimal

/-!
What the literals of JSON numbers stand for. Whole numbers of 64 bits are kept as they are, and all
others become doubles.
-/

namespace DualSlot.Json

/-- A literal without fraction and exponent that fits into 64 bits, with or without a sign. -/
def isInteger (literal : String) : Bool :=
  match literal.toList with
  | '-' :: digits => digits.all Char.isDigit &&
      (Text.digitsBelow? (Int64.size / 2 + 1) digits).any (0 < ·)
  | digits => digits.all Char.isDigit && (Text.digitsBelow? UInt64.size digits).isSome

/-- Appends digits to a number as long as the result fits into 64 bits: the number, and the digits
that are left. -/
def extend (value : Nat) : List Char → Nat × List Char
  | [] => (value, [])
  | digit :: rest =>
    let longer := Text.appendDigit value digit
    if longer < UInt64.size then extend longer rest else (value, digit :: rest)

/-- The number that a literal without a sign is read as. The digits that do not fit are read as
zeros before the point, and passed over behind it. -/
def decimal (literal : List Char) : Decimal :=
  let (mantissa, exponent) := literal.span fun c => c != 'e' && c != 'E'
  let (whole, fraction) := mantissa.span (· != '.')
  let (value, long) := extend 0 whole
  let (digits, unread) := extend value (fraction.drop 1)
  let power : Int := (match exponent.drop 1 with
    | '-' :: rest => -Text.exponentValue rest
    | '+' :: rest => Text.exponentValue rest
    | rest => Text.exponentValue rest)
  ⟨digits, power + long.length + unread.length - (fraction.drop 1).length⟩

/-- The double nearest to the digits, times or over the double nearest to the power of ten. A power
below the least one that a double has is applied in two steps, and no third one leaves anything. -/
def scaled (number : Decimal) : Float :=
  let digits : Float := .ofScientific number.digits false 0
  let ten (power : Nat) : Float := .ofScientific 1 false power
  if number.digits = 0 then 0
  else match number.power with
    | .ofNat power => if power ≤ 308 then digits * ten power else 1 / 0
    | .negSucc below =>
      if below + 1 ≤ 308 then digits / ten (below + 1)
      else if below + 1 ≤ 616 then digits / ten 308 / ten (below + 1 - 308)
      else 0

/-- The double that a literal is read as. -/
def double (literal : String) : Float :=
  match literal.toList with
  | '-' :: rest => -scaled (decimal rest)
  | rest => scaled (decimal rest)

end DualSlot.Json
