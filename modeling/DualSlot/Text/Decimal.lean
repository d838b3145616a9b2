/-!
Numbers in decimal digits.
-/

namespace DualSlot.Text

def appendDigit (value : Nat) (digit : Char) : Nat := 10 * value + (digit.toNat - '0'.toNat)

def digitsValue (digits : List Char) : Nat := digits.foldl appendDigit 0

/-- The value of digits, unless it reaches the bound; what follows then is not looked at. -/
def digitsBelow? (bound : Nat) (digits : List Char) : Option Nat :=
  digits.foldlM (fun value digit =>
    if appendDigit value digit < bound then some (appendDigit value digit) else none) 0

theorem le_foldl_appendDigit (start : Nat) (digits : List Char) :
    start ≤ digits.foldl appendDigit start := by
  induction digits generalizing start with
  | nil => exact Nat.le_refl _
  | cons digit digits ih =>
    have step : start ≤ appendDigit start digit := by unfold appendDigit; omega
    exact Nat.le_trans step (ih _)

theorem digitsBelow?_eq_some_iff {bound value : Nat} {digits : List Char} (given : digits ≠ []) :
    digitsBelow? bound digits = some value ↔ digitsValue digits = value ∧ value < bound := by
  have all : ∀ (digits : List Char) (start : Nat), start < bound ∨ digits ≠ [] →
      (digits.foldlM (fun value digit => if appendDigit value digit < bound then
        some (appendDigit value digit) else none) start = some value ↔
      digits.foldl appendDigit start = value ∧ value < bound) := by
    intro digits
    induction digits with
    | nil =>
      intro start small
      have : start < bound := by simpa using small
      constructor
      · intro same
        cases same
        exact ⟨rfl, this⟩
      · rintro ⟨rfl, _⟩
        rfl
    | cons digit digits ih =>
      intro start _
      simp only [List.foldlM_cons, List.foldl_cons]
      by_cases small : appendDigit start digit < bound
      · simp only [small, ite_true, Option.bind_eq_bind, Option.bind_some]
        exact ih _ (.inl small)
      · simp only [small, ite_false, Option.bind_eq_bind, Option.bind_none]
        have least := le_foldl_appendDigit (appendDigit start digit) digits
        constructor
        · intro none
          cases none
        · rintro ⟨rfl, below⟩
          omega
  exact all digits 0 (.inr given)

/-- An exponent of ten. Beyond the lengths that text can have, all of them come to the same. -/
def exponentValue (digits : List Char) : Nat :=
  let bound := Nat.pow 10 18
  (digitsBelow? bound digits).getD bound

/-- A number below the bound: ASCII digits after an optional plus sign. -/
def number? (bound : Nat) (text : List Char) : Option Nat :=
  let digits := (match text with
    | '+' :: rest => rest
    | _ => text)
  if digits.isEmpty || !digits.all Char.isDigit then none else digitsBelow? bound digits

theorem number?_lt {bound value : Nat} {text : List Char} (read : number? bound text = some value) :
    value < bound := by
  have found : ∃ digits, digits ≠ [] ∧ digitsBelow? bound digits = some value := by
    unfold number? at read
    grind
  obtain ⟨digits, given, below⟩ := found
  exact ((digitsBelow?_eq_some_iff given).1 below).2

/-- A number of 32 bits. -/
def word32? (text : List Char) : Option UInt32 := (number? UInt32.size text).map UInt32.ofNat

/-- Whether a text has a property, apart from a sign in front. -/
def isSigned (p : List Char → Bool) : List Char → Bool
  | '+' :: text | '-' :: text => p text
  | text => p text

def isDigits (text : List Char) : Bool := !text.isEmpty && text.all Char.isDigit

/-- Digits with a point among, before or behind them, and then perhaps an exponent. -/
def isDecimal (text : List Char) : Bool :=
  let (mantissa, exponent) := text.span fun c => c ≠ 'e' && c ≠ 'E'
  let (whole, fraction) := mantissa.span (· ≠ '.')
  isDigits (whole ++ fraction.drop 1) && (exponent.isEmpty || isSigned isDigits (exponent.drop 1))

/-- A number of any kind, or one of the names of what is not finite. -/
def isNumeral : List Char → Bool :=
  isSigned fun text =>
    isDecimal text ||
      ["inf", "infinity", "nan"].any fun name => name.toList = text.map Char.toLower

end DualSlot.Text
