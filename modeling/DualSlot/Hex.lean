import DualSlot.Bytes

/-!
Base 16: two digits a byte, the high half first. Writing uses the lower case; reading takes both.
-/

namespace DualSlot.Hex

def digit (value : Nat) : Char :=
  if value < 10 then Char.ofNat ('0'.toNat + value) else Char.ofNat ('a'.toNat + (value - 10))

def value? (c : Char) : Option Nat :=
  if '0' ≤ c ∧ c ≤ '9' then some (c.toNat - '0'.toNat)
  else if 'a' ≤ c ∧ c ≤ 'f' then some (c.toNat - 'a'.toNat + 10)
  else if 'A' ≤ c ∧ c ≤ 'F' then some (c.toNat - 'A'.toNat + 10)
  else none

def encode (bytes : Bytes) : List Char :=
  bytes.flatMap fun byte => [digit (byte.toNat / 16), digit (byte.toNat % 16)]

def decodeFrom (found : Bytes) : List Char → Option Bytes
  | [] => some found.reverse
  | [_] => none
  | high :: low :: rest => do
    decodeFrom (UInt8.ofNat (16 * (← value? high) + (← value? low)) :: found) rest

/-- Fails at a character that is no digit and at a digit without its partner. -/
def decode? (text : List Char) : Option Bytes := decodeFrom [] text

theorem value?_digit {value : Nat} (small : value < 16) : value? (digit value) = some value := by
  have : ∀ v : Fin 16, value? (digit v) = some v.val := by decide
  exact this ⟨value, small⟩

theorem decodeFrom_encode (found bytes : Bytes) :
    decodeFrom found (encode bytes) = some (found.reverse ++ bytes) := by
  induction bytes generalizing found with
  | nil => simp [encode, decodeFrom]
  | cons byte bytes ih =>
    have high : byte.toNat / 16 < 16 := by have := byte.toNat_lt; omega
    have low : byte.toNat % 16 < 16 := Nat.mod_lt _ (by decide)
    have whole : 16 * (byte.toNat / 16) + byte.toNat % 16 = byte.toNat := Nat.div_add_mod ..
    change decodeFrom found
      (digit (byte.toNat / 16) :: digit (byte.toNat % 16) :: encode bytes) = _
    simp only [decodeFrom, value?_digit high, value?_digit low, Option.bind_eq_bind,
      Option.bind_some, whole, UInt8.ofNat_toNat, ih]
    simp

theorem decode?_encode (bytes : Bytes) : decode? (encode bytes) = some bytes :=
  decodeFrom_encode [] bytes

end DualSlot.Hex
