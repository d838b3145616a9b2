/-!
Byte strings, their cutting into blocks, and the text they hold.
-/

namespace DualSlot

abbrev Bytes := List UInt8

def takeBlocks (size : Nat) : Nat → List α → List (List α)
  | 0, _ => []
  | count + 1, items => items.take size :: takeBlocks size count (items.drop size)

/-- The items in groups of the given size, in order; only the last group may be smaller. -/
def blocks (size : Nat) (items : List α) : List (List α) :=
  takeBlocks size ((items.length + size - 1) / size) items

namespace Bytes

def ofString (text : String) : Bytes := text.toUTF8.data.toList

/-- The text that the bytes encode, unless they are no UTF-8. -/
def text? (bytes : Bytes) : Option String := String.fromUTF8? ⟨bytes.toArray⟩

/-- Zero bytes are appended up to the given length. -/
def padded (length : Nat) (bytes : Bytes) : Bytes :=
  bytes ++ List.replicate (length - bytes.length) 0

/-- The lowest `count` bytes of a number, the highest of them first. -/
def bigEndian (count value : Nat) : Bytes :=
  (List.range count).reverse.map fun position => UInt8.ofNat (value >>> (8 * position))

end Bytes

theorem takeBlocks_length (size count : Nat) (items : List α) :
    (takeBlocks size count items).length = count := by
  induction count generalizing items with
  | zero => rfl
  | succ count ih => simp [takeBlocks, ih]

theorem blocks_length (size : Nat) (items : List α) :
    (blocks size items).length = (items.length + size - 1) / size :=
  takeBlocks_length ..

theorem takeBlocks_flatten (size count : Nat) (items : List α)
    (enough : items.length ≤ count * size) : (takeBlocks size count items).flatten = items := by
  induction count generalizing items with
  | zero =>
    have : items = [] := List.eq_nil_of_length_eq_zero (by omega)
    simp [takeBlocks, this]
  | succ count ih =>
    have rest : (items.drop size).length ≤ count * size := by
      rw [Nat.succ_mul] at enough
      simp only [List.length_drop]
      omega
    simp [takeBlocks, ih _ rest]

/-- Nothing is lost or reordered by cutting into blocks. -/
theorem blocks_flatten (size : Nat) (items : List α) (positive : 0 < size) :
    (blocks size items).flatten = items := by
  apply takeBlocks_flatten
  have parts := Nat.div_add_mod (items.length + size - 1) size
  have small := Nat.mod_lt (items.length + size - 1) positive
  rw [Nat.mul_comm] at parts
  omega

end DualSlot
