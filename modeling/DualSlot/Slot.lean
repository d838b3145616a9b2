import DualSlot.Digest
import DualSlot.Text.Quoted

/-!
The two slots.
-/

namespace DualSlot

inductive Slot where
  | a
  | b
  deriving DecidableEq, Repr

namespace Slot

def all : List Slot := [a, b]

def other : Slot → Slot
  | a => b
  | b => a

def name : Slot → String
  | a => "A"
  | b => "B"

/-- The name as it appears in file names. -/
def lower : Slot → String
  | a => "a"
  | b => "b"

def parseChars? (text : List Char) : Option Slot :=
  match Text.trim text with
  | ['A'] | ['a'] => some a
  | ['B'] | ['b'] => some b
  | _ => none

def parse? (text : String) : Option Slot := parseChars? text.toList

/-- The message for a text that names no slot. -/
def invalidName (text : String) : String :=
  s!"invalid slot {Text.quote (Text.trimmed text)}, expected `A` or `B`"

@[simp] theorem other_other (slot : Slot) : slot.other.other = slot := by cases slot <;> rfl

theorem other_ne (slot : Slot) : slot.other ≠ slot := by cases slot <;> decide

theorem eq_or_eq_other (first second : Slot) : first = second ∨ first = second.other := by
  cases first <;> cases second <;> decide

end Slot

end DualSlot
