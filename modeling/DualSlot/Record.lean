import DualSlot.Slot

/-!
What persists: the boot state, one integrity record for each slot, and the history of activations.
-/

namespace DualSlot

/-- The slot to boot next and the boot attempts it has left. -/
structure BootState where
  activeSlot : Slot
  bootCount : UInt32
  deriving DecidableEq, Repr

/-- The root hash of the image in a slot, and when it was recorded. -/
structure SlotRecord where
  slot : Slot
  rootHash : String
  createdAt : UInt64
  deriving DecidableEq, Repr

/-- A record without a readable hash says that the slot's contents are unknown. -/
def SlotRecord.digest? (record : SlotRecord) : Option Digest := Digest.parse? record.rootHash

inductive Outcome where
  | success
  | rollback
  deriving DecidableEq, Repr

def Outcome.name : Outcome → String
  | success => "success"
  | rollback => "rollback"

/-- One activation of a slot. -/
structure HistoryEntry where
  timestamp : UInt64
  outcome : Outcome
  activeSlot : Slot
  deriving DecidableEq, Repr

end DualSlot
