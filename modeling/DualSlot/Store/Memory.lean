import DualSlot.Store

/-!
A store in memory, which can be told to reject writes.
-/

namespace DualSlot

structure MemoryStore where
  bootState : Option BootState
  recordA : Option SlotRecord
  recordB : Option SlotRecord
  history : List HistoryEntry
  rejecting : Bool
  locked : Bool
  deriving DecidableEq, Repr

namespace MemoryStore

def empty : MemoryStore := ⟨none, none, none, [], false, false⟩

def record (store : MemoryStore) : Slot → Option SlotRecord
  | .a => store.recordA
  | .b => store.recordB

def setRecord (store : MemoryStore) (slot : Slot) (record : Option SlotRecord) : MemoryStore :=
  match slot with
  | .a => { store with recordA := record }
  | .b => { store with recordB := record }

/-- The store after a write, which it may reject as a whole. -/
def write (store written : MemoryStore) : Except StoreError Unit × MemoryStore :=
  if store.rejecting then (.error .rejected, store) else (.ok (), written)

def answer : (request : StoreRequest) → MemoryStore → request.Reply × MemoryStore
  | .readBootState, store => (.ok store.bootState, store)
  | .writeBootState state, store => store.write { store with bootState := some state }
  | .readRecord slot, store => (.ok (store.record slot), store)
  | .writeRecord record, store => store.write (store.setRecord record.slot (some record))
  | .clearRecord slot, store => store.write (store.setRecord slot none)
  | .appendHistory entry, store => store.write { store with history := store.history ++ [entry] }
  | .readHistory, store => (.ok store.history, store)
  | .lock, store =>
    if store.locked then (.error .locked, store) else (.ok .flag, { store with locked := true })
  | .unlock _, store => ((), { store with locked := false })

@[simp] theorem record_setRecord_same (store : MemoryStore) (slot : Slot)
    (record : Option SlotRecord) : (store.setRecord slot record).record slot = record := by
  cases slot <;> rfl

@[simp] theorem record_setRecord_other (store : MemoryStore) (slot : Slot)
    (record : Option SlotRecord) :
    (store.setRecord slot record).record slot.other = store.record slot.other := by
  cases slot <;> rfl

end MemoryStore

end DualSlot
