import DualSlot.Call
import DualSlot.Explanation
import DualSlot.Record

/-!
What a store of records can be asked, and why it may refuse. A store holds the boot state, one
integrity record for each slot, the history, and the lock that keeps sessions apart.
-/

namespace DualSlot

inductive StoreError where
  | noDirectory (cause : IoError)
  | unreadable (path : Path) (cause : IoError)
  | unwritable (path : Path) (cause : IoError)
  | unremovable (path : Path) (cause : IoError)
  | unextendable (path : Path) (cause : IoError)
  | unopenable (path : Path) (cause : IoError)
  | unlockable (path : Path) (cause : IoError)
  /-- The store takes no writes. -/
  | rejected
  | corrupt (path : Path)
  | notInitialized
  | alreadyInitialized
  | locked
  deriving DecidableEq, Repr

namespace StoreError

def message : StoreError → String
  | noDirectory _ => "unable to create state directory"
  | unreadable path _ => s!"unable to read {path.quoted}"
  | unwritable path _ => s!"unable to write {path.quoted}"
  | unremovable path _ => s!"unable to remove {path.quoted}"
  | unextendable path _ => s!"unable to append to {path.quoted}"
  | unopenable path _ => s!"unable to open {path.quoted}"
  | unlockable path _ => s!"unable to lock {path.quoted}"
  | rejected => "unable to write state"
  | corrupt path => s!"corrupt state record {path.text}"
  | notInitialized => "boot state has not been initialized"
  | alreadyInitialized => "boot state is already initialized"
  | locked => "another session holds the update lock"

def explanation (error : StoreError) : Explanation :=
  match error with
  | noDirectory cause | unreadable _ cause | unwritable _ cause | unremovable _ cause
  | unextendable _ cause | unopenable _ cause | unlockable _ cause => [error.message, cause.message]
  | rejected => [error.message, "write rejected by store"]
  | corrupt _ => [error.message, "no such record in JSON"]
  | notInitialized | alreadyInitialized | locked => [error.message]

end StoreError

/-- What keeps other sessions out: a locked file, or a flag of the store. -/
inductive Guard where
  | file (handle : Handle)
  | flag
  deriving DecidableEq, Repr

inductive StoreRequest where
  | readBootState
  | writeBootState (state : BootState)
  | readRecord (slot : Slot)
  | writeRecord (record : SlotRecord)
  | clearRecord (slot : Slot)
  | appendHistory (entry : HistoryEntry)
  | readHistory
  /-- Begins a session unless there is one. -/
  | lock
  | unlock (guard : Guard)
  deriving DecidableEq, Repr

namespace StoreRequest

@[reducible] def Reply : StoreRequest → Type
  | readBootState => Except StoreError (Option BootState)
  | writeBootState _ => Except StoreError Unit
  | readRecord _ => Except StoreError (Option SlotRecord)
  | writeRecord _ => Except StoreError Unit
  | clearRecord _ => Except StoreError Unit
  | appendHistory _ => Except StoreError Unit
  | readHistory => Except StoreError (List HistoryEntry)
  | lock => Except StoreError Guard
  | unlock _ => Unit

end StoreRequest

end DualSlot
