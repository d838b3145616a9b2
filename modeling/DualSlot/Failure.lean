import DualSlot.BootEntry
import DualSlot.HashTree.Build
import DualSlot.Sidecar
import DualSlot.Store

/-!
Why an operation on the slots or the boot menu did not succeed.
-/

namespace DualSlot

inductive BootMenuError where
  | unwritable (path : Path) (cause : IoError)
  | unreadable (path : Path) (cause : IoError)
  | malformed (path : Path) (fault : EntryFault)
  deriving DecidableEq, Repr

namespace BootMenuError

def message : BootMenuError → String
  | unwritable path _ => s!"unable to write {path.quoted}"
  | unreadable path _ => s!"unable to read {path.quoted}"
  | malformed path fault => s!"malformed boot entry {path.quoted}: {fault.message}"

def explanation (error : BootMenuError) : Explanation :=
  match error with
  | unwritable _ cause | unreadable _ cause => [error.message, cause.message]
  | malformed _ _ => [error.message]

end BootMenuError

/-- Why an image could not be checked. -/
inductive ImageError where
  | tree (cause : HashTree.BuildError)
  | sidecar (cause : SidecarError)
  deriving DecidableEq, Repr

namespace ImageError

def unreadable (cause : IoError) : ImageError := .tree (.unreadable cause)

def explanation : ImageError → Explanation
  | tree cause => cause.explanation
  | sidecar cause => cause.explanation

end ImageError

/-- In what way an image is not the one that its metadata describes. -/
inductive Mismatch where
  | metadata (cause : SidecarError)
  | params (cause : HashTree.ParamsError)
  | dataBlocks (described found : Nat)
  | rootHash (expected found : Digest)
  deriving DecidableEq

def Mismatch.message : Mismatch → String
  | .metadata cause => s!"invalid integrity metadata: {cause.message}"
  | .params cause => s!"invalid integrity metadata: {(HashTree.BuildError.params cause).message}"
  | .dataBlocks described found =>
    s!"metadata describes {described} data blocks, image has {found}"
  | .rootHash expected found => s!"expected root hash {expected.hex}, computed {found.hex}"

/-- What is wrong with the integrity record of a slot. -/
inductive RecordFault where
  | empty
  | invalid (cause : DigestError)
  | absent
  | absentForActive
  deriving DecidableEq, Repr

def RecordFault.message : RecordFault → String
  | .empty => "root hash is empty"
  | .invalid cause => cause.message
  | .absent => "refusing to activate a slot without integrity record"
  | .absentForActive => "active slot has no integrity record"

/-- Why the contents of a slot were not written. -/
inductive WriteFault where
  | failed (cause : IoError)
  | incomplete (written size : Nat)
  deriving DecidableEq, Repr

def WriteFault.message : WriteFault → String
  | .failed cause => cause.message
  | .incomplete written size => s!"wrote {written} of {size} bytes"

inductive Failure where
  | download (name : String) (cause : IoError)
  | checksumMismatch (expected : String) (found : Digest)
  | integrityMismatch (mismatch : Mismatch)
  | writeVerification (slot : Slot) (expected found : Digest)
  | slotWrite (slot : Slot) (fault : WriteFault)
  | slotRead (slot : Slot) (cause : ImageError)
  | verification (cause : ImageError)
  | persistence (cause : StoreError)
  | integrityRecord (slot : Slot) (fault : RecordFault)
  | noRollbackTarget (slot : Slot)
  | bootMenu (cause : BootMenuError)
  | busy
  | cancelled
  deriving DecidableEq

namespace Failure

def message : Failure → String
  | download name _ => s!"unable to download {Text.quote name}"
  | checksumMismatch expected found =>
    s!"image checksum mismatch (expected {Text.quote expected}, found {found.hex})"
  | integrityMismatch mismatch => s!"integrity tree mismatch: {mismatch.message}"
  | writeVerification slot expected found =>
    s!"slot {slot.name} does not hold the verified image " ++
      s!"(expected {expected.hex}, found {found.hex})"
  | slotWrite slot _ => s!"unable to write image to slot {slot.name}"
  | slotRead slot _ => s!"unable to read back slot {slot.name}"
  | verification _ => "unable to verify image"
  | persistence _ => "unable to access persistent state"
  | integrityRecord slot fault =>
    s!"invalid integrity record for slot {slot.name}: {fault.message}"
  | noRollbackTarget slot => s!"slot {slot.name} has no integrity record to roll back to"
  | bootMenu _ => "unable to write boot entries"
  | busy => "another update or rollback session is in progress"
  | cancelled => "update cancelled"

def explanation (failure : Failure) : Explanation :=
  failure.message :: match failure with
    | download _ cause => [cause.message]
    | slotWrite _ fault => [fault.message]
    | slotRead _ cause | verification cause => cause.explanation
    | persistence cause => cause.explanation
    | bootMenu cause => cause.explanation
    | _ => []

/-- A session that cannot begin because there is another finds the machine busy. -/
def ofSession : StoreError → Failure
  | .locked => .busy
  | cause => .persistence cause

end Failure

end DualSlot
