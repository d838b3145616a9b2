import DualSlot.Proofs.MenuAgreement
import DualSlot.Proofs.RollbackOutcome

/-! What a failed update leaves on record for the slot that it was to install into. The slot counts as
unknown before the first of its steps, so a failure may leave the record that the slot had, none, or
that of the new image. -/

namespace DualSlot

/-- What keeps an update from writing to a slot that it has turned to. -/
def Failure.BeforeWriting : Failure → Prop
  | .bootMenu _ | .persistence _ => True
  | _ => False

def Failure.OfWriting (target : Slot) (cause : Failure) : Prop := ∃ fault, cause = .slotWrite target fault

namespace Updater

variable {faults : Faults} {updater : Updater} {target : Slot} {machine : Machine} {before : Storage}
  {progress : Progress}

/-- What is left on record for a slot that counts as unknown, by where the update failed. -/
inductive RecordLeft (updater : Updater) (faults : Faults) (target : Slot) (before : Storage)
    (failure : UpdateFailure) (after : Storage) : Prop
  /-- Nothing was written yet, and the slot is as it was. -/
  | kept (stage : failure.failedIn = .writing) (early : failure.cause.BeforeWriting)
      (record : after.record target = before.record target)
      (bytes : after.bytes target = before.bytes target)
  | cleared (late : failure.failedIn = .writing → failure.cause.OfWriting target)
      (record : after.record target = none)
  /-- The new image was read back and recorded, but the slot did not become active. -/
  | renewed {rootHash : Digest} {time : UInt64} (stage : failure.failedIn = .committed)
      (record : after.record target = some ⟨target, rootHash.hex, time⟩)
      (holds : faults.ReadsAs updater.hash rootHash (after.bytes target))

theorem RecordLeft.congr {failure : UpdateFailure} {middle after : Storage}
    (left : updater.RecordLeft faults target before failure middle) (record : after.record = middle.record)
    (bytes : after.bytes = middle.bytes) : updater.RecordLeft faults target before failure after := by
  cases left with
  | kept stage early kept same => exact .kept stage early (record ▸ kept) (bytes ▸ same)
  | cleared late none => exact .cleared late (record ▸ none)
  | renewed stage new holds => exact .renewed stage (record ▸ new) (bytes ▸ holds)

end Updater

end DualSlot
