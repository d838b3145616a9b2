import DualSlot.Action

/-!
How far an update came, and what it leaves behind if it fails there.
-/

namespace DualSlot

inductive Stage where
  | idle
  | fetching
  | checksumVerified
  | integrityVerified
  | writing
  | writtenVerified
  | committed
  | failed
  | rolledBack
  deriving DecidableEq, Repr

def Stage.name : Stage → String
  | idle => "idle"
  | fetching => "fetching"
  | checksumVerified => "checksum-verified"
  | integrityVerified => "integrity-verified"
  | writing => "writing"
  | writtenVerified => "written-verified"
  | committed => "committed"
  | failed => "failed"
  | rolledBack => "rolled-back"

/-- What an update that failed has done. -/
inductive Impact where
  | nothingTouched
  /-- The inactive slot may hold anything and has no record. -/
  | inactiveSlotUnknown
  /-- The new slot is active, but the boot menu may not show it. -/
  | splitBrain
  deriving DecidableEq, Repr

namespace Impact

def name : Impact → String
  | nothingTouched => "nothing-touched"
  | inactiveSlotUnknown => "inactive-slot-unknown"
  | splitBrain => "split-brain"

def message : Impact → String
  | nothingTouched => "nothing was touched"
  | inactiveSlotUnknown => "the inactive slot is in an unknown state, safe to retry"
  | splitBrain => "committed but boot entries are inconsistent, manual rollback required"

/-- Whether the update may be tried again as it is. -/
def retryPermitted : Impact → Bool
  | nothingTouched | inactiveSlotUnknown => true
  | splitBrain => false

end Impact

structure UpdateFailure where
  cause : Failure
  /-- The stage that was not reached. -/
  failedIn : Stage
  /-- The last stage that was reached. -/
  lastCompleted : Stage
  impact : Impact
  deriving DecidableEq

namespace UpdateFailure

def message (failure : UpdateFailure) : String :=
  s!"update failed in state {failure.failedIn.name} after {failure.lastCompleted.name}, " ++
    failure.impact.message

def explanation (failure : UpdateFailure) : Explanation :=
  failure.message :: failure.cause.explanation

end UpdateFailure

structure Progress where
  lastCompleted : Stage
  impact : Impact
  deriving DecidableEq, Repr

namespace Progress

def start : Progress := ⟨.idle, .nothingTouched⟩

def fail (progress : Progress) (next : Stage) (cause : Failure) : UpdateFailure :=
  ⟨cause, next, progress.lastCompleted, progress.impact⟩

/-- A part of an update on the way to the next stage. -/
def toward (progress : Progress) (next : Stage) (task : Task Failure α) : Task UpdateFailure α :=
  .mk do
    match ← task.run with
    | .ok value => return .ok value
    | .error cause =>
      log .update .error (s!"update failed in state {next.name} " ++
        s!"after {progress.lastCompleted.name}: {cause.explanation.text}")
      return .error (progress.fail next cause)

/-- The operator may stop an update before it touches a slot. -/
def unlessCancelled (progress : Progress) (next : Stage) : Task UpdateFailure Unit :=
  progress.toward next do
    if ← Action.perform .cancelled then throw .cancelled

def reached (stage : Stage) (progress : Progress) : Acting Progress := do
  log .update .info s!"update state: {stage.name}"
  return { progress with lastCompleted := stage }

end Progress

end DualSlot
