import DualSlot.Update

/-!
A machine with two slots: provisioning it, booting it, rolling it back, and what it reports.
-/

namespace DualSlot

structure RollbackReport where
  previousSlot : Slot
  activeSlot : Slot
  deriving DecidableEq, Repr

def RollbackReport.json (report : RollbackReport) : Json := .ofMembers
  [("state", .text Stage.rolledBack.name), ("previous_slot", report.previousSlot.json),
    ("active_slot", report.activeSlot.json)]

structure SlotStatus where
  slot : Slot
  active : Bool
  record : Option SlotRecord
  deriving DecidableEq, Repr

def SlotStatus.json (status : SlotStatus) : Json := .ofMembers
  [("slot", status.slot.json), ("active", .bool status.active),
    ("root_hash", .ofOption (fun record => .text record.rootHash) status.record),
    ("recorded_at", .ofOption (fun record => .natural record.createdAt.toNat) status.record)]

structure StatusReport where
  state : BootState
  maxBootCount : UInt32
  slots : List SlotStatus
  /-- The slot whose boot entry is the default. -/
  defaultEntry : Option Slot
  history : List HistoryEntry
  deriving DecidableEq, Repr

def historyJson (entries : List HistoryEntry) : Json := .array (entries.map JsonRecord.json)

def StatusReport.json (report : StatusReport) : Json := .ofMembers
  [("active_slot", report.state.activeSlot.json),
    ("inactive_slot", report.state.activeSlot.other.json),
    ("boot_count", .natural report.state.bootCount.toNat),
    ("max_boot_count", .natural report.maxBootCount.toNat),
    ("slots", .array (report.slots.map SlotStatus.json)),
    ("default_entry", .ofOption Slot.json report.defaultEntry),
    ("history", historyJson report.history)]

namespace Updater

/-- Makes the other slot active again. Its contents are not read, but it must have a record. -/
def rollback (updater : Updater) : Task Failure RollbackReport := Session.alone do
  let previous ← Slots.active
  let target := previous.other
  match ← Slots.record? target with
  | none => throw (.noRollbackTarget target)
  | some _ =>
    let _ ← Slots.commitAs updater.maxBootCount .rollback target
    updater.menu.refresh
    log .rollback .info s!"rolled back from slot {previous.name} to slot {target.name}"
    return ⟨previous, target⟩

/-- The slot whose entry is the default; none if this cannot be read. -/
def defaultEntry (updater : Updater) : Acting (Option Slot) := do
  match ← updater.menu.default?.run with
  | .ok slot => return slot
  | .error error =>
    log .status .warn s!"unable to read boot loader default: {error.message}"
    return none

def status (updater : Updater) (historyLimit : Nat) : Task Failure StatusReport := do
  let state ← Slots.bootState
  let slots ← Slot.all.mapM fun slot => do
    return { slot, active := slot = state.activeSlot, record := ← Slots.record? slot }
  let defaultEntry ← updater.defaultEntry
  let history ← Slots.history historyLimit
  return { state, maxBootCount := updater.maxBootCount, slots, defaultEntry, history }

/-- Records the installed system and writes its boot entries. -/
def provision (updater : Updater) (active : Slot) (rootHash : String) (force : Bool) :
    Task Failure BootState := Session.alone do
  let state ← Slots.provision updater.maxBootCount active rootHash force
  updater.menu.refresh
  return state

/-- The running system is fine: its slot has all its boot attempts again. -/
def confirm (updater : Updater) : Task Failure BootState := Session.alone do
  let state ← Slots.confirm updater.maxBootCount
  updater.menu.refresh
  return state

/-- Uses up a boot attempt and shows this in the active entry. -/
def bootAttempt (updater : Updater) : Task Failure BootState := Session.alone do
  let state ← Slots.recordBootAttempt
  updater.menu.refresh
  log .system .info s!"slot {state.activeSlot.name} has {state.bootCount.toNat} boot attempts left"
  return state

end Updater

end DualSlot
