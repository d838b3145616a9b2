import DualSlot.Action

/-!
Keeping the books of the slots. Every change is one write of a whole record, and a slot is made
active only if its record names the hash of what it holds.
-/

namespace DualSlot.Slots

/-- Asks the store. -/
def ask (request : StoreRequest) : Acting request.Reply := Action.perform (.store request)

def attempt (reply : Acting (Except StoreError α)) : Task Failure α :=
  .of .persistence reply

def bootState : Task Failure BootState := do
  match ← attempt (ask .readBootState) with
  | some state => return state
  | none => throw (.persistence .notInitialized)

def active : Task Failure Slot := return (← bootState).activeSlot

def inactive : Task Failure Slot := return (← active).other

def bootCount : Task Failure UInt32 := return (← bootState).bootCount

/-- The record of a slot, if it has one with a readable hash. -/
def record? (slot : Slot) : Task Failure (Option SlotRecord) :=
  return (← attempt (ask (.readRecord slot))).filter fun record => record.digest?.isSome

/-- The hash on record for a slot. -/
def rootHash? (slot : Slot) : Task Failure (Option Digest) :=
  return (← record? slot).bind SlotRecord.digest?

/-- Records the root hash of what a slot holds. -/
def recordHash (slot : Slot) (rootHash : String) : Task Failure SlotRecord := do
  let rootHash := Text.trimmed rootHash
  if rootHash.isEmpty then throw (.integrityRecord slot .empty)
  else
    match Digest.parse rootHash with
    | .error cause => throw (.integrityRecord slot (.invalid cause))
    | .ok digest =>
      let record : SlotRecord := ⟨slot, digest.hex, ← Action.perform .now⟩
      attempt (ask (.writeRecord record))
      log .slots .info s!"recorded root hash {digest.hex} for slot {slot.name}"
      return record

/-- Marks the contents of a slot as unknown. -/
def clearRecord (slot : Slot) : Task Failure Unit := do
  attempt (ask (.clearRecord slot))
  log .slots .info s!"cleared integrity record of slot {slot.name}"

/-- The history is for the operator only: failing to extend it changes nothing else. -/
def remember (outcome : Outcome) (slot : Slot) : Acting Unit := do
  let entry : HistoryEntry := ⟨← Action.perform .now, outcome, slot⟩
  match ← ask (.appendHistory entry) with
  | .ok () => return ()
  | .error error => log .slots .warn s!"unable to append history entry: {error.message}"

/-- Makes a slot active, with all its boot attempts. -/
def commitAs (maxBootCount : UInt32) (outcome : Outcome) (target : Slot) :
    Task Failure BootState := do
  match ← record? target with
  | none => throw (.integrityRecord target .absent)
  | some _ =>
    let state : BootState := ⟨target, maxBootCount⟩
    attempt (ask (.writeBootState state))
    log .slots .info s!"committed slot {target.name} ({outcome.name})"
    remember outcome target
    return state

def commit (maxBootCount : UInt32) (target : Slot) : Task Failure BootState :=
  commitAs maxBootCount .success target

/-- Gives the active slot all its boot attempts again. -/
def resetBootCount (maxBootCount : UInt32) : Task Failure BootState := do
  let state := { ← bootState with bootCount := maxBootCount }
  attempt (ask (.writeBootState state))
  return state

/-- Uses up a boot attempt of the active slot, if it has any left. -/
def recordBootAttempt : Task Failure BootState := do
  let before ← bootState
  let state := { before with
    bootCount := if before.bootCount = 0 then 0 else before.bootCount - 1 }
  attempt (ask (.writeBootState state))
  if state.bootCount = 0 then
    log .slots .warn s!"slot {state.activeSlot.name} has exhausted its boot attempts"
  return state

/-- The running system is fine. -/
def confirm (maxBootCount : UInt32) : Task Failure BootState := do
  let state ← resetBootCount maxBootCount
  log .slots .info s!"confirmed slot {state.activeSlot.name} as healthy"
  return state

/-- Records the slot that a newly installed system is in. -/
def provision (maxBootCount : UInt32) (slot : Slot) (rootHash : String) (force : Bool) :
    Task Failure BootState := do
  if !force then
    if (← attempt (ask .readBootState)).isSome then throw (.persistence .alreadyInitialized)
  let _ ← recordHash slot rootHash
  let state : BootState := ⟨slot, maxBootCount⟩
  attempt (ask (.writeBootState state))
  log .slots .info s!"initialized boot state with active slot {slot.name}"
  return state

/-- The last entries of the history, the oldest first. -/
def history (limit : Nat) : Task Failure (List HistoryEntry) := do
  let entries ← attempt (ask .readHistory)
  return entries.drop (entries.length - limit)

end DualSlot.Slots
