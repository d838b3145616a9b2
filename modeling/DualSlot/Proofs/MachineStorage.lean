import DualSlot.Machine
import Mathlib.Logic.Function.Basic

/-! What of a machine outlives a loss of power: the books of the slots, the slots themselves, and the
files, with what the loader and the updater read from them. -/

namespace DualSlot

structure Storage where
  bootState : Option BootState
  record : Slot → Option SlotRecord
  history : List HistoryEntry
  bytes : Slot → Bytes
  files : Path → Option Bytes

namespace Storage

def setBootState (storage : Storage) (state : BootState) : Storage :=
  { storage with bootState := some state }

def setRecord (storage : Storage) (slot : Slot) (record : Option SlotRecord) : Storage :=
  { storage with record := Function.update storage.record slot record }

def addHistory (storage : Storage) (entry : HistoryEntry) : Storage :=
  { storage with history := storage.history ++ [entry] }

def setBytes (storage : Storage) (slot : Slot) (bytes : Bytes) : Storage :=
  { storage with bytes := Function.update storage.bytes slot bytes }

def setFile (storage : Storage) (path : Path) (contents : Option Bytes) : Storage :=
  { storage with files := Function.update storage.files path contents }

/-- The slot that the books show as active. -/
def active? (storage : Storage) : Option Slot := storage.bootState.map BootState.activeSlot

theorem exists_target (storage : Storage) :
    ∃ target : Slot, ∀ active, storage.active? = some active → active = target.other := by
  cases storage.active? with
  | none => exact ⟨.a, fun _ impossible => by cases impossible⟩
  | some active =>
    refine ⟨active.other, ?_⟩
    rintro _ ⟨⟩
    exact active.other_other.symm

/-- The hash on record for a slot, if it can be read. -/
def rootHash? (storage : Storage) (slot : Slot) : Option Digest :=
  (storage.record slot).bind SlotRecord.digest?

def text? (storage : Storage) (path : Path) : Option String := (storage.files path).bind Bytes.text?

@[simp] theorem record_setRecord_self (storage : Storage) (slot : Slot) (record : Option SlotRecord) :
    (storage.setRecord slot record).record slot = record :=
  Function.update_self ..

theorem record_setRecord_of_ne {slot other : Slot} (different : other ≠ slot) (storage : Storage)
    (record : Option SlotRecord) :
    (storage.setRecord slot record).record other = storage.record other :=
  Function.update_of_ne different _ _

theorem bytes_setBytes_self (storage : Storage) (slot : Slot) (bytes : Bytes) :
    (storage.setBytes slot bytes).bytes slot = bytes :=
  Function.update_self ..

theorem bytes_setBytes_of_ne {slot other : Slot} (different : other ≠ slot) (storage : Storage)
    (bytes : Bytes) : (storage.setBytes slot bytes).bytes other = storage.bytes other :=
  Function.update_of_ne different _ _

@[simp] theorem setBytes_self (storage : Storage) (slot : Slot) :
    storage.setBytes slot (storage.bytes slot) = storage := by
  simp [setBytes]

@[simp] theorem setFile_self (storage : Storage) (path : Path) :
    storage.setFile path (storage.files path) = storage := by
  simp [setFile]

/-- Nothing but files at certain paths differs. -/
structure OnlyFiles (touched : Path → Prop) (before after : Storage) : Prop where
  bootState : after.bootState = before.bootState
  record : after.record = before.record
  history : after.history = before.history
  bytes : after.bytes = before.bytes
  files : ∀ path, ¬ touched path → after.files path = before.files path

namespace OnlyFiles

variable {touched other : Path → Prop} {before middle after : Storage}

theorem of_eq (same : after = before) : OnlyFiles touched before after := by
  subst same
  exact ⟨rfl, rfl, rfl, rfl, fun _ _ => rfl⟩

theorem trans (first : OnlyFiles touched before middle) (last : OnlyFiles touched middle after) :
    OnlyFiles touched before after where
  bootState := last.bootState.trans first.bootState
  record := last.record.trans first.record
  history := last.history.trans first.history
  bytes := last.bytes.trans first.bytes
  files path untouched := (last.files path untouched).trans (first.files path untouched)

theorem mono (only : OnlyFiles touched before after) (wider : ∀ path, touched path → other path) :
    OnlyFiles other before after :=
  { only with files := fun path untouched => only.files path fun inside => untouched (wider path inside) }

theorem active? (only : OnlyFiles touched before after) : after.active? = before.active? := by
  rw [Storage.active?, only.bootState, Storage.active?]

theorem rootHash? (only : OnlyFiles touched before after) (slot : Slot) :
    after.rootHash? slot = before.rootHash? slot := by
  rw [Storage.rootHash?, only.record, Storage.rootHash?]

theorem setFile {path : Path} (inside : touched path) (storage : Storage) (contents : Option Bytes) :
    OnlyFiles touched storage (storage.setFile path contents) := by
  refine ⟨rfl, rfl, rfl, rfl, fun other untouched => ?_⟩
  have different : other ≠ path := fun same => untouched (same ▸ inside)
  exact Function.update_of_ne different _ _

end OnlyFiles

/-- Nothing differs but what belongs to a slot, and files at certain paths. -/
structure OnlySlot (touched : Path → Prop) (slot : Slot) (before after : Storage) : Prop where
  bootState : after.bootState = before.bootState
  history : after.history = before.history
  record : after.record slot.other = before.record slot.other
  bytes : after.bytes slot.other = before.bytes slot.other
  files : ∀ path, ¬ touched path → after.files path = before.files path

namespace OnlySlot

variable {touched : Path → Prop} {slot : Slot} {before middle after : Storage}

theorem trans (first : OnlySlot touched slot before middle) (last : OnlySlot touched slot middle after) :
    OnlySlot touched slot before after where
  bootState := last.bootState.trans first.bootState
  history := last.history.trans first.history
  record := last.record.trans first.record
  bytes := last.bytes.trans first.bytes
  files path untouched := (last.files path untouched).trans (first.files path untouched)

theorem of_eq (same : after = before) : OnlySlot touched slot before after := by
  subst same
  exact ⟨rfl, rfl, rfl, rfl, fun _ _ => rfl⟩

theorem ofFiles {inner : Path → Prop} (only : OnlyFiles inner before after)
    (wider : ∀ path, inner path → touched path) : OnlySlot touched slot before after where
  bootState := only.bootState
  history := only.history
  record := congrFun only.record _
  bytes := congrFun only.bytes _
  files path untouched := only.files path fun inside => untouched (wider path inside)

theorem setRecord (storage : Storage) (record : Option SlotRecord) :
    OnlySlot touched slot storage (storage.setRecord slot record) :=
  ⟨rfl, rfl, record_setRecord_of_ne slot.other_ne _ _, rfl, fun _ _ => rfl⟩

theorem setBytes (storage : Storage) (bytes : Bytes) :
    OnlySlot touched slot storage (storage.setBytes slot bytes) :=
  ⟨rfl, rfl, rfl, bytes_setBytes_of_ne slot.other_ne _ _, fun _ _ => rfl⟩

theorem active? (only : OnlySlot touched slot before after) : after.active? = before.active? := by
  rw [Storage.active?, only.bootState, Storage.active?]

end OnlySlot

end Storage

namespace BootMenu

variable (menu : BootMenu)

def entryBytes (entry : BootEntry) : Bytes := Bytes.ofString (menu.templates.renderEntry entry)

def loaderBytes (slot : Slot) : Bytes := Bytes.ofString (menu.templates.renderLoader slot.entryFile)

/-- The slot that the loader's configuration names as default. -/
def defaultIn (storage : Storage) : Option Slot :=
  (storage.text? menu.loaderFile).bind defaultSlot?

/-- The slot's entry as it is read back. -/
def entryIn (storage : Storage) (slot : Slot) : Option BootEntry :=
  (storage.text? (menu.entryPath slot)).bind fun text => (BootEntry.parse slot text).toOption

theorem entryIn_congr {before after : Storage} {slot : Slot}
    (same : after.files (menu.entryPath slot) = before.files (menu.entryPath slot)) :
    menu.entryIn after slot = menu.entryIn before slot := by
  simp only [entryIn, Storage.text?, same]

theorem defaultIn_congr {before after : Storage}
    (same : after.files menu.loaderFile = before.files menu.loaderFile) :
    menu.defaultIn after = menu.defaultIn before := by
  simp only [defaultIn, Storage.text?, same]

end BootMenu

end DualSlot
