import DualSlot.Settings
import DualSlot.Slots

/-!
The loader's menu: an entry file for each slot, and the loader's configuration, which names the
default. Entries are replaced and never removed, so there is always one to fall back on.
-/

namespace DualSlot

structure BootMenu where
  entriesDir : Path
  loaderFile : Path
  templates : BootTemplates
  /-- The boot attempts that an activated slot has. -/
  tries : UInt32
  deriving DecidableEq, Repr

namespace BootMenu

def ofSettings (boot : BootSettings) (tries : UInt32) : BootMenu :=
  ⟨boot.entriesDir, boot.loaderFile, boot.templates, tries⟩

def entryPath (menu : BootMenu) (slot : Slot) : Path := menu.entriesDir.join slot.entryFile

def replaceText (path : Path) (text : String) : Task BootMenuError Unit :=
  .of (.unwritable path) (Action.perform (.replace path (Bytes.ofString text)))

def readText? (path : Path) : Task BootMenuError (Option String) := do
  match ← Task.of (.unreadable path) (Action.perform (.read path)) with
  | none => return none
  | some contents =>
    match contents.text? with
    | some text => return some text
    | none => throw (.unreadable path .invalidText)

/-- Makes the slot's entry the default. -/
def setDefault (menu : BootMenu) (slot : Slot) : Task BootMenuError Unit := do
  replaceText menu.loaderFile (menu.templates.renderLoader slot.entryFile)
  log .bootEntries .info s!"boot loader default is now slot {slot.name}"

def writeEntry (menu : BootMenu) (slot : Slot) (rootHash : Digest) (triesLeft : UInt32)
    (isDefault : Bool) : Task BootMenuError Unit := do
  let path := menu.entryPath slot
  replaceText path (menu.templates.renderEntry ⟨slot, rootHash, menu.tries, triesLeft⟩)
  log .bootEntries .debug s!"wrote boot entry {path.quoted}"
  if isDefault then menu.setDefault slot

/-- The slot whose entry is the default. -/
def default? (menu : BootMenu) : Task BootMenuError (Option Slot) :=
  return (← readText? menu.loaderFile).bind defaultSlot?

/-- The slot's entry, if there is one. -/
def entry? (menu : BootMenu) (slot : Slot) : Task BootMenuError (Option BootEntry) := do
  let path := menu.entryPath slot
  match ← readText? path with
  | none => return none
  | some text =>
    match BootEntry.parse slot text with
    | .ok entry => return some entry
    | .error fault => throw (.malformed path fault)

/-- Leaves the slot's entry in place, but with no attempt left, so that the loader passes it over.
An entry that cannot be read is replaced by one for no image; a missing one stays missing. -/
def disable (menu : BootMenu) (slot : Slot) : Task BootMenuError Unit := do
  let withoutTries (rootHash : Digest) : Task BootMenuError Unit := do
    menu.writeEntry slot rootHash 0 false
    log .bootEntries .info s!"disabled boot entry of slot {slot.name}"
  if ← Action.perform (.present (menu.entryPath slot)) then
    match ← (menu.entry? slot).outcome with
    | .ok none => return ()
    | .ok (some entry) => if entry.triesLeft = 0 then return () else withoutTries entry.rootHash
    | .error error =>
      log .bootEntries .warn s!"replacing unreadable entry of slot {slot.name}: {error.message}"
      withoutTries .zero

/-- The hash in the slot's entry, if it can be read. -/
def entryHash? (menu : BootMenu) (slot : Slot) : Acting (Option Digest) := do
  match ← (menu.entry? slot).run with
  | .ok entry => return entry.map BootEntry.rootHash
  | .error error =>
    log .bootEntries .warn s!"replacing unreadable fallback entry: {error.message}"
    return none

/-- Brings the menu in line with the books. The active slot's entry is written with the attempts it
has left and becomes the default. The other slot's entry is written if it does not show the hash on
record, and is disabled if there is none. -/
def refresh (menu : BootMenu) : Task Failure Unit := do
  let state ← Slots.bootState
  let active := state.activeSlot
  match ← Slots.rootHash? active with
  | none => throw (.integrityRecord active .absentForActive)
  | some rootHash =>
    (menu.writeEntry active rootHash state.bootCount true).adapt .bootMenu
    let fallback := active.other
    match ← Slots.rootHash? fallback with
    | none => (menu.disable fallback).adapt .bootMenu
    | some rootHash =>
      if (← menu.entryHash? fallback) ≠ some rootHash then
        (menu.writeEntry fallback rootHash menu.tries false).adapt .bootMenu

end BootMenu

end DualSlot
