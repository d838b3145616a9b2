import DualSlot.Proofs.BookReads
import DualSlot.Proofs.DisabledEntries

/-! How an attempt to bring the menu in line with the books ended, whichever calls failed, and that no entry is removed
in one. -/

namespace DualSlot

open Simulation World FileTask Durable

namespace BootMenu

variable {host : Host} {menu : BootMenu} {slot other fallback : Slot} {fails : Call → World → Prop}
  {world middle after : World} {contents : Bytes} {isDefault : Bool} {finished : Prop} {rootHash : Digest}

/-! How a refresh ended. -/

/-- The hash that an entry shows, if it can be read. -/
def shownHash? : Except BootMenuError (Option BootEntry) → Option Digest
  | .ok entry => entry.map BootEntry.rootHash
  | .error _ => none

/-- How the part of a refresh that is about the fallback ended. -/
inductive FallbackEnded (host : Host) (menu : BootMenu) (fallback : Slot) (fails : Call → World → Prop)
    (before : World) (finished : Prop) (after : World) : Prop where
  | unread {cause}
      (sees : Sees fails (host.store.recordFile fallback) (host.hashIn fallback) before (.error cause) after)
      (undone : ¬ finished)
  | unrecorded {now}
      (sees : Sees fails (host.store.recordFile fallback) (host.hashIn fallback) before (.ok none) now)
      (disabled : menu.DisableEnded fallback fails before finished after)
  | kept {now rootHash found}
      (sees : Sees fails (host.store.recordFile fallback) (host.hashIn fallback) before (.ok (some rootHash)) now)
      (entry : Sees fails (menu.entryPath fallback) (menu.entryFrom fallback) before found after)
      (same : shownHash? found = some rootHash) (done : finished)
  | rewritten {now last rootHash found}
      (sees : Sees fails (host.store.recordFile fallback) (host.hashIn fallback) before (.ok (some rootHash)) now)
      (entry : Sees fails (menu.entryPath fallback) (menu.entryFrom fallback) before found last)
      (differs : shownHash? found ≠ some rootHash)
      (written : Attempted (menu.entryPath fallback) (menu.entryBytes ⟨fallback, rootHash, menu.tries, menu.tries⟩)
        fails before finished after)

/-- How a refresh ended: there was nothing to go by, the entry of the active slot was not written as the default, or
it was and the fallback was seen to. -/
inductive RefreshEnded (host : Host) (menu : BootMenu) (fails : Call → World → Prop) (before : World)
    (finished : Prop) (after : World) : Prop where
  | unread (tree : after.tree = before.tree) (workingDir : after.workingDir = before.workingDir) (undone : ¬ finished)
  | stopped {state rootHash}
      (reads : host.stateIn (before.tree.readAs before.workingDir host.store.bootStateFile) = .ok (some state))
      (written : menu.EntryWritten state.activeSlot
        (menu.entryBytes ⟨state.activeSlot, rootHash, menu.tries, state.bootCount⟩) true fails before False after)
      (undone : ¬ finished)
  | further {state rootHash middle}
      (reads : host.stateIn (before.tree.readAs before.workingDir host.store.bootStateFile) = .ok (some state))
      (recorded : host.hashIn state.activeSlot
        (before.tree.readAs before.workingDir (host.store.recordFile state.activeSlot)) = .ok (some rootHash))
      (written : menu.EntryWritten state.activeSlot
        (menu.entryBytes ⟨state.activeSlot, rootHash, menu.tries, state.bootCount⟩) true fails before True middle)
      (fallback : FallbackEnded host menu state.activeSlot.other fails middle finished after)

/-- The locations at which something is changed when the slot's entry is written as the default. -/
def Written (menu : BootMenu) (slot : Slot) (world : World) (location : Location) : Prop :=
  Involved (menu.entryPath slot) world location ∨ Involved menu.loaderFile world location

theorem EntryWritten.grows (written : menu.EntryWritten slot contents isDefault fails world finished after) :
    Grows (menu.Written slot world) world after := by
  cases written with
  | stopped _ entry => exact entry.spares.grows fun _ => .inl
  | alone _ _ entry => exact entry.spares.grows fun _ => .inl
  | asDefault _ entry loader =>
    refine (entry.spares.grows fun _ => .inl).trans (loader.spares.grows fun location involved => .inr ?_)
    exact (involved_congr entry.spares.workingDir).1 involved

theorem DisableEnded.spares (ended : menu.DisableEnded slot fails world finished after) (sound : world.tree.Sound) :
    Spares (menu.entryPath slot) (Involved (menu.entryPath slot) world) world after := by
  cases ended with
  | missing _ _ tree workingDir => exact (Spares.refl sound).congr tree workingDir
  | passedOver sees _ _ => exact (Spares.refl sound).congr sees.tree sees.workingDir
  | rewritten _ _ _ entry => exact entry.spares

theorem FallbackEnded.spares (ended : FallbackEnded host menu fallback fails world finished after)
    (sound : world.tree.Sound) :
    Spares (menu.entryPath fallback) (Involved (menu.entryPath fallback) world) world after := by
  cases ended with
  | unread sees _ => exact (Spares.refl sound).congr sees.tree sees.workingDir
  | unrecorded _ disabled => exact disabled.spares sound
  | kept _ entry _ _ => exact (Spares.refl sound).congr entry.tree entry.workingDir
  | rewritten _ _ _ written => exact written.spares

/-! No entry is removed. -/

section

variable {location : Location}

theorem EntryWritten.keeps_file (written : menu.EntryWritten slot contents isDefault fails world finished after)
    (notDraft : ∀ path, location ≠ locate world.workingDir (draft path))
    (there : world.tree.file? location ≠ none) : after.tree.file? location ≠ none := by
  cases written with
  | stopped _ entry => exact entry.keeps_file (notDraft _) there
  | alone _ _ entry => exact entry.keeps_file (notDraft _) there
  | asDefault _ entry loader =>
    exact loader.keeps_file (entry.spares.workingDir ▸ notDraft _) (entry.keeps_file (notDraft _) there)

theorem DisableEnded.keeps_file (ended : menu.DisableEnded slot fails world finished after)
    (notDraft : ∀ path, location ≠ locate world.workingDir (draft path))
    (there : world.tree.file? location ≠ none) : after.tree.file? location ≠ none := by
  cases ended with
  | missing _ _ tree _ => rwa [tree]
  | passedOver sees _ _ => rwa [sees.tree]
  | rewritten _ _ _ entry => exact entry.keeps_file (notDraft _) there

theorem FallbackEnded.keeps_file (ended : FallbackEnded host menu fallback fails world finished after)
    (notDraft : ∀ path, location ≠ locate world.workingDir (draft path))
    (there : world.tree.file? location ≠ none) : after.tree.file? location ≠ none := by
  cases ended with
  | unread sees _ => rwa [sees.tree]
  | unrecorded _ disabled => exact disabled.keeps_file notDraft there
  | kept _ entry _ _ => rwa [entry.tree]
  | rewritten _ _ _ written => exact written.keeps_file (notDraft _) there

theorem RefreshEnded.keeps_file (ended : RefreshEnded host menu fails world finished after)
    (notDraft : ∀ path, location ≠ locate world.workingDir (draft path))
    (there : world.tree.file? location ≠ none) : after.tree.file? location ≠ none := by
  cases ended with
  | unread tree _ _ => rwa [tree]
  | stopped _ written _ => exact written.keeps_file notDraft there
  | further _ _ written fallback =>
    exact fallback.keeps_file (written.grows.workingDir ▸ notDraft) (written.keeps_file notDraft there)

end

end BootMenu

end DualSlot
