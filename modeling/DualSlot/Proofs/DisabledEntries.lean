import DualSlot.Proofs.EntryReadBack

/-! A slot that is not to be tried: what disabling its entry does to the entry and leaves alone besides, and that it
comes to nothing when it is done again. -/

namespace DualSlot

open Simulation World FileTask Durable

variable {host : Host} {fails : Call → World → Prop} {world after : World} {ε α β : Type}

namespace BootMenu

variable {menu : BootMenu} {slot other : Slot} {contents : Bytes} {finished : Prop}

/-- The hash that an entry is written with to disable it, unless it can stay as it is. -/
def hashToDisable? : Except BootMenuError (Option BootEntry) → Option Digest
  | .ok none => none
  | .ok (some entry) => if entry.triesLeft = 0 then none else some entry.rootHash
  | .error _ => some .zero

theorem EntryWritten.attempted (written : menu.EntryWritten slot contents false fails world finished after) :
    Attempted (menu.entryPath slot) contents fails world finished after := by
  cases written with
  | stopped undone entry => exact entry.congr (iff_of_false undone id) rfl rfl
  | alone _ done entry => exact ⟨fun _ => entry, fun undone => (undone done).elim⟩
  | asDefault impossible _ _ => cases impossible

/-- How the disabling of an entry ended: there was nothing to do, or the entry was to be written. -/
inductive DisableEnded (menu : BootMenu) (slot : Slot) (fails : Call → World → Prop) (before : World)
    (finished : Prop) (after : World) : Prop where
  | missing (absent : before.tree.kind? before.workingDir (menu.entryPath slot) = none) (done : finished)
      (tree : after.tree = before.tree) (workingDir : after.workingDir = before.workingDir)
  | passedOver {found} (sees : Sees fails (menu.entryPath slot) (menu.entryFrom slot) before found after)
      (kept : hashToDisable? found = none) (done : finished)
  | rewritten {found rootHash middle}
      (present : before.tree.kind? before.workingDir (menu.entryPath slot) ≠ none)
      (sees : Sees fails (menu.entryPath slot) (menu.entryFrom slot) before found middle)
      (given : hashToDisable? found = some rootHash)
      (entry : Attempted (menu.entryPath slot) (menu.entryBytes ⟨slot, rootHash, menu.tries, 0⟩) fails before finished
        after)

/-- Of the world before it only the files matter. -/
theorem DisableEnded.since {start : World} (ended : menu.DisableEnded slot fails world finished after)
    (tree : world.tree = start.tree) (workingDir : world.workingDir = start.workingDir) :
    menu.DisableEnded slot fails start finished after := by
  cases ended with
  | missing absent done same also =>
    exact .missing (tree ▸ workingDir ▸ absent) done (same.trans tree) (also.trans workingDir)
  | passedOver sees kept done => exact .passedOver (sees.since tree workingDir) kept done
  | rewritten present sees given entry =>
    exact .rewritten (tree ▸ workingDir ▸ present) (sees.since tree workingDir) given (entry.since tree workingDir)

/-- What is in the directory of the entries is not touched by the replacement of one of them, that one apart. -/
theorem spares_beside {touched : Location → Prop} {dir location : Location}
    (leads : world.tree.Leads world.workingDir menu.entriesDir dir)
    (spares : Spares (menu.entryPath slot) touched world after) (untouched : ¬ touched location) :
    after.tree.view location = world.tree.view location :=
  spares.view_of_leads ((leads_directory_join (isName_entryFile slot)).2 leads) untouched

theorem exists_bytes_of_entryFrom {found : Except IoError (Option Bytes)} {entry : BootEntry}
    (read : menu.entryFrom slot found = .ok (some entry)) : ∃ bytes, found = .ok (some bytes) := by
  rcases found with cause | _ | bytes
  · cases read
  · cases read
  · exact ⟨bytes, rfl⟩

/-- The entry of the slot is missing or has no attempt left. -/
def Untried (menu : BootMenu) (slot : Slot) (world : World) : Prop :=
  world.tree.kind? world.workingDir (menu.entryPath slot) = none ∨
    hashToDisable? (menu.entryFrom slot (world.tree.readAs world.workingDir (menu.entryPath slot))) = none

/-- Where it can be read that there is nothing to do, nothing is done. -/
theorem DisableEnded.idle (ended : menu.DisableEnded slot fails world finished after)
    (steady : ∀ moment, ¬ fails (.openFile (menu.entryPath slot) .read) moment) (untried : menu.Untried slot world) :
    finished ∧ after.tree = world.tree ∧ after.workingDir = world.workingDir := by
  cases ended with
  | missing _ done tree workingDir => exact ⟨done, tree, workingDir⟩
  | passedOver sees _ done => exact ⟨done, sees.tree, sees.workingDir⟩
  | rewritten present sees given _ =>
    rcases untried with absent | kept
    · exact (present absent).elim
    · rw [sees.steady steady, kept] at given
      cases given

end BootMenu

end DualSlot
