import DualSlot.Proofs.PlacedEntries

/-! Entries and the loader's configuration are read back from a tree as they were written to it, and the entry of
the other slot is read as before. -/

namespace DualSlot

open Simulation World FileTask Durable

namespace BootMenu

variable {host : Host} {menu : BootMenu} {slot other : Slot} {fails : Call → World → Prop}
  {world after : World} {contents : Bytes} {isDefault : Bool} {finished : Prop}

theorem entryFrom_entryBytes (legible : menu.templates.Legible) (entry : BootEntry) :
    menu.entryFrom entry.slot (.ok (some (menu.entryBytes entry))) = .ok (some entry) := by
  have text : (menu.entryBytes entry).text? = some (menu.templates.renderEntry entry) := Bytes.text?_ofString _
  simp only [entryFrom, textFrom, Except.mapError, chain, text, legible entry]

/-- The paths of both entries are of one length. -/
theorem checkPath_entryPath (menu : BootMenu) (slot other : Slot) :
    checkPath (menu.entryPath slot) = checkPath (menu.entryPath other) := by
  obtain ⟨front, text⟩ : ∃ front : String, ∀ slot, (menu.entryPath slot).text = front ++ slot.entryFile := by
    have relative (slot : Slot) : slot.entryFile.toList.head? ≠ some '/' := by cases slot <;> decide
    simp only [entryPath, Path.join, if_neg (relative _)]
    split
    · exact ⟨_, fun _ => rfl⟩
    · exact ⟨_, fun _ => rfl⟩
    · exact ⟨_, fun _ => rfl⟩
  have plain (slot : Slot) : '\x00' ∉ slot.entryFile.toList := by cases slot <;> decide
  have nonempty (slot : Slot) : front ++ slot.entryFile ≠ "" := by
    intro empty
    have none := congrArg String.toList empty
    rw [String.toList_append, Slot.toList_entryFile] at none
    simp at none
  have long (slot : Slot) : slot.entryFile.utf8ByteSize = 15 := by cases slot <;> decide
  simp only [checkPath, text, String.toList_append, List.mem_append, plain, String.isEmpty_iff, nonempty,
    String.utf8ByteSize_append, long]

theorem fits_entryPath (whole : checkPath (menu.entryPath slot) = .ok ()) (other : Slot) :
    Fits menu.entriesDir other.entryFile := by
  refine ⟨isName_entryFile other, ?_, (menu.checkPath_entryPath other slot).trans whole⟩
  cases other <;> decide

/-- No directory that the loader's configuration is in is to be made in the slot's place. If the path of the entries
goes up, what is in that place can be read there, and if nothing is the path does not lead through it. -/
structure Accessible (menu : BootMenu) (world : World) (slot : Slot) : Prop where
  reached : .up ∈ moves menu.entriesDir → world.tree.view (menu.place world slot) ≠ none →
    ∃ dir, world.tree.Leads world.workingDir menu.entriesDir dir
  clear : .up ∈ moves menu.entriesDir → world.tree.view (menu.place world slot) = none →
    ¬ Passes world.workingDir menu.entriesDir (menu.place world slot)
  beside : world.tree.view (menu.place world slot) = none →
    ¬ Passes world.workingDir menu.loaderFile.directory (menu.place world slot)

/-- What is in the place of an entry can be read there. -/
theorem Accessible.leads (accessible : menu.Accessible world other)
    (ready : Ready (menu.entryPath slot) slot.entryFile world)
    (there : world.tree.view (menu.place world other) ≠ none) :
    ∃ dir, world.tree.Leads world.workingDir menu.entriesDir dir := by
  by_cases up : .up ∈ moves menu.entriesDir
  · exact accessible.reached up there
  · have passable : world.tree.Passable world.workingDir menu.entriesDir := by
      obtain ⟨start, short, clear⟩ := ready.passable
      rw [entryPath, startOf_directory_join (isName_entryFile slot)] at start
      rw [entryPath, moves_directory_join (isName_entryFile slot)] at short
      simp only [entryPath, passes_directory_join (isName_entryFile slot)] at clear
      exact ⟨start, short, clear⟩
    rw [place_eq] at there
    exact ⟨_, leads_of_view ready.sound passable up there⟩

theorem ready_of_replaced (replaced : Replaced (menu.entryPath slot) contents world after) :
    Ready (menu.entryPath slot) slot.entryFile world := by
  obtain ⟨name, named, ready, -⟩ := replaced
  rw [fileName?_entryPath] at named
  exact Option.some_inj.1 named ▸ ready

theorem ready_of_stands (stands : Stands (menu.entryPath slot) contents world) :
    Ready (menu.entryPath slot) slot.entryFile world := by
  obtain ⟨name, named, ready⟩ := stands.ready
  rw [fileName?_entryPath] at named
  exact Option.some_inj.1 named ▸ ready

theorem place_congr (workingDir : after.workingDir = world.workingDir) (slot : Slot) :
    menu.place after slot = menu.place world slot := by
  rw [place, place, workingDir]

theorem not_involved_loader (apart : locate world.workingDir menu.loaderFile ≠ menu.place world slot) :
    ¬ Involved menu.loaderFile world (menu.place world slot) :=
  not_or.2 ⟨apart.symm, menu.place_ne_draft world slot _⟩

/-- What is in a file in the slot's place is read there. -/
theorem readAs_of_file {bytes : Bytes} {dir : Location} (whole : checkPath (menu.entryPath slot) = .ok ())
    (leads : world.tree.Leads world.workingDir menu.entriesDir dir)
    (file : world.tree.view (menu.place world slot) = some (.file bytes)) :
    world.tree.readAs world.workingDir (menu.entryPath slot) = .ok (some bytes) := by
  rw [place_eq, ← leads.eq_locate] at file
  exact leads.readAs_file (fits_entryPath whole slot) file

theorem leads_of_stands (stands : Stands (menu.entryPath slot) contents world) :
    world.tree.Leads world.workingDir menu.entriesDir (locate world.workingDir menu.entriesDir) := by
  have leads := (leads_directory_join (isName_entryFile slot)).1 stands.leads
  exact leads.eq_locate ▸ leads

/-- An entry that was written is read as what was written to it. -/
theorem EntryWritten.readAs (written : menu.EntryWritten slot contents isDefault fails world finished after)
    (done : finished)
    (apart : ∀ slot, locate world.workingDir menu.loaderFile ≠ menu.place world slot) :
    after.tree.readAs after.workingDir (menu.entryPath slot) = .ok (some contents) := by
  cases written with
  | stopped undone _ => exact (undone done).elim
  | alone _ _ entry => exact entry.stands.readAs
  | asDefault _ entry loader =>
    have stands := entry.stands
    have ready := ready_of_stands stands
    have workingDir := loader.spares.workingDir
    have leads := (leads_of_stands stands).mono loader.spares.kept
    rw [← workingDir] at leads
    refine readAs_of_file ready.whole leads ?_
    rw [place_congr workingDir]
    refine (loader.spares.view_eq (not_involved_loader ?_) fun none => ?_).trans stands.target
    · rw [entry.spares.workingDir, place_congr entry.spares.workingDir]
      exact apart slot
    · cases stands.target.symm.trans none

theorem EntryWritten.leads (written : menu.EntryWritten slot contents isDefault fails world finished after)
    (done : finished) : after.workingDir = world.workingDir ∧
      after.tree.Leads after.workingDir menu.entriesDir (locate after.workingDir menu.entriesDir) := by
  cases written with
  | stopped undone _ => exact (undone done).elim
  | alone _ _ entry => exact ⟨entry.spares.workingDir, leads_of_stands entry.stands⟩
  | asDefault _ entry loader =>
    have same := loader.spares.workingDir
    exact ⟨same.trans entry.spares.workingDir, same ▸ (leads_of_stands entry.stands).mono loader.spares.kept⟩

theorem EntryWritten.ready (written : menu.EntryWritten slot contents isDefault fails world finished after)
    (done : finished) : Ready (menu.entryPath slot) slot.entryFile world := by
  cases written with
  | stopped undone _ => exact (undone done).elim
  | alone _ _ entry => exact ready_of_replaced entry
  | asDefault _ entry _ => exact ready_of_replaced entry

theorem EntryWritten.loader (written : menu.EntryWritten slot contents isDefault fails world finished after)
    (done : finished) (default : isDefault = true) : Stands menu.loaderFile (menu.loaderBytes slot) after := by
  cases written with
  | stopped undone _ => exact (undone done).elim
  | alone other _ _ => cases other.symm.trans default
  | asDefault _ _ loader => exact (loader.done done).stands

/-- The entry of slot A is written. -/
def writing (menu : BootMenu) (isDefault : Bool) (world : World) : Except BootMenuError Unit × World :=
  world.run ((menu.writeEntry .a .zero 1 isDefault).run.translate Host.ordinary.realise)

def reading (menu : BootMenu) (world : World) : Except BootMenuError (Option BootEntry) :=
  (world.run ((menu.entry? .b).run.translate Host.ordinary.realise)).1

end BootMenu

end DualSlot
