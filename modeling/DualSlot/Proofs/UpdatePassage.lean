import DualSlot.Machine
import DualSlot.Proofs.TaskEndings

/-! What an update that succeeded went through: each of its parts succeeded in turn, on the state that
the part before it left. A refresh of the menu is taken apart in the same way. -/

namespace DualSlot

variable {σ τ : Type} {answers : Surroundings actions σ} {start final : σ}

namespace Session

/-- A task that succeeded in a session of its own did so between taking the lock and giving it back. -/
theorem yields_alone {α : Type} {task : Task Failure α} {result : α}
    (ended : Task.Yields answers (alone task) start result final) :
    ∃ guard held finished, Task.Yields answers begin start guard held ∧
      Task.Yields answers task held result finished ∧
      Program.Ends answers (Slots.ask (.unlock guard)) finished () final := by
  obtain ⟨guard, held, begun, later⟩ := Task.yields_bind ended
  obtain ⟨finished, done, released⟩ := Task.yields_followedBy later
  exact ⟨guard, held, finished, begun, done, released⟩

end Session

/-- How a refresh that succeeded brought the other slot's entry in line: the entry was disabled where no
hash is on record, and written unless it was found to show the hash on record. -/
def BootMenu.BringsInLine (answers : Surroundings actions σ) (menu : BootMenu) (slot : Slot)
    (start final : σ) : Option Digest → Prop
  | none => Task.Yields answers (menu.disable slot) start () final
  | some hash => ∃ shown read, Program.Ends answers (menu.entryHash? slot) start shown read ∧
      if shown = some hash then final = read
      else Task.Yields answers (menu.writeEntry slot hash menu.tries false) read () final

/-- The parts of a refresh that succeeded. The other slot comes after the loader's configuration. -/
structure BootMenu.Refreshing (answers : Surroundings actions σ) (menu : BootMenu) (start final : σ) where
  state : BootState
  rootHash : Digest
  known? : Option Digest
  {read found shown compared : σ}
  books : Task.Yields answers Slots.bootState start state read
  recorded : Task.Yields answers (Slots.rootHash? state.activeSlot) read (some rootHash) found
  wrote : Task.Yields answers (menu.writeEntry state.activeSlot rootHash state.bootCount true) found ()
    shown
  other : Task.Yields answers (Slots.rootHash? state.activeSlot.other) shown known? compared
  fallback : menu.BringsInLine answers state.activeSlot.other compared final known?

theorem BootMenu.refreshing_of_yields {menu : BootMenu}
    (ended : Task.Yields answers menu.refresh start () final) :
    Nonempty (menu.Refreshing answers start final) := by
  obtain ⟨state, read, books, later⟩ := Task.yields_bind ended
  obtain ⟨rootHash?, found, recorded, later⟩ := Task.yields_bind later
  cases rootHash? with
  | none => exact (Task.not_yields_throw later).elim
  | some rootHash =>
    obtain ⟨_, shown, wrote, later⟩ := Task.yields_bind later
    obtain ⟨known?, compared, other, later⟩ := Task.yields_bind later
    refine ⟨state, rootHash, known?, books, recorded, Task.yields_adapt wrote, other, ?_⟩
    cases known? with
    | none => exact Task.yields_adapt later
    | some hash =>
      obtain ⟨shownHash, seen, looked, later⟩ := Task.yields_lift_bind later
      refine ⟨shownHash, seen, looked, ?_⟩
      by_cases shows : shownHash = some hash
      · simp only [shows, ne_eq, not_true_eq_false, if_false] at later
        rw [if_pos shows]
        exact (Task.yields_pure later).2
      · simp only [ne_eq, shows, not_false_eq_true, if_true] at later
        rw [if_neg shows]
        exact Task.yields_adapt later

namespace Updater

/-- The parts of an update that succeeded. -/
structure Passage (answers : Surroundings actions σ) (updater : Updater) (source : Source)
    (image : String) (start : σ) (report : UpdateReport) (final : σ) where
  guard : Guard
  state : BootState
  artifact : Artifact
  tree : HashTree
  record : SlotRecord
  committedState : BootState
  {held read swept fetched summed checked masked cleared written verified recorded committed refreshed
    discarded : σ}
  begun : Task.Yields answers Session.begin start guard held
  books : Task.Yields answers Slots.bootState held state read
  cleaned : Program.Ends answers updater.cleanUp read () swept
  fetching : Task.Yields answers (Artifact.fetch source image updater.stagingDir) swept artifact fetched
  checksum : Task.Yields answers (updater.verifyChecksum artifact) fetched () summed
  integrity : Task.Yields answers (updater.verifyIntegrity artifact) summed tree checked
  masking : Task.Yields answers (updater.menu.disable state.activeSlot.other) checked () masked
  clearing : Task.Yields answers (Slots.clearRecord state.activeSlot.other) masked () cleared
  writing : Task.Yields answers (writeSlot state.activeSlot.other artifact) cleared () written
  readingBack : Task.Yields answers (updater.verifyWritten state.activeSlot.other artifact tree) written
    () verified
  recording : Task.Yields answers (Slots.recordHash state.activeSlot.other tree.rootHash.hex) verified
    record recorded
  committing : Task.Yields answers (Slots.commit updater.maxBootCount state.activeSlot.other) recorded
    committedState committed
  refreshing : Task.Yields answers updater.menu.refresh committed () refreshed
  discarding : Program.Ends answers (Action.perform (.discard artifact.staged)) refreshed () discarded
  released : Program.Ends answers (Slots.ask (.unlock guard)) discarded () final
  reported : report = ⟨state.activeSlot, state.activeSlot.other, tree.rootHash, artifact.imageSize⟩

theorem passage_of_yields (silent : answers.Silent) {updater : Updater} {source : Source}
    {image : String} {report : UpdateReport}
    (ended : Task.Yields answers (updater.update source image) start report final) :
    Nonempty (updater.Passage answers source image start report final) := by
  obtain ⟨guard, held, begun, later⟩ := Progress.yields_toward_bind ended
  obtain ⟨discarded, later, released⟩ := Task.yields_followedBy later
  obtain ⟨state, read, books, later⟩ := Progress.yields_toward_bind later
  obtain ⟨_, swept, cleaned, later⟩ := Task.yields_lift_bind later
  have later := Progress.yields_unlessCancelled_bind silent later
  obtain ⟨artifact, fetched, fetching, later⟩ := Progress.yields_toward_bind later
  obtain ⟨refreshed, later, discarding⟩ := Task.yields_followedBy later
  have later := Progress.yields_unlessCancelled_bind silent
    (Progress.yields_reached_bind silent later)
  obtain ⟨_, summed, checksum, later⟩ := Progress.yields_toward_bind later
  have later := Progress.yields_unlessCancelled_bind silent
    (Progress.yields_reached_bind silent later)
  obtain ⟨tree, checked, integrity, later⟩ := Progress.yields_toward_bind later
  obtain ⟨_, installed, installing, later⟩ := Task.yields_bind
    (Progress.yields_reached_bind silent later)
  obtain ⟨reported, rfl⟩ := Task.yields_pure later
  have installing := Task.yields_log_bind silent
    (Progress.yields_unlessCancelled_bind silent installing)
  obtain ⟨_, written, overwriting, later⟩ := Progress.yields_toward_bind installing
  obtain ⟨_, masked, masking, overwriting⟩ := Task.yields_bind overwriting
  obtain ⟨_, cleared, clearing, writing⟩ := Task.yields_bind overwriting
  obtain ⟨_, verified, readingBack, later⟩ := Progress.yields_toward_bind
    (Progress.yields_reached_bind silent later)
  obtain ⟨_, committed, enrolling, later⟩ := Progress.yields_toward_bind
    (Progress.yields_reached_bind silent later)
  obtain ⟨record, recorded, recording, enrolling⟩ := Task.yields_bind enrolling
  obtain ⟨committedState, committed, committing, enrolled⟩ := Task.yields_bind enrolling
  obtain ⟨-, rfl⟩ := Task.yields_pure enrolled
  obtain ⟨_, refreshed, refreshing, later⟩ := Progress.yields_toward_bind later
  have finished := Progress.yields_reached_bind silent later
  obtain ⟨-, rfl⟩ := Task.yields_pure finished
  exact ⟨{
    guard, state, artifact, tree, record, committedState, begun, books, cleaned, fetching, checksum,
    integrity, masking := Task.yields_adapt masking, clearing, writing, readingBack, recording,
    committing, refreshing, discarding, released, reported }⟩

end Updater

end DualSlot
