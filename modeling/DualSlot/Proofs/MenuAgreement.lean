import DualSlot.Proofs.ObligingMachine
import DualSlot.Proofs.UpdatePassage

/-! The loader's files agree with the books after every operation that succeeded. Each of them ends with
a refresh of the menu, and a refresh that succeeds leaves the menu in agreement whatever was in the
files before. -/

namespace DualSlot

variable {faults : Faults} {machine final : Machine}

theorem Discipline.free_stages (dir : Path) : Discipline.free.Stages dir :=
  ⟨fun _ => trivial, fun _ _ _ _ => trivial, fun _ _ _ => trivial, fun _ _ _ => trivial⟩

theorem Session.storage_of_unlock {guard : Guard}
    (released : Program.Ends (Machine.answers faults) (Slots.ask (.unlock guard)) machine () final) :
    final.storage = machine.storage := by
  rw [show final = { machine with locked := false } from released.of_perform]

namespace BootMenu

variable {menu : BootMenu} {slot : Slot}

theorem yields_writeEntry_default {rootHash : Digest} {triesLeft : UInt32}
    (ended : Task.Yields (Machine.answers faults) (menu.writeEntry slot rootHash triesLeft true) machine
      () final) :
    ∃ middle, Storage.OnlyFiles (WrittenWith (menu.entryPath slot)) machine.storage middle ∧
      middle.files (menu.entryPath slot) =
        some (menu.entryBytes ⟨slot, rootHash, menu.tries, triesLeft⟩) ∧
      Storage.OnlyFiles (WrittenWith menu.loaderFile) middle final.storage ∧
      final.storage.files menu.loaderFile = some (menu.loaderBytes slot) := by
  obtain ⟨_, middle, written, later⟩ := Task.yields_bind ended
  have pointing := Task.yields_log_bind (Machine.answers_silent faults) later
  obtain ⟨entryOnly, entry⟩ := written.holds (safe_replaceText trivial)
  obtain ⟨loaderOnly, loader⟩ := Task.Yields.holds pointing (safe_setDefault trivial)
  exact ⟨middle.storage, entryOnly, entry, loaderOnly, loader⟩

/-- The slot's entry shows the hash, or is passed over where there is none. -/
def Lists (menu : BootMenu) (storage : Storage) (slot : Slot) : Option Digest → Prop
  | some hash => (menu.entryIn storage slot).map BootEntry.rootHash = some hash
  | none => storage.files (menu.entryPath slot) = none ∨
      ∃ entry, menu.entryIn storage slot = some entry ∧ entry.triesLeft = 0

theorem Lists.congr {hash? : Option Digest} {before after : Storage}
    (lists : menu.Lists before slot hash?)
    (same : after.files (menu.entryPath slot) = before.files (menu.entryPath slot)) :
    menu.Lists after slot hash? := by
  cases hash? with
  | some hash => exact (congrArg _ (menu.entryIn_congr same)).trans lists
  | none =>
    obtain missing | ⟨entry, shown, spent⟩ := lists
    · exact .inl (same.trans missing)
    · exact .inr ⟨entry, (menu.entryIn_congr same).trans shown, spent⟩

theorem BringsInLine.lists (legible : menu.templates.Legible) {hash? : Option Digest}
    (brought : menu.BringsInLine (Machine.answers faults) slot machine final hash?) :
    Storage.OnlyFiles (WrittenWith (menu.entryPath slot)) machine.storage final.storage ∧
      menu.Lists final.storage slot hash? := by
  cases hash? with
  | none =>
    obtain ⟨only, masked⟩ := Task.Yields.holds brought (safe_disable fun _ => trivial)
    exact ⟨only, masked.passedOver legible⟩
  | some hash =>
    obtain ⟨shownHash, read, looked, brought⟩ := brought
    obtain ⟨rfl, found⟩ :=
      Program.Safe.ends (safe_entryHash? : Acting.Safe faults .free _ _ _) looked
    by_cases shows : shownHash = some hash
    · rw [if_pos shows] at brought
      subst brought
      refine ⟨.of_eq rfl, ?_⟩
      obtain same | ⟨unread, -⟩ := found
      · exact same.symm.trans shows
      · cases unread.symm.trans shows
    · rw [if_neg shows] at brought
      obtain ⟨only, written⟩ := Task.Yields.holds brought (safe_writeEntry trivial)
      have entry : menu.entryIn final.storage slot = some ⟨slot, hash, menu.tries, menu.tries⟩ :=
        entryIn_entryBytes ⟨slot, hash, menu.tries, menu.tries⟩ legible written
      exact ⟨only, congrArg (Option.map BootEntry.rootHash) entry⟩

end BootMenu

namespace Updater

/-- The loader shows what the books say: the active slot is its default, with the hash on record and the
boot attempts that are left, and the other slot has an entry with the hash on record, or is passed
over if it has none. -/
structure Shows (updater : Updater) (storage : Storage) (state : BootState) (rootHash : Digest) :
    Prop where
  active : storage.bootState = some state
  recorded : storage.rootHash? state.activeSlot = some rootHash
  default : updater.menu.defaultIn storage = some state.activeSlot
  entry : updater.menu.entryIn storage state.activeSlot =
    some ⟨state.activeSlot, rootHash, updater.maxBootCount, state.bootCount⟩
  fallback : updater.menu.Lists storage state.activeSlot.other
    (storage.rootHash? state.activeSlot.other)

def Agrees (updater : Updater) (storage : Storage) : Prop :=
  ∃ state rootHash, updater.Shows storage state rootHash

variable {updater : Updater}

theorem Agrees.beside (apart : updater.Apart) {before after : Storage}
    (agrees : updater.Agrees before) (beside : Artifact.Beside updater.stagingDir before after) :
    updater.Agrees after := by
  obtain ⟨state, rootHash, shows⟩ := agrees
  have entryKept (slot : Slot) : after.files (updater.menu.entryPath slot) =
      before.files (updater.menu.entryPath slot) := beside.files _ (apart.staged_entry slot)
  refine ⟨state, rootHash, beside.bootState.trans shows.active,
    (beside.rootHash? _).trans shows.recorded, ?_, ?_, ?_⟩
  · exact (updater.menu.defaultIn_congr (beside.files _ apart.staged_loader)).trans shows.default
  · exact (updater.menu.entryIn_congr (entryKept _)).trans shows.entry
  · rw [beside.rootHash?]
    exact shows.fallback.congr (entryKept _)

theorem ofSettings_tries (settings : Settings) :
    (ofSettings settings).menu.tries = (ofSettings settings).maxBootCount := rfl

section Refresh

variable (apart : updater.Apart) (legible : updater.menu.templates.Legible)
  (attempts : updater.menu.tries = updater.maxBootCount)

include apart legible attempts

/-- What a refresh leaves does not depend on what was in the files before. -/
theorem agrees_of_refresh
    (ended : Task.Yields (Machine.answers faults) updater.menu.refresh machine () final) :
    updater.Agrees final.storage := by
  obtain ⟨refreshing⟩ := BootMenu.refreshing_of_yields ended
  obtain ⟨state, rootHash, known?, books, recorded, wrote, other, fallback⟩ := refreshing
  obtain ⟨rfl, active⟩ := books.holds Slots.safe_bootState
  obtain ⟨rfl, known⟩ := recorded.holds Slots.safe_rootHash?
  obtain ⟨middle, entryOnly, entry, loaderOnly, loader⟩ := BootMenu.yields_writeEntry_default wrote
  obtain ⟨rfl, otherKnown⟩ := other.holds Slots.safe_rootHash?
  obtain ⟨otherOnly, lists⟩ := fallback.lists legible
  rename_i found shown
  have recordKept : final.storage.record = found.storage.record :=
    (otherOnly.record.trans loaderOnly.record).trans entryOnly.record
  have entryKept : final.storage.files (updater.menu.entryPath state.activeSlot) =
      middle.files (updater.menu.entryPath state.activeSlot) := by
    have otherApart := apart.entry_entry state.activeSlot.other
    rw [Slot.other_other] at otherApart
    exact (otherOnly.files _ otherApart).trans (loaderOnly.files _ (apart.loader_entry _))
  refine ⟨state, rootHash, ?_, ?_, ?_, ?_, ?_⟩
  · rw [otherOnly.bootState, loaderOnly.bootState, entryOnly.bootState]
    exact active
  · rw [Storage.rootHash?, recordKept]
    exact known.symm
  · exact BootMenu.defaultIn_loaderBytes ((otherOnly.files _ (apart.entry_loader _)).trans loader)
  · rw [← attempts]
    exact BootMenu.entryIn_entryBytes
      ⟨state.activeSlot, rootHash, updater.menu.tries, state.bootCount⟩ legible (entryKept.trans entry)
  · rw [otherOnly.rootHash?, ← otherKnown]
    exact lists

/-- A session that ends with a refresh, and says so at most in the log, leaves the menu in agreement. -/
theorem agrees_of_session {α β : Type} {task : Task Failure α} {rest : α → Task Failure β} {result : β}
    (ended : Task.Yields (Machine.answers faults)
      (Session.alone do
        let value ← task
        updater.menu.refresh
        rest value) machine result final)
    (quiet : ∀ value, Task.Quiet (rest value)) : updater.Agrees final.storage := by
  obtain ⟨guard, held, finished, -, done, released⟩ := Session.yields_alone ended
  obtain ⟨value, middle, -, later⟩ := Task.yields_bind done
  obtain ⟨_, refreshed, refreshing, later⟩ := Task.yields_bind later
  have agrees := agrees_of_refresh apart legible attempts refreshing
  have same : finished.storage = refreshed.storage := later.holds (Acting.Quiet.safe (quiet value))
  exact agrees.beside apart (.of_eq ((Session.storage_of_unlock released).trans same))

theorem agrees_of_rollback {report : RollbackReport}
    (ended : Task.Yields (Machine.answers faults) updater.rollback machine report final) :
    updater.Agrees final.storage := by
  obtain ⟨guard, held, finished, -, done, released⟩ := Session.yields_alone ended
  obtain ⟨previous, first, -, later⟩ := Task.yields_bind done
  obtain ⟨found, second, -, later⟩ := Task.yields_bind later
  cases found with
  | none => exact (Task.not_yields_throw later).elim
  | some record =>
    obtain ⟨_, committed, -, later⟩ := Task.yields_bind later
    obtain ⟨_, refreshed, refreshing, later⟩ := Task.yields_bind later
    have told := Task.yields_log_bind (Machine.answers_silent faults) later
    obtain ⟨-, rfl⟩ := Task.yields_pure told
    exact (agrees_of_refresh apart legible attempts refreshing).beside apart
      (.of_eq (Session.storage_of_unlock released))

theorem agrees_of_update {source : Source} {image : String} {report : UpdateReport}
    (ended : Task.Yields (Machine.answers faults) (updater.update source image) machine report final) :
    updater.Agrees final.storage := by
  obtain ⟨passage⟩ := passage_of_yields (Machine.answers_silent faults) ended
  obtain ⟨-, staged⟩ := passage.fetching.holds (Artifact.safe_fetch (Discipline.free_stages _))
  have discarded := Program.Safe.ends
    (Artifact.safe_discard (Discipline.free_stages _) staged) passage.discarding
  exact (agrees_of_refresh apart legible attempts passage.refreshing).beside apart
    (discarded.trans (.of_eq (Session.storage_of_unlock passage.released)))

end Refresh

/-- An operation that changes the books succeeded, whatever it came to. -/
inductive Succeeded (updater : Updater) (faults : Faults) (start final : Machine) : Prop where
  | provision {slot : Slot} {rootHash : String} {force : Bool} {state : BootState}
      (ended : Task.Yields (Machine.answers faults) (updater.provision slot rootHash force) start state
        final)
  | update {source : Source} {image : String} {report : UpdateReport}
      (ended : Task.Yields (Machine.answers faults) (updater.update source image) start report final)
  | rollback {report : RollbackReport}
      (ended : Task.Yields (Machine.answers faults) updater.rollback start report final)
  | confirm {state : BootState}
      (ended : Task.Yields (Machine.answers faults) updater.confirm start state final)
  | bootAttempt {state : BootState}
      (ended : Task.Yields (Machine.answers faults) updater.bootAttempt start state final)

/-- Whatever was on record and in the loader's files before: after an operation that succeeded, the loader
shows what the books say. -/
theorem agrees_of_succeeded (apart : updater.Apart) (legible : updater.menu.templates.Legible)
    (attempts : updater.menu.tries = updater.maxBootCount)
    (succeeded : updater.Succeeded faults machine final) : updater.Agrees final.storage := by
  cases succeeded with
  | provision ended => exact agrees_of_session apart legible attempts ended fun _ => .done
  | update ended => exact agrees_of_update apart legible attempts ended
  | rollback ended => exact agrees_of_rollback apart legible attempts ended
  | confirm ended => exact agrees_of_session apart legible attempts ended fun _ => .done
  | bootAttempt ended =>
    refine agrees_of_session apart legible attempts ended fun state => ?_
    exact Task.AsksOnly.bind (Task.AsksOnly.lift (Acting.quiet_perform _ trivial)) fun _ => .done

def smoothUpdate : Except UpdateFailure UpdateReport × Machine :=
  (small.update (.directory ⟨"/d"⟩) "i").run.run Temper.obliging.answer (.running .a)

private theorem smoothUpdate_active :
    smoothUpdate.1.toOption.isSome ∧ smoothUpdate.2.storage.active? = some .b := by
  decide +kernel

/-- The loader, which showed nothing, shows the slot that was updated. -/
theorem agrees_of_succeeded_smooth :
    small.Succeeded Temper.obliging.faults (.running .a) smoothUpdate.2 ∧
      small.Agrees smoothUpdate.2.storage ∧
      small.menu.defaultIn smoothUpdate.2.storage = some .b := by
  obtain ⟨went, active⟩ := smoothUpdate_active
  obtain ⟨report, went⟩ := Option.isSome_iff_exists.1 went
  have succeeded : small.Succeeded Temper.obliging.faults (.running .a) smoothUpdate.2 :=
    .update (Task.yields_run (Temper.sound _) went)
  have agrees := agrees_of_succeeded small_apart small_plain.legible rfl succeeded
  refine ⟨succeeded, agrees, ?_⟩
  obtain ⟨state, rootHash, shows⟩ := agrees
  have named : some state.activeSlot = some .b := by
    rw [← active, Storage.active?, shows.active]
    rfl
  exact shows.default.trans named

end Updater

end DualSlot
