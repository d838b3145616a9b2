import DualSlot.Operator
import DualSlot.Proofs.UpdateSteps

/-! The order in which an operation changes what persists, as what it may ask for at each point. Nothing
is asked of a slot's bytes before its entry is masked and its record is gone, no slot becomes active
before its bytes were read back, and no slot becomes the default before its entry is written. -/

namespace DualSlot.Updater

/-- What an operation may ask for, by what persists at that point. An update has a target, the slot
that it installs into. -/
inductive Permitted (updater : Updater) (faults : Faults) (target? : Option Slot)
    (storage : Storage) : Action → Prop where
  | quiet {action : Action} (quiet : action.Quiet) : Permitted updater faults target? storage action
  | stage : Permitted updater faults target? storage (.stage updater.stagingDir)
  | fill {staged : Staged} {image : Opened} (inside : Artifact.StagedIn updater.stagingDir staged.path) :
      Permitted updater faults target? storage (.fill staged image)
  | discard {staged : Staged} (inside : Artifact.StagedIn updater.stagingDir staged.path) :
      Permitted updater faults target? storage (.discard staged)
  | remove {path : Path} (inside : Artifact.StagedIn updater.stagingDir path) :
      Permitted updater faults target? storage (.remove path)
  /-- The target is passed over from here on. -/
  | mask {slot : Slot} {rootHash : Digest} (aimed : target? = some slot)
      (passive : storage.active? = some slot.other) :
      Permitted updater faults target? storage (.replace (updater.menu.entryPath slot)
        (updater.menu.entryBytes ⟨slot, rootHash, updater.menu.tries, 0⟩))
  | clear {slot : Slot} (aimed : target? = some slot) (passive : storage.active? = some slot.other)
      (masked : updater.menu.Masked storage slot) :
      Permitted updater faults target? storage (.store (.clearRecord slot))
  | write {slot : Slot} {image : Opened} (aimed : target? = some slot)
      (passive : storage.active? = some slot.other) (masked : updater.menu.Masked storage slot)
      (unrecorded : storage.record slot = none) :
      Permitted updater faults target? storage (.writeSlot slot image)
  | record {slot : Slot} {rootHash : Digest} {time : UInt64} (aimed : target? = some slot)
      (passive : storage.active? = some slot.other)
      (holds : faults.ReadsAs updater.hash rootHash (storage.bytes slot)) :
      Permitted updater faults target? storage (.store (.writeRecord ⟨slot, rootHash.hex, time⟩))
  | activate {slot : Slot} {rootHash : Digest} (aimed : target? = some slot)
      (passive : storage.active? = some slot.other) (known : storage.rootHash? slot = some rootHash)
      (holds : faults.ReadsAs updater.hash rootHash (storage.bytes slot)) :
      Permitted updater faults target? storage
        (.store (.writeBootState ⟨slot, updater.maxBootCount⟩))
  /-- A rollback trusts the record of the other slot. -/
  | reactivate {slot : Slot} (unaimed : target? = none) (passive : storage.active? = some slot.other)
      (known : (storage.rootHash? slot).isSome) :
      Permitted updater faults target? storage
        (.store (.writeBootState ⟨slot, updater.maxBootCount⟩))
  | count {state : BootState} (unaimed : target? = none)
      (same : storage.active? = some state.activeSlot) :
      Permitted updater faults target? storage (.store (.writeBootState state))
  | remember {entry : HistoryEntry} :
      Permitted updater faults target? storage (.store (.appendHistory entry))
  | showActive {state : BootState} {rootHash : Digest} (shown : storage.bootState = some state)
      (known : storage.rootHash? state.activeSlot = some rootHash)
      (aimed : ∀ target ∈ target?, target = state.activeSlot) :
      Permitted updater faults target? storage
        (.replace (updater.menu.entryPath state.activeSlot) (updater.menu.entryBytes
          ⟨state.activeSlot, rootHash, updater.menu.tries, state.bootCount⟩))
  | point {state : BootState} {rootHash : Digest} (shown : storage.bootState = some state)
      (known : storage.rootHash? state.activeSlot = some rootHash)
      (aimed : ∀ target ∈ target?, target = state.activeSlot)
      (written : storage.files (updater.menu.entryPath state.activeSlot) =
        some (updater.menu.entryBytes
          ⟨state.activeSlot, rootHash, updater.menu.tries, state.bootCount⟩)) :
      Permitted updater faults target? storage
        (.replace updater.menu.loaderFile (updater.menu.loaderBytes state.activeSlot))
  | showFallback {slot : Slot} {rootHash : Digest} (passive : storage.active? = some slot.other)
      (known : storage.rootHash? slot = some rootHash)
      (stale : (updater.menu.entryIn storage slot).map BootEntry.rootHash ≠ some rootHash ∨
        faults.refuses (.read (updater.menu.entryPath slot))) :
      Permitted updater faults target? storage (.replace (updater.menu.entryPath slot)
        (updater.menu.entryBytes ⟨slot, rootHash, updater.menu.tries, updater.menu.tries⟩))
  | maskFallback {slot : Slot} {rootHash : Digest} (passive : storage.active? = some slot.other)
      (unknown : storage.rootHash? slot = none) :
      Permitted updater faults target? storage (.replace (updater.menu.entryPath slot)
        (updater.menu.entryBytes ⟨slot, rootHash, updater.menu.tries, 0⟩))

/-- Operations ask only for what is permitted at that point. -/
def protocol (updater : Updater) (faults : Faults) (target? : Option Slot) : Discipline where
  allows action storage := updater.Permitted faults target? storage action
  quiet _ _ quiet := .quiet quiet

theorem protocol_stages (updater : Updater) (faults : Faults) (target? : Option Slot) :
    (updater.protocol faults target?).Stages updater.stagingDir where
  stage _ := .stage
  fill _ _ _ inside := .fill inside
  discard _ _ inside := .discard inside
  remove _ _ inside := .remove inside

/-- No entry and no loader's configuration is written along with another, or staged over. -/
structure Apart (updater : Updater) : Prop where
  entry_entry : ∀ slot, ¬ BootMenu.WrittenWith (updater.menu.entryPath slot)
    (updater.menu.entryPath slot.other)
  entry_loader : ∀ slot, ¬ BootMenu.WrittenWith (updater.menu.entryPath slot) updater.menu.loaderFile
  loader_entry : ∀ slot, ¬ BootMenu.WrittenWith updater.menu.loaderFile (updater.menu.entryPath slot)
  staged_entry : ∀ slot, ¬ Artifact.StagedIn updater.stagingDir (updater.menu.entryPath slot)
  staged_loader : ¬ Artifact.StagedIn updater.stagingDir updater.menu.loaderFile

variable {faults : Faults} {updater : Updater} {target? : Option Slot} {machine : Machine}

/-- Refreshing the menu changes the files of the menu only. Where it succeeds, the loader's
configuration names the active slot, unless an entry is written over it. -/
def Refreshed (updater : Updater) (before : Storage) : Except Failure Unit → Machine → Prop :=
  fun result after => Storage.OnlyFiles updater.menu.MenuFile before after.storage ∧
    Leaves (fun _ => True) (fun _ after => ∀ active, before.active? = some active →
      ¬ BootMenu.WrittenWith (updater.menu.entryPath active.other) updater.menu.loaderFile →
      after.storage.files updater.menu.loaderFile = some (updater.menu.loaderBytes active))
      result after

theorem entry_menuFile {menu : BootMenu} {slot : Slot} {path : Path}
    (written : BootMenu.WrittenWith (menu.entryPath slot) path) : menu.MenuFile path :=
  .inr ⟨slot, written⟩

/-- The other slot's entry is brought in line after the loader's configuration. -/
private theorem safe_showFallback {fallback : Slot} {before : Storage}
    (passive : machine.storage.active? = some fallback.other) (same : machine.storage.active? = before.active?)
    (only : Storage.OnlyFiles updater.menu.MenuFile before machine.storage)
    (shown : machine.storage.files updater.menu.loaderFile =
      some (updater.menu.loaderBytes fallback.other)) :
    Task.Safe faults (updater.protocol faults target?) (updater.Refreshed before)
      (do
        match ← Slots.rootHash? fallback with
        | none => (updater.menu.disable fallback).adapt .bootMenu
        | some rootHash =>
          if (← updater.menu.entryHash? fallback) ≠ some rootHash then
            (updater.menu.writeEntry fallback rootHash updater.menu.tries false).adapt .bootMenu)
      machine := by
  have refreshed : ∀ (result : Except BootMenuError Unit) (after : Machine),
      Storage.OnlyFiles (BootMenu.WrittenWith (updater.menu.entryPath fallback))
        machine.storage after.storage →
      updater.Refreshed before (result.mapError Failure.bootMenu) after := by
    intro result after changed
    refine ⟨only.trans (changed.mono fun _ => entry_menuFile), ?_⟩
    cases result with
    | error cause => trivial
    | ok _ =>
      intro active found apart
      have activeSlot : fallback.other = active := Option.some_inj.1 (passive.symm.trans (same.trans found))
      subst activeSlot
      rw [Slot.other_other] at apart
      exact (changed.files _ apart).trans shown
  refine Task.Safe.bind Slots.safe_rootHash? (fun _ _ unread => ?_) ?_
  · rw [show _ = machine from unread]
    exact ⟨only, trivial⟩
  rintro known after ⟨rfl, read⟩
  cases known with
  | none =>
    refine Task.safe_adapt (Program.Safe.weaken (BootMenu.safe_disable fun rootHash =>
      .maskFallback passive read.symm) ?_)
    exact fun _ _ ⟨changed, _⟩ => refreshed _ _ changed
  | some rootHash =>
    refine Task.Safe.lift_bind BootMenu.safe_entryHash? ?_
    rintro found middle ⟨rfl, entry⟩
    by_cases stale : found ≠ some rootHash
    · simp only [if_pos stale]
      have allowed : (updater.protocol faults target?).allows (.replace
          (updater.menu.entryPath fallback) (updater.menu.entryBytes
            ⟨fallback, rootHash, updater.menu.tries, updater.menu.tries⟩)) middle.storage :=
        .showFallback passive read.symm (entry.imp (fun same => same.symm.trans_ne stale) And.right)
      refine Task.safe_adapt (Program.Safe.weaken (BootMenu.safe_writeEntry allowed) ?_)
      exact fun _ _ ⟨changed, _⟩ => refreshed _ _ changed
    · simp only [if_neg stale]
      exact .done (refreshed (.ok ()) _ (.of_eq rfl))

/-- A refresh keeps to the protocol if the active slot is the target, where there is one. -/
theorem safe_refresh (aimed : ∀ state, machine.storage.bootState = some state →
      ∀ target ∈ target?, target = state.activeSlot) :
    Task.Safe faults (updater.protocol faults target?) (updater.Refreshed machine.storage)
      updater.menu.refresh machine := by
  refine Task.Safe.bind Slots.safe_bootState (fun _ _ unread => ?_) ?_
  · rw [show _ = machine from unread]
    exact ⟨.of_eq rfl, trivial⟩
  rintro state after ⟨rfl, shown⟩
  refine Task.Safe.bind Slots.safe_rootHash? (fun _ _ unread => ?_) ?_
  · rw [show _ = after from unread]
    exact ⟨.of_eq rfl, trivial⟩
  rintro known middle ⟨rfl, read⟩
  cases known with
  | none => exact .done ⟨.of_eq rfl, trivial⟩
  | some rootHash =>
    have active : middle.storage.active? = some state.activeSlot :=
      congrArg (Option.map BootState.activeSlot) shown
    refine Task.Safe.bind (Task.safe_adapt_leaves (BootMenu.safe_writeDefault
      (.showActive shown read.symm (aimed state shown)) ?_)) ?_ ?_
    · intro storage only written
      exact .point (only.bootState.trans shown) ((only.rootHash? _).trans read.symm)
        (aimed state shown) written
    · exact fun _ _ ⟨only, _⟩ => ⟨only, trivial⟩
    · rintro _ last ⟨only, pointed⟩
      refine safe_showFallback ?_ only.active? only ?_
      · rw [Slot.other_other]
        exact only.active?.trans active
      · rw [Slot.other_other]
        exact pointed

theorem safe_refresh_untargeted :
    Task.Safe faults (updater.protocol faults none) (updater.Refreshed machine.storage)
      updater.menu.refresh machine :=
  safe_refresh fun _ _ _ impossible => by cases impossible

end DualSlot.Updater
