import DualSlot.Proofs.TaskEndings
import DualSlot.Proofs.UpdateOutcome

/-! What a rollback leaves behind. It switches the slots with one write to the store and refreshes the
menu after it, so a rollback that reports a failure may have switched them, and is then not the same
rollback when it is run again. -/

namespace DualSlot

def Failure.BesideMenu (cause : Failure) : Prop := ∀ fault, cause ≠ .bootMenu fault

/-- What a refresh of the menu can fail for: a store that does not answer, a record that went missing, and
the menu's own files. -/
def Failure.OfRefresh : Failure → Prop
  | .persistence _ | .integrityRecord _ .absentForActive | .bootMenu _ => True
  | _ => False

namespace Slots

variable {property : Failure → Prop} (persistence : ∀ cause, property (.persistence cause))

include persistence

theorem bootState_fails : Task.FailsOnlyBy property bootState := by
  refine Task.FailsOnlyBy.bind (Task.failsOnlyBy_of persistence) fun found => ?_
  cases found with
  | none => exact Task.failsOnlyBy_throw (persistence _)
  | some state => exact Task.failsOnlyBy_pure state

theorem record?_fails {slot : Slot} : Task.FailsOnlyBy property (record? slot) :=
  Task.FailsOnlyBy.bind (Task.failsOnlyBy_of persistence) fun _ => Task.failsOnlyBy_pure _

theorem rootHash?_fails {slot : Slot} : Task.FailsOnlyBy property (rootHash? slot) :=
  Task.FailsOnlyBy.bind (record?_fails persistence) fun _ => Task.failsOnlyBy_pure _

theorem commitAs_fails {maxBootCount : UInt32} {outcome : Outcome} {slot : Slot}
    (unrecorded : property (.integrityRecord slot .absent)) :
    Task.FailsOnlyBy property (commitAs maxBootCount outcome slot) := by
  refine Task.FailsOnlyBy.bind (record?_fails persistence) fun found => ?_
  cases found with
  | none => exact Task.failsOnlyBy_throw unrecorded
  | some record =>
    refine Task.FailsOnlyBy.bind (Task.failsOnlyBy_of persistence) fun _ => ?_
    refine Task.failsOnlyBy_lift_bind fun _ => ?_
    exact Task.failsOnlyBy_lift_bind fun _ => Task.failsOnlyBy_pure _

end Slots

theorem BootMenu.refresh_fails (menu : BootMenu) : Task.FailsOnlyBy Failure.OfRefresh menu.refresh := by
  have persistence : ∀ cause, Failure.OfRefresh (.persistence cause) := fun _ => trivial
  refine Task.FailsOnlyBy.bind (Slots.bootState_fails persistence) fun state => ?_
  refine Task.FailsOnlyBy.bind (Slots.rootHash?_fails persistence) fun known? => ?_
  cases known? with
  | none => exact Task.failsOnlyBy_throw trivial
  | some rootHash =>
    refine Task.FailsOnlyBy.bind (Task.failsOnlyBy_adapt fun _ => trivial) fun _ => ?_
    refine Task.FailsOnlyBy.bind (Slots.rootHash?_fails persistence) fun otherKnown? => ?_
    cases otherKnown? with
    | none => exact Task.failsOnlyBy_adapt fun _ => trivial
    | some hash =>
      refine Task.failsOnlyBy_lift_bind fun shown => ?_
      by_cases stale : shown ≠ some hash
      · simp only [if_pos stale]
        exact Task.failsOnlyBy_adapt fun _ => trivial
      · simp only [if_neg stale]
        exact Task.failsOnlyBy_pure ()

namespace Updater

variable {faults : Faults} {updater : Updater} {machine final : Machine}

/-- The slots were switched to a target, with all its boot attempts. -/
structure SwitchedTo (updater : Updater) (target : Slot) (before after : Storage) : Prop where
  passive : before.active? = some target.other
  state : after.bootState = some ⟨target, updater.maxBootCount⟩
  history : after.history = before.history ∨
    ∃ time, after.history = before.history ++ [⟨time, .rollback, target⟩]

theorem SwitchedTo.active {target : Slot} {before after : Storage}
    (switched : updater.SwitchedTo target before after) : after.active? = some target :=
  congrArg (Option.map BootState.activeSlot) switched.state

theorem SwitchedTo.refreshed {target : Slot} {before middle after : Storage}
    (switched : updater.SwitchedTo target before middle)
    (only : Storage.OnlyFiles updater.menu.MenuFile middle after) :
    updater.SwitchedTo target before after :=
  ⟨switched.passive, only.bootState.trans switched.state, only.history ▸ switched.history⟩

/-- What a rollback leaves. A success has switched the slots and shows it; a failure has either changed
nothing, or comes of the refresh of the menu after the slots were switched. -/
def RolledBack (updater : Updater) (before : Storage) : Except Failure RollbackReport → Storage → Prop
  | .ok report, after => report.previousSlot = report.activeSlot.other ∧
      updater.SwitchedTo report.activeSlot before after ∧
      updater.menu.defaultIn after = some report.activeSlot
  | .error cause, after => after = before ∧ cause.BesideMenu ∨
      (∃ target, updater.SwitchedTo target before after) ∧ cause.OfRefresh

/-- Until the boot state is written a failure leaves the storage as a whole as it was. -/
theorem RolledBack.untouched {before after : Storage} {cause : Failure} (same : after = before)
    (early : cause.BesideMenu) : after.record = before.record ∧ after.bytes = before.bytes ∧
      updater.RolledBack before (.error cause) after :=
  ⟨congrArg Storage.record same, congrArg Storage.bytes same, .inl ⟨same, early⟩⟩

end Updater

end DualSlot
