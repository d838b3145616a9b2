import DualSlot.Proofs.ObligingMachine
import DualSlot.Proofs.Results

/-! Operations on the books of the slots that fail. The store may refuse any write and takes each as a whole, and
no operation relies on a write that comes after it: what fails has changed nothing, but for the record that
provisioning makes first. -/

namespace DualSlot

/-- The operations on the books, each with what it is given. A commit is one for an update or for a rollback. -/
inductive BookOperation where
  | recordHash (slot : Slot) (rootHash : String)
  | clearRecord (slot : Slot)
  | commit (maxBootCount : UInt32) (outcome : Outcome) (target : Slot)
  | resetBootCount (maxBootCount : UInt32)
  | recordBootAttempt
  | confirm (maxBootCount : UInt32)
  | provision (maxBootCount : UInt32) (active : Slot) (rootHash : String) (force : Bool)

namespace BookOperation

@[reducible] def Value : BookOperation → Type
  | recordHash _ _ => SlotRecord
  | clearRecord _ => Unit
  | commit _ _ _ | resetBootCount _ | recordBootAttempt | confirm _ | provision _ _ _ _ => BootState

def task : (operation : BookOperation) → Task Failure operation.Value
  | recordHash slot rootHash => Slots.recordHash slot rootHash
  | clearRecord slot => Slots.clearRecord slot
  | commit maxBootCount outcome target => Slots.commitAs maxBootCount outcome target
  | resetBootCount maxBootCount => Slots.resetBootCount maxBootCount
  | recordBootAttempt => Slots.recordBootAttempt
  | confirm maxBootCount => Slots.confirm maxBootCount
  | provision maxBootCount active rootHash force => Slots.provision maxBootCount active rootHash force

/-- What is left by the operation if it fails. -/
def LeftBy (before after : Storage) : BookOperation → Prop
  | provision _ active rootHash _ => Slots.Recorded active rootHash before after
  | _ => after = before

variable {faults : Faults} {machine : Machine}

theorem safe_task (operation : BookOperation) :
    Task.Safe faults .free (Leaves (fun after => operation.LeftBy machine.storage after.storage) fun _ _ => True)
      operation.task machine := by
  have unchanged {α : Type} {task : Task Failure α} {done : α → Machine → Prop}
      (safe : Task.Safe faults .free (Leaves (·.storage = machine.storage) done) task machine) :
      Task.Safe faults .free (Leaves (·.storage = machine.storage) fun _ _ => True) task machine :=
    safe.leaves (fun _ _ same => same) fun _ _ _ => trivial
  cases operation with
  | recordHash slot rootHash =>
    have safe : Task.Safe faults .free _ (Slots.recordHash slot rootHash) machine :=
      Slots.safe_recordHash fun _ _ _ => trivial
    exact unchanged safe
  | clearRecord slot =>
    have safe : Task.Safe faults .free _ (Slots.clearRecord slot) machine := Slots.safe_clearRecord trivial
    exact unchanged safe
  | commit maxBootCount outcome target =>
    have safe : Task.Safe faults .free _ (Slots.commitAs maxBootCount outcome target) machine :=
      Slots.safe_commitAs (fun _ => trivial) fun _ => trivial
    exact unchanged safe
  | resetBootCount maxBootCount =>
    have safe : Task.Safe faults .free _ (Slots.resetBootCount maxBootCount) machine :=
      Slots.safe_resetBootCount fun _ _ _ => trivial
    exact unchanged safe
  | recordBootAttempt =>
    have safe : Task.Safe faults .free _ Slots.recordBootAttempt machine :=
      Slots.safe_recordBootAttempt fun _ _ _ => trivial
    exact unchanged safe
  | confirm maxBootCount =>
    have safe : Task.Safe faults .free _ (Slots.confirm maxBootCount) machine :=
      Slots.safe_confirm fun _ _ _ => trivial
    exact unchanged safe
  | provision maxBootCount active rootHash force =>
    have safe : Task.Safe faults .free _ (Slots.provision maxBootCount active rootHash force) machine :=
      Slots.safe_provision (fun _ _ => trivial) fun _ _ => trivial
    exact safe.leaves (fun _ _ left => left) fun _ _ _ => trivial

end BookOperation

/-- Whichever requests to the store are refused: an operation on the books that fails has left the boot state, the
records and the history as they were, and provisioning all of them but the record of its own slot. A commit that
succeeds has made its target active with all its attempts, with the records as they were, and the history as it
was or longer by the one entry for it. -/
theorem books_atomic (faults : Faults) (before after : Machine) :
    (∀ (operation : BookOperation) failure,
      Program.Ends (Machine.answers faults) operation.task.run before (.error failure) after →
      operation.LeftBy before.storage after.storage) ∧
    ∀ maxBootCount outcome target state,
      Program.Ends (Machine.answers faults) (Slots.commitAs maxBootCount outcome target).run before (.ok state)
        after →
      after.storage.bootState = some ⟨target, maxBootCount⟩ ∧ after.storage.record = before.storage.record ∧
        (after.storage.history = before.storage.history ∨
          ∃ time, after.storage.history = before.storage.history ++ [⟨time, outcome, target⟩]) := by
  constructor
  · intro operation failure failed
    exact operation.safe_task.ends failed
  · intro maxBootCount outcome target state succeeded
    have safe : Task.Safe faults .free _ (Slots.commitAs maxBootCount outcome target) before :=
      Slots.safe_commitAs (fun _ => trivial) fun _ => trivial
    rcases safe.ends succeeded with committed | ⟨time, committed⟩
    · rw [committed]
      exact ⟨rfl, rfl, .inl rfl⟩
    · rw [committed]
      exact ⟨rfl, rfl, .inr ⟨time, rfl⟩⟩

def Action.remembers : Action → Bool
  | store (.appendHistory _) => true
  | _ => false

/-- Provisioning a machine whose store refuses to make a slot active. -/
def halfProvisioned : Except Failure BootState × Machine :=
  (Slots.provision 3 .a Digest.zero.hex false).run.run (Temper.refusing Action.activates).answer .blank

/-- A commit that the history does not tell of. -/
def unremembered : Except Failure BootState × Machine :=
  (Slots.commit 3 .a).run.run (Temper.refusing Action.remembers).answer (.running .a)

private theorem halfProvisioned_ends :
    halfProvisioned.1.toOption = none ∧ unremembered.1.toOption = some ⟨.a, 3⟩ := by
  decide +kernel

/-- Of the first there is at most a record of slot A, and the second has taken place. -/
theorem books_atomic_refused :
    (∃ failure, halfProvisioned.1 = .error failure) ∧ halfProvisioned.2.storage.bootState = none ∧
      halfProvisioned.2.storage.record .b = none ∧ halfProvisioned.2.storage.history = [] ∧
    unremembered.1 = .ok ⟨.a, 3⟩ ∧ unremembered.2.storage.bootState = some ⟨.a, 3⟩ ∧
      unremembered.2.storage.record = (Machine.running .a).storage.record := by
  obtain ⟨fails, succeeds⟩ := halfProvisioned_ends
  have first : Program.Ends (Machine.answers _) _ _ halfProvisioned.1 halfProvisioned.2 :=
    Program.ends_run (Temper.sound _) _ _
  have second : Program.Ends (Machine.answers _) _ _ unremembered.1 unremembered.2 :=
    Program.ends_run (Temper.sound _) _ _
  have committed := Except.eq_ok_of_toOption succeeds
  rw [committed] at second
  obtain ⟨active, records, -⟩ := (books_atomic _ _ _).2 3 .success .a _ second
  cases result : halfProvisioned.1 with
  | ok state =>
    rw [result] at fails
    cases fails
  | error failure =>
    rw [result] at first
    have left : Slots.Recorded .a Digest.zero.hex _ _ :=
      (books_atomic _ _ _).1 (.provision 3 .a Digest.zero.hex false) failure first
    exact ⟨⟨failure, rfl⟩, left.bootState, left.record, left.history, committed, active, records⟩

end DualSlot
