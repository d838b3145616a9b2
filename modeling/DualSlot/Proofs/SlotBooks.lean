import DualSlot.Proofs.DigestText
import DualSlot.Proofs.TaskSafety

/-! The books of the slots on a machine: what an operation reads is what is on record, and a write
that is refused leaves the books as they were. -/

namespace DualSlot.Slots

variable {faults : Faults} {discipline : Discipline} {machine : Machine} {slot : Slot}

theorem safe_attempt {reply : Acting (Except StoreError α)} {failed : Machine → Prop}
    {done : α → Machine → Prop}
    (safe : Acting.Safe faults discipline (Leaves failed done) reply machine) :
    Task.Safe faults discipline (Leaves failed done) (attempt reply) machine :=
  Task.safe_of (Program.Safe.weaken safe fun _ _ leaves => leaves.mapError)

theorem safe_ask (request : StoreRequest) {post : request.Reply → Machine → Prop}
    (allowed : discipline.allows (.store request) machine.storage)
    (replied : ∀ reply after,
      Machine.storeAnswers (faults.refuses (.store request)) request machine reply after → post reply after) :
    Acting.Safe faults discipline post (ask request) machine :=
  Acting.safe_perform _ allowed replied

theorem safe_readBootState :
    Task.Safe faults discipline (Leaves (· = machine) fun found after =>
      after = machine ∧ found = machine.storage.bootState) (attempt (ask .readBootState)) machine := by
  refine safe_attempt (safe_ask .readBootState (discipline.quiet _ _ trivial)
    fun reply after ⟨same, read⟩ => ?_)
  cases reply with
  | ok found => exact ⟨same, read⟩
  | error cause => exact same

theorem safe_bootState :
    Task.Safe faults discipline (Leaves (· = machine) fun state after =>
      after = machine ∧ machine.storage.bootState = some state) bootState machine := by
  refine Task.Safe.bind safe_readBootState (fun _ _ same => same) ?_
  rintro found after ⟨same, read⟩
  cases found with
  | none => exact .done same
  | some state => exact .done ⟨same, read.symm⟩

theorem safe_active :
    Task.Safe faults discipline (Leaves (· = machine) fun active after =>
      after = machine ∧ machine.storage.active? = some active) active machine := by
  refine Task.Safe.bind safe_bootState (fun _ _ same => same) ?_
  rintro state after ⟨same, read⟩
  exact .done ⟨same, congrArg (Option.map BootState.activeSlot) read⟩

theorem safe_record? :
    Task.Safe faults discipline (Leaves (· = machine) fun found after =>
      after = machine ∧
        found = (machine.storage.record slot).filter fun record => record.digest?.isSome)
      (record? slot) machine := by
  refine Task.Safe.bind (Q := Leaves (· = machine) fun found after =>
    after = machine ∧ found = machine.storage.record slot) ?_ (fun _ _ same => same) ?_
  · refine safe_attempt (safe_ask (.readRecord slot) (discipline.quiet _ _ trivial)
      fun reply after ⟨same, read⟩ => ?_)
    cases reply with
    | ok found => exact ⟨same, read⟩
    | error cause => exact same
  · rintro found after ⟨same, rfl⟩
    exact .done ⟨same, rfl⟩

/-- A record counts exactly if its hash can be read. -/
theorem filter_bind_digest? (record : Option SlotRecord) :
    (record.filter fun record => record.digest?.isSome).bind SlotRecord.digest? =
      record.bind SlotRecord.digest? := by
  cases record with
  | none => rfl
  | some record => cases read : record.digest? <;> simp [Option.filter, read]

theorem safe_rootHash? :
    Task.Safe faults discipline (Leaves (· = machine) fun found after =>
      after = machine ∧ found = machine.storage.rootHash? slot) (rootHash? slot) machine := by
  refine Task.Safe.bind safe_record? (fun _ _ same => same) ?_
  rintro found after ⟨same, rfl⟩
  exact .done ⟨same, filter_bind_digest? _⟩

/-- A write to the store takes place as a whole or not at all. -/
theorem leaves_written {refused : Prop} {changed : Storage} {reply : Except StoreError Unit}
    {after : Machine}
    (written : Grants (refused ∧ after = machine) (fun _ => after = machine.put changed) reply) :
    Leaves (·.storage = machine.storage) (fun _ after => after.storage = changed) reply after := by
  cases reply with
  | ok _ => exact congrArg Machine.storage written
  | error cause => exact congrArg Machine.storage written.2

theorem safe_writeBootState {state : BootState}
    (allowed : discipline.allows (.store (.writeBootState state)) machine.storage) :
    Task.Safe faults discipline (Leaves (·.storage = machine.storage) fun _ after =>
      after.storage = machine.storage.setBootState state)
      (attempt (ask (.writeBootState state))) machine :=
  safe_attempt (safe_ask _ allowed fun _ _ written => leaves_written written)

theorem safe_clearRecord
    (allowed : discipline.allows (.store (.clearRecord slot)) machine.storage) :
    Task.Safe faults discipline (Leaves (·.storage = machine.storage) fun _ after =>
      after.storage = machine.storage.setRecord slot none) (clearRecord slot) machine := by
  refine Task.Safe.bind (safe_attempt (safe_ask _ allowed fun _ _ written => leaves_written written))
    (fun _ _ same => same) ?_
  exact fun _ after written => Task.safe_lift (Acting.safe_log written)

/-- A record that is written holds the hash that was given, or nothing is written. -/
theorem safe_recordHash {rootHash : String}
    (allowed : ∀ digest time, Digest.parse (Text.trimmed rootHash) = .ok digest →
      discipline.allows (.store (.writeRecord ⟨slot, digest.hex, time⟩)) machine.storage) :
    Task.Safe faults discipline (Leaves (·.storage = machine.storage) fun _ after =>
      ∃ digest time, Digest.parse (Text.trimmed rootHash) = .ok digest ∧
        after.storage = machine.storage.setRecord slot (some ⟨slot, digest.hex, time⟩))
      (recordHash slot rootHash) machine := by
  unfold recordHash
  by_cases empty : (Text.trimmed rootHash).isEmpty = true
  · simp only [if_pos empty]
    exact .done rfl
  simp only [if_neg empty]
  cases parsed : Digest.parse (Text.trimmed rootHash) with
  | error cause => exact .done rfl
  | ok digest =>
    refine Task.Safe.lift_bind (Acting.safe_perform .now (discipline.quiet _ _ trivial)
      fun _ _ same => same) ?_
    rintro time after rfl
    refine Task.Safe.bind (safe_attempt (safe_ask _ (allowed digest time parsed)
      fun _ _ written => leaves_written written)) (fun _ _ same => same) ?_
    exact fun _ after written => Task.safe_log_bind (.done ⟨digest, time, rfl, written⟩)

/-- An entry of the history is added or not; nothing else comes of it. -/
theorem safe_remember {outcome : Outcome}
    (allowed : ∀ time, discipline.allows (.store (.appendHistory ⟨time, outcome, slot⟩))
      machine.storage) :
    Acting.Safe faults discipline (fun _ after => after.storage = machine.storage ∨
      ∃ time, after.storage = machine.storage.addHistory ⟨time, outcome, slot⟩)
      (remember outcome slot) machine := by
  refine Acting.Safe.bind (Acting.safe_perform _ (discipline.quiet _ _ trivial)
    fun _ _ same => same) ?_
  rintro time after rfl
  refine Acting.Safe.bind (safe_ask _ (allowed time) fun _ _ written => leaves_written written) ?_
  intro reply after written
  cases reply with
  | ok _ => exact .done (.inr ⟨time, written⟩)
  | error cause => exact Acting.safe_log (.inl written)

/-- A slot becomes active only if its record can be read, and then with all its attempts. -/
theorem safe_commitAs {maxBootCount : UInt32} {outcome : Outcome}
    (activated : (machine.storage.rootHash? slot).isSome →
      discipline.allows (.store (.writeBootState ⟨slot, maxBootCount⟩)) machine.storage)
    (remembered : ∀ time, discipline.allows (.store (.appendHistory ⟨time, outcome, slot⟩))
      (machine.storage.setBootState ⟨slot, maxBootCount⟩)) :
    Task.Safe faults discipline (Leaves (·.storage = machine.storage) fun _ after =>
      after.storage = machine.storage.setBootState ⟨slot, maxBootCount⟩ ∨
      ∃ time, after.storage = (machine.storage.setBootState ⟨slot, maxBootCount⟩).addHistory
        ⟨time, outcome, slot⟩) (commitAs maxBootCount outcome slot) machine := by
  refine Task.Safe.bind safe_record? (fun _ _ same => congrArg Machine.storage same) ?_
  rintro found after ⟨rfl, read⟩
  cases found with
  | none => exact .done rfl
  | some record =>
    have known : (after.storage.rootHash? slot).isSome := by
      have present := (Option.filter_eq_some_iff.1 read.symm).2
      rw [Storage.rootHash?, (Option.filter_eq_some_iff.1 read.symm).1]
      exact present
    refine Task.Safe.bind (safe_writeBootState (activated known)) (fun _ _ same => same) ?_
    intro _ middle written
    refine Task.safe_log_bind (Task.Safe.lift_bind
      (safe_remember fun time => written ▸ remembered time) ?_)
    intro _ last added
    rw [written] at added
    exact .done added

/-- The boot attempts of the active slot are written or left, and the slot stays active. -/
def Counted (before : Storage) : Except Failure BootState → Machine → Prop :=
  Leaves (·.storage = before) fun state after => before.active? = some state.activeSlot ∧
    after.storage = before.setBootState state

theorem safe_resetBootCount {maxBootCount : UInt32}
    (allowed : ∀ state count, machine.storage.bootState = some state →
      discipline.allows (.store (.writeBootState ⟨state.activeSlot, count⟩)) machine.storage) :
    Task.Safe faults discipline (Counted machine.storage)
      (resetBootCount maxBootCount) machine := by
  refine Task.Safe.bind safe_bootState (fun _ _ same => congrArg Machine.storage same) ?_
  rintro previous after ⟨rfl, found⟩
  refine Task.Safe.bind (safe_writeBootState (allowed previous maxBootCount found))
    (fun _ _ same => same) ?_
  intro _ last written
  exact .done ⟨congrArg (Option.map BootState.activeSlot) found, written⟩

theorem safe_confirm {maxBootCount : UInt32}
    (allowed : ∀ state count, machine.storage.bootState = some state →
      discipline.allows (.store (.writeBootState ⟨state.activeSlot, count⟩)) machine.storage) :
    Task.Safe faults discipline (Counted machine.storage)
      (confirm maxBootCount) machine :=
  Task.Safe.bind (safe_resetBootCount allowed) (fun _ _ same => same) fun _ _ written =>
    Task.safe_log_bind (.done written)

theorem safe_recordBootAttempt
    (allowed : ∀ state count, machine.storage.bootState = some state →
      discipline.allows (.store (.writeBootState ⟨state.activeSlot, count⟩)) machine.storage) :
    Task.Safe faults discipline (Counted machine.storage) recordBootAttempt machine := by
  refine Task.Safe.bind safe_bootState (fun _ _ same => congrArg Machine.storage same) ?_
  rintro previous after ⟨rfl, found⟩
  refine Task.Safe.bind (safe_writeBootState (allowed previous _ found)) (fun _ _ same => same) ?_
  intro _ last written
  have counted : Counted after.storage (.ok ⟨previous.activeSlot,
      if previous.bootCount = 0 then 0 else previous.bootCount - 1⟩) last :=
    ⟨congrArg (Option.map BootState.activeSlot) found, written⟩
  by_cases spent : (if previous.bootCount = 0 then 0 else previous.bootCount - 1) = 0
  · simp only [if_pos spent]
    exact Task.safe_log_bind (.done counted)
  · simp only [if_neg spent]
    exact .done counted

/-- The record of the slot is written or left. -/
def Recorded (slot : Slot) (rootHash : String) (before after : Storage) : Prop :=
  after = before ∨ ∃ digest time, Digest.parse (Text.trimmed rootHash) = .ok digest ∧
    after = before.setRecord slot (some ⟨slot, digest.hex, time⟩)

namespace Recorded

variable {rootHash : String} {before after : Storage}

theorem bootState (recorded : Recorded slot rootHash before after) : after.bootState = before.bootState := by
  obtain rfl | ⟨digest, time, -, rfl⟩ := recorded <;> rfl

theorem history (recorded : Recorded slot rootHash before after) : after.history = before.history := by
  obtain rfl | ⟨digest, time, -, rfl⟩ := recorded <;> rfl

theorem record (recorded : Recorded slot rootHash before after) :
    after.record slot.other = before.record slot.other := by
  obtain rfl | ⟨digest, time, -, rfl⟩ := recorded
  · rfl
  · exact Storage.record_setRecord_of_ne slot.other_ne _ _

end Recorded

/-- The boot state is written last, so that without it there is at most a record. -/
theorem safe_provision {maxBootCount : UInt32} {rootHash : String} {force : Bool}
    (recorded : ∀ (digest : Digest) (time : UInt64),
      discipline.allows (.store (.writeRecord ⟨slot, digest.hex, time⟩)) machine.storage)
    (activated : ∀ (digest : Digest) (time : UInt64),
      discipline.allows (.store (.writeBootState ⟨slot, maxBootCount⟩))
        (machine.storage.setRecord slot (some ⟨slot, digest.hex, time⟩))) :
    Task.Safe faults discipline (Leaves (fun after => Recorded slot rootHash machine.storage after.storage)
      fun _ after => after.storage.bootState = some ⟨slot, maxBootCount⟩)
      (provision maxBootCount slot rootHash force) machine := by
  have rest : Task.Safe faults discipline
      (Leaves (fun after => Recorded slot rootHash machine.storage after.storage)
        fun _ after => after.storage.bootState = some ⟨slot, maxBootCount⟩)
      (do
        let _ ← recordHash slot rootHash
        let state : BootState := ⟨slot, maxBootCount⟩
        attempt (ask (.writeBootState state))
        log .slots .info s!"initialized boot state with active slot {slot.name}"
        return state) machine := by
    refine Task.Safe.bind (safe_recordHash fun digest time _ => recorded digest time)
      (fun _ _ same => .inl same) ?_
    rintro _ middle ⟨digest, time, parsed, written⟩
    refine Task.Safe.bind (safe_writeBootState (written ▸ activated digest time))
      (fun _ _ same => .inr ⟨digest, time, parsed, same.trans written⟩) ?_
    intro _ after state
    exact Task.safe_log_bind (.done (congrArg Storage.bootState state))
  unfold provision
  cases force with
  | true => exact rest
  | false =>
    refine Task.Safe.bind safe_readBootState (fun _ _ same => .inl (congrArg Machine.storage same)) ?_
    rintro found _ ⟨rfl, -⟩
    cases found with
    | some _ => exact .done (.inl rfl)
    | none => exact rest

end DualSlot.Slots
