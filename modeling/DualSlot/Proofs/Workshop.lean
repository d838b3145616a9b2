import DualSlot.Proofs.Acceptance
import DualSlot.Proofs.TaskEndings
import DualSlot.Proofs.UpdateOutcome

/-! The checks of an artifact are the same whether it is only verified or installed. A workshop is a
machine whose staging area works and whose operator does not interfere; there an update comes past its
checks exactly if verifying succeeds, and fails as verifying does otherwise. -/

namespace DualSlot

section PastChecks

variable {σ α β : Type} {answers : Surroundings actions σ} [Silent answers fun _ _ => True] {state : σ}

/-- A part that may fail in any way on the way to a stage. -/
theorem Progress.safe_toward_bind {progress : Progress} {next : Stage} {task : Task Failure α}
    {rest : α → Task UpdateFailure β} {post : Except UpdateFailure β → Prop}
    (told : ∀ cause, post (.error (progress.fail next cause)))
    (later : ∀ value after,
      Program.Safe answers (fun _ _ => True) (fun result _ => post result) (rest value).run after) :
    Program.Safe answers (fun _ _ => True) (fun result _ => post result)
      (progress.toward next task >>= rest).run state := by
  refine Task.Safe.bind (Q := fun result _ => ∀ failure, result = .error failure →
    post (.error failure)) (safe_toward (Program.Safe.weaken (Program.safe_anything (fun _ _ => trivial) _ _) ?_))
    (fun failure _ told => told failure rfl) fun value after _ => later value after
  intro result _ _ failure failed
  obtain ⟨cause, -, rfl⟩ := Except.mapError_eq_error_iff.1 failed
  exact told cause

/-- The stages that an update which fails after its checks may have completed last. -/
def Stage.pastChecks : List Stage := [.integrityVerified, .writing, .writtenVerified]

/-- Whatever it failed for, the update had come past its checks. -/
def PastChecks (result : Except UpdateFailure α) : Prop :=
  ∀ failure, result = .error failure → failure.lastCompleted ∈ Stage.pastChecks

theorem pastChecks_ok (value : α) : PastChecks (.ok value) := by
  rintro _ ⟨⟩

theorem pastChecks_fail {progress : Progress} {next : Stage} (past : progress.lastCompleted ∈ Stage.pastChecks)
    (cause : Failure) : PastChecks (.error (progress.fail next cause) : Except UpdateFailure α) := by
  rintro _ ⟨⟩
  exact past

theorem Updater.safe_install_pastChecks {updater : Updater} {target : Slot}
    {artifact : Artifact} {tree : HashTree} :
    Program.Safe answers (fun _ _ => True) (fun result _ => PastChecks result)
      (updater.install target ⟨.integrityVerified, .nothingTouched⟩ artifact tree).run state := by
  refine Progress.safe_toward_bind (pastChecks_fail (by decide)) fun _ _ => ?_
  refine Task.safe_log_bind ?_
  refine Progress.safe_toward_bind (pastChecks_fail (by decide)) fun _ _ => ?_
  refine Progress.safe_reached_bind ?_
  refine Progress.safe_toward_bind (pastChecks_fail (by decide)) fun _ _ => ?_
  refine Progress.safe_reached_bind ?_
  refine Progress.safe_toward_bind (pastChecks_fail (by decide)) fun _ _ => ?_
  refine Progress.safe_toward_bind (pastChecks_fail (by decide)) fun _ _ => ?_
  exact Progress.safe_reached_bind (.done (pastChecks_ok ()))

end PastChecks

namespace View

variable {offers : Offers} {view : View} {updater : Updater} {α : Type}

instance : Silent (answers offers) (fun _ _ => True) where
  allowed _ _ _ _ := trivial
  same _ _ _ _ _ _ answer := answer

theorem unguarded {post : α → View → Prop} {program : Acting α} (safe : Safe offers post program view) :
    Program.Safe (answers offers) (fun _ _ => True) post program view :=
  safe.mono (fun _ _ _ => trivial) fun _ _ holds => holds

/-- The image at hand is checked, and what comes after the checks runs exactly if it passes them. -/
theorem safe_examined {delivery : Delivery} {name : String} {staged : Staged}
    {next : Progress → HashTree → Task UpdateFailure α} {post : Except UpdateFailure α → Prop}
    (holds : view.staged? = some (staged, delivery.image))
    (refused : ∀ failure, updater.examination delivery = .error failure → post (.error failure))
    (passed : ∀ tree after, updater.examination delivery = .ok tree →
      Program.Safe (answers offers) (fun _ _ => True) (fun result _ => post result)
        (next ⟨.integrityVerified, .nothingTouched⟩ tree).run after) :
    Program.Safe (answers offers) (fun _ _ => True) (fun result _ => post result)
      (do
        let progress ← Progress.start.reached .fetching
        progress.unlessCancelled .checksumVerified
        progress.toward .checksumVerified (updater.verifyChecksum
          ⟨name, staged, delivery.image.length, delivery.checksumText, delivery.metadataText⟩)
        let progress ← progress.reached .checksumVerified
        progress.unlessCancelled .integrityVerified
        let tree ← progress.toward .integrityVerified (updater.verifyIntegrity
          ⟨name, staged, delivery.image.length, delivery.checksumText, delivery.metadataText⟩)
        next (← progress.reached .integrityVerified) tree
        : Task UpdateFailure α).run view := by
  refine Progress.safe_reached_bind (Task.Safe.bind (unguarded safe_unlessCancelled)
    (fun _ _ ⟨impossible, _⟩ => by cases impossible) ?_)
  rintro _ _ ⟨-, rfl⟩
  refine Task.Safe.bind (unguarded (safe_check (safe_verifyChecksum holds))) ?_ ?_
  · rintro failure _ ⟨same, -⟩
    exact refused failure (congrArg (· >>= _) same.symm)
  rintro _ summed ⟨sum, kept⟩
  refine Progress.safe_reached_bind (Task.Safe.bind (unguarded safe_unlessCancelled)
    (fun _ _ ⟨impossible, _⟩ => by cases impossible) ?_)
  rintro _ _ ⟨-, rfl⟩
  have examined : updater.examination delivery =
      (updater.integrityVerdict delivery.metadataText (.ofBytes delivery.image)).mapError
        (Progress.fail ⟨.checksumVerified, .nothingTouched⟩ .integrityVerified) :=
    congrArg (· >>= fun _ => _) sum.symm
  refine Task.Safe.bind (unguarded (safe_check (safe_verifyIntegrity kept))) ?_ ?_
  · rintro failure _ ⟨same, -⟩
    exact refused failure (examined.trans same.symm)
  · rintro tree hashed ⟨same, -⟩
    exact Progress.safe_reached_bind (passed tree hashed (examined.trans same.symm))

/-- An operation that checks an artifact fails as its inspection does, or goes on after the checks. -/
theorem safe_withVerified {source : Source} {name : String}
    {next : Progress → Artifact → HashTree → Task UpdateFailure α} {post : Except UpdateFailure α → Prop}
    (empty : view.staged? = none)
    (refused : ∀ failure, updater.inspection (offers source) name = .error failure → post (.error failure))
    (passed : ∀ found artifact tree after, updater.inspection (offers source) name = .ok found →
      Program.Safe (answers offers) (fun _ _ => True) (fun result _ => post result)
        (next ⟨.integrityVerified, .nothingTouched⟩ artifact tree).run after) :
    Program.Safe (answers offers) (fun _ _ => True) (fun result _ => post result)
      (updater.withVerified source name next).run view := by
  refine Task.Safe.bind (unguarded safe_unlessCancelled) (fun _ _ passes => by cases passes.1) ?_
  rintro _ _ ⟨-, rfl⟩
  refine safe_fetching_bind (fun _ _ _ => trivial) empty (fun cause _ failed => ?_)
    fun delivery staged after fetched holds => ?_
  · apply refused
    rw [Updater.inspection, failed]
    rfl
  · have inspected : updater.inspection (offers source) name =
        updater.examination delivery >>= fun tree => .ok (delivery, tree) := by
      rw [Updater.inspection, fetched]
      rfl
    suffices checked : Program.Safe (answers offers) (fun _ _ => True) (fun result _ => post result) _ after from
      Task.safe_followedBy (Program.Safe.weaken checked fun _ _ holds =>
        Acting.safe_ask (.discard staged) trivial fun _ _ _ => holds)
    refine safe_examined holds (fun failure failed => ?_) fun tree _ passes => ?_
    · apply refused
      rw [inspected, failed]
      rfl
    · apply passed (delivery, tree)
      rw [inspected, passes]
      rfl

end View

/-- A machine, with what the operation on it has staged and what its open streams deliver. -/
structure Workshop where
  machine : Machine
  view : View

namespace Workshop

/-- The staging area works and nobody cancels. Nothing is staged but on request. -/
def answers (faults : Faults) (offers : Offers) : Surroundings actions Workshop :=
  fun action before reply after =>
    Machine.answers faults action before.machine reply after.machine ∧
      View.answers offers action before.view reply after.view ∧
      ((∀ dir, action ≠ .stage dir) → before.view.staged? = none → after.view.staged? = none)

/-- The books can be read and there is no other session. -/
structure Ready (faults : Faults) (machine : Machine) : Prop where
  unlocked : machine.locked = false
  initialised : machine.storage.bootState.isSome
  locks : ¬ faults.refuses (.store .lock)
  reads : ¬ faults.refuses (.store .readBootState)

variable {faults : Faults} {offers : Offers} {updater : Updater} {start : Workshop} {α : Type}

instance : Silent (answers faults offers) (fun _ _ => True) where
  allowed _ _ _ _ := trivial
  same _ _ _ before _ after answer := by
    have machine : after.machine = before.machine := answer.1
    have view : after.view = before.view := answer.2.1
    cases before
    cases after
    cases machine
    cases view
    rfl

abbrev Safe (faults : Faults) (offers : Offers) (post : α → Workshop → Prop) (program : Acting α)
    (start : Workshop) : Prop :=
  Program.Safe (answers faults offers) (fun _ _ => True) post program start

theorem safe_begin (ready : Ready faults start.machine) (empty : start.view.staged? = none) :
    Safe faults offers (fun result after => (∃ held, result = .ok held) ∧
      after.machine.storage = start.machine.storage ∧ after.view.staged? = none)
      (Progress.start.toward .fetching Session.begin).run start := by
  refine Progress.safe_toward (Task.safe_of (Acting.safe_ask (.store .lock) trivial ?_))
  rintro reply after ⟨locked, -, staged⟩
  cases reply with
  | ok held => exact ⟨⟨held, rfl⟩, by rw [locked.2], staged nofun empty⟩
  | error cause =>
    obtain ⟨refused | held, -⟩ := locked
    · exact (ready.locks refused).elim
    · rw [ready.unlocked] at held
      cases held

theorem safe_bootState (reads : ¬ faults.refuses (.store .readBootState))
    (initialised : start.machine.storage.bootState.isSome) (empty : start.view.staged? = none) :
    Safe faults offers (fun result after => (∃ state, result = .ok state) ∧ after.view.staged? = none)
      (Progress.start.toward .fetching Slots.bootState).run start := by
  refine Progress.safe_toward (Task.Safe.bind (Q := fun result after =>
    (∃ state, result = .ok (some state)) ∧ after.view.staged? = none)
    (Task.safe_of (Acting.safe_ask (.store .readBootState) trivial ?_)) ?_ ?_)
  · rintro reply after ⟨⟨-, read⟩, -, staged⟩
    cases reply with
    | ok found =>
      obtain ⟨state, shown⟩ := Option.isSome_iff_exists.1 initialised
      have found : found = some state := Eq.trans read shown
      exact ⟨⟨state, congrArg _ found⟩, staged nofun empty⟩
    | error cause => exact (reads read).elim
  · rintro cause after ⟨⟨state, impossible⟩, -⟩
    cases impossible
  · rintro found after ⟨⟨state, same⟩, unstaged⟩
    obtain rfl := Except.ok.inj same
    exact .done ⟨⟨state, rfl⟩, unstaged⟩

/-- Cleaning up before anything is staged leaves nothing staged. -/
theorem safe_cleanUp (empty : start.view.staged? = none) :
    Safe faults offers (fun _ after => after.view.staged? = none) updater.cleanUp start := by
  have only : updater.cleanUp.AsksOnly fun action : Action => ∀ dir, action ≠ .stage dir :=
    updater.asksOnly_cleanUp (fun _ => nofun) (fun _ => nofun) fun _ _ _ => nofun
  exact only.safe (fun _ _ _ _ => trivial) (fun _ _ _ _ other kept answer => answer.2.2 other kept) empty

/-- An update of a machine that is ready is decided by the inspection of the artifact, up to the point where
a slot is touched. -/
theorem safe_update (ready : Ready faults start.machine) (empty : start.view.staged? = none)
    {source : Source} {name : String} :
    Safe faults offers (fun result _ =>
      (∀ failure, updater.inspection (offers source) name = .error failure → result = .error failure) ∧
      ∀ found, updater.inspection (offers source) name = .ok found → PastChecks result)
      (updater.update source name).run start := by
  refine Task.Safe.bind (safe_begin ready empty) (fun _ _ ⟨⟨_, impossible⟩, _⟩ => by cases impossible) ?_
  rintro held locked ⟨-, same, unstaged⟩
  refine Task.safe_followedBy (Program.Safe.weaken ?_ fun result _ (holds : _ ∧ _) =>
    Acting.safe_ask (.store (.unlock held)) trivial fun _ _ _ => holds)
  refine Task.Safe.bind (safe_bootState ready.reads (same ▸ ready.initialised) unstaged)
    (fun _ _ ⟨⟨_, impossible⟩, _⟩ => by cases impossible) ?_
  rintro state read ⟨-, unstaged⟩
  refine Task.Safe.lift_bind (safe_cleanUp unstaged) fun _ cleaned unstaged => ?_
  refine Program.Safe.seen Workshop.view (fun _ _ _ _ answer => answer.2.1)
    (View.safe_withVerified unstaged ?_ ?_)
  · intro failure failed
    refine ⟨fun other same => ?_, fun found passed => ?_⟩
    · rw [Except.error.inj (failed.symm.trans same)]
    · rw [failed] at passed
      cases passed
  · intro found artifact tree after passed
    refine Task.Safe.bind Updater.safe_install_pastChecks (fun failure _ past => ?_) fun _ _ _ => .done ?_
    · refine ⟨fun other failed => ?_, ?_⟩
      · rw [failed] at passed
        cases passed
      · rintro _ _ _ ⟨⟩
        exact past failure rfl
    · refine ⟨fun other failed => ?_, fun _ _ => pastChecks_ok _⟩
      rw [failed] at passed
      cases passed

end Workshop

end DualSlot
