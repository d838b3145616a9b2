import DualSlot.Proofs.MenuFiles
import DualSlot.Proofs.SlotBooks
import DualSlot.Proofs.Staging
import DualSlot.Proofs.TreeOfPrefix

/-! The parts of an update one by one. The checks of an artifact change nothing, writing a slot changes
nothing but the slot, and what was read back of a slot is an image with the root hash that was
expected. -/

namespace DualSlot

/-- Reading the bytes of a slot may serve an image with this root hash. -/
def Faults.ReadsAs (faults : Faults) (hash : Bytes → Digest) (rootHash : Digest) (bytes : Bytes) : Prop :=
  ∃ served, faults.serves bytes served ∧ HashTree.IsRootWithin hash rootHash served

theorem Faults.ReadsAs.isRootWithin {faults : Faults} {hash : Bytes → Digest} {rootHash : Digest}
    {bytes : Bytes} (reads : faults.ReadsAs hash rootHash bytes) (honest : faults.Honest) :
    HashTree.IsRootWithin hash rootHash bytes := by
  obtain ⟨served, serves, within⟩ := reads
  exact within.mono (honest bytes served serves)

variable {faults : Faults} {discipline : Discipline} {machine : Machine} {ε α : Type}

namespace Session

theorem safe_begin :
    Task.Safe faults discipline (fun _ after => after.storage = machine.storage) begin machine :=
  Acting.Quiet.safe (Task.AsksOnly.of (Acting.quiet_perform (.store .lock) trivial) _)

/-- The end of a session changes nothing that persists. -/
theorem safe_during {held : Guard} {task : Task ε α} {post : Except ε α → Machine → Prop}
    (persists : ∀ result before after, after.storage = before.storage → post result before →
      post result after)
    (safe : Task.Safe faults discipline post task machine) :
    Task.Safe faults discipline post (during held task) machine := by
  refine Task.safe_followedBy (Program.Safe.weaken safe fun result reached holds => ?_)
  exact Program.Safe.weaken (Acting.Quiet.safe (Acting.quiet_perform (.store (.unlock held)) trivial))
    fun _ after same => persists result reached after same holds

theorem safe_alone {task : Task Failure α} {post : Except Failure α → Machine → Prop}
    (persists : ∀ result before after, after.storage = before.storage → post result before →
      post result after)
    (refused : ∀ cause, post (.error cause) machine)
    (safe : ∀ held : Machine, held.storage = machine.storage →
      Task.Safe faults discipline post task held) :
    Task.Safe faults discipline post (alone task) machine :=
  Task.Safe.bind safe_begin
    (fun cause after same => persists _ machine after same (refused cause))
    fun _ held same => safe_during persists (safe held same)

end Session

namespace Updater

variable {updater : Updater} {slot : Slot} {artifact : Artifact}

theorem quiet_verifyChecksum : Task.Quiet (updater.verifyChecksum artifact) := by
  refine Task.AsksOnly.bind (Task.AsksOnly.adapt (Artifact.quiet_openImage artifact) _) fun image => ?_
  refine Task.AsksOnly.bind (Task.AsksOnly.lift (Acting.quiet_perform _ trivial)) fun stream => ?_
  cases stream.contents with
  | error cause => exact .done
  | ok bytes =>
    cases artifact.checksum with
    | error error =>
      exact Task.AsksOnly.bind (Task.AsksOnly.lift (Acting.quiet_perform _ trivial)) fun _ => .done
    | ok expected =>
      by_cases differs : expected ≠ updater.hash bytes
      · simp only [if_pos differs]
        exact .done
      · simp only [if_neg differs]
        exact .done

theorem quiet_verifyIntegrity : Task.Quiet (updater.verifyIntegrity artifact) := by
  unfold verifyIntegrity
  cases artifact.metadata with
  | error cause => exact .done
  | ok metadata =>
    cases valid : (metadata.params updater.treeParams).validate with
    | error cause =>
      simp only [valid]
      exact .done
    | ok _ =>
      simp only [valid]
      refine Task.AsksOnly.bind (Task.AsksOnly.adapt (Artifact.quiet_openImage artifact) _) fun image => ?_
      refine Task.AsksOnly.bind (Task.AsksOnly.lift (Acting.quiet_perform _ trivial)) fun stream => ?_
      cases HashTree.build updater.hash (metadata.params updater.treeParams) stream with
      | error cause => exact .done
      | ok tree =>
        dsimp only
        cases metadata.dataBlocks.filter (· ≠ tree.dataBlocks) with
        | some described => exact .done
        | none =>
          by_cases same : tree.rootHash = metadata.rootHash
          · simp only [if_pos same]
            exact .done
          · simp only [if_neg same]
            exact .done

/-- However writing a slot ends, nothing differs but the slot's bytes. -/
theorem safe_writeSlot
    (allowed : ∀ image, discipline.allows (.writeSlot slot image) machine.storage) :
    Task.Safe faults discipline
      (fun _ after => ∃ bytes, after.storage = machine.storage.setBytes slot bytes)
      (writeSlot slot artifact) machine := by
  have unwritten : ∃ bytes, machine.storage = machine.storage.setBytes slot bytes :=
    ⟨_, (Storage.setBytes_self _ _).symm⟩
  refine Task.Safe.bind (Q := fun _ after => after.storage = machine.storage)
    (Acting.Quiet.safe (Task.AsksOnly.adapt (Artifact.quiet_openImage artifact) _)) ?_ ?_
  · intro cause after same
    rw [same]
    exact unwritten
  · intro image opened same
    refine Task.Safe.bind
      (Q := fun _ after => ∃ bytes, after.storage = machine.storage.setBytes slot bytes)
      (Task.safe_of (Acting.safe_perform _ (same ▸ allowed image) ?_)) (fun _ _ written => written) ?_
    · rintro reply after ⟨-, bytes, rfl⟩
      exact ⟨bytes, by rw [← same]; rfl⟩
    · intro count after written
      by_cases short : count ≠ artifact.imageSize
      · simp only [if_pos short]
        exact .done written
      · simp only [if_neg short]
        exact .done written

/-- Reading back changes nothing. What passes for the expected tree is that of the slot's bytes. -/
theorem safe_verifyWritten {expected : HashTree} :
    Task.Safe faults discipline
      (fun result after => after.storage = machine.storage ∧
        Leaves (fun _ => True) (fun _ _ =>
          faults.ReadsAs updater.hash expected.rootHash (machine.storage.bytes slot))
          result after)
      (updater.verifyWritten slot artifact expected) machine := by
  unfold verifyWritten
  cases artifact.metadata with
  | error cause => exact .done ⟨rfl, trivial⟩
  | ok metadata =>
    refine Task.Safe.bind (Q := fun result after => after.storage = machine.storage ∧
      Leaves (fun _ => True) (fun opened after => after.readers opened.file = some slot) result after)
      (Task.safe_of (Acting.safe_perform (.openSlot slot artifact.imageSize)
        (discipline.quiet _ _ trivial) ?_))
      (fun _ _ ⟨same, _⟩ => ⟨same, trivial⟩) ?_
    · intro reply after answer
      cases reply with
      | ok opened =>
        rw [show after = _ from answer]
        exact ⟨rfl, Function.update_self ..⟩
      | error cause => exact ⟨congrArg Machine.storage answer.2, trivial⟩
    · rintro opened middle ⟨same, reads⟩
      refine Task.Safe.lift_bind (Acting.safe_perform _ (discipline.quiet _ _ trivial)
        fun _ _ answer => answer) ?_
      rintro stream after ⟨rfl, served⟩
      have serves : faults.serves (machine.storage.bytes slot) stream.rest := same ▸ served slot reads
      cases built : HashTree.build updater.hash (metadata.params updater.treeParams) stream with
      | error cause => exact .done ⟨same, trivial⟩
      | ok found =>
        by_cases differs : found.rootHash ≠ expected.rootHash ∨ found.imageSize ≠ expected.imageSize
        · simp only [if_pos differs]
          exact .done ⟨same, trivial⟩
        · simp only [if_neg differs]
          have expectedRoot : found.rootHash = expected.rootHash := by
            by_contra different
            exact differs (.inl different)
          exact Task.safe_lift (Acting.safe_log
            ⟨same, stream.rest, serves, expectedRoot ▸ HashTree.build_isRootWithin built⟩)

end Updater

end DualSlot
