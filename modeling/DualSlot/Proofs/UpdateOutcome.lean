import DualSlot.Proofs.ObligingMachine

/-! Updates keep to the protocol, and a failed update tells what it left behind. The impact that it
reports is the strongest that any of its steps before the failure can have had. -/

namespace DualSlot

/-- The stages of an update in the order in which it reaches them. -/
def Stage.order : List Stage :=
  [.idle, .fetching, .checksumVerified, .integrityVerified, .writing, .writtenVerified, .committed]

namespace Updater

variable {faults : Faults} {updater : Updater} {target : Slot} {machine : Machine}
  {before : Storage} {α β : Type}

/-- The files that change when a target is overwritten, and staged images. -/
def AroundTarget (updater : Updater) (target : Slot) (path : Path) : Prop :=
  Artifact.StagedIn updater.stagingDir path ∨
    BootMenu.WrittenWith (updater.menu.entryPath target) path

/-- A slot that holds an image with a root hash is recorded with it, and is active. -/
structure Enrolled (updater : Updater) (faults : Faults) (target : Slot) (rootHash : Digest)
    (storage : Storage) : Prop where
  active : storage.bootState = some ⟨target, updater.maxBootCount⟩
  record : ∃ time, storage.record target = some ⟨target, rootHash.hex, time⟩
  holds : faults.ReadsAs updater.hash rootHash (storage.bytes target)

theorem Enrolled.congr {rootHash : Digest} {storage after : Storage}
    (enrolled : updater.Enrolled faults target rootHash storage)
    (bootState : after.bootState = storage.bootState) (record : after.record = storage.record)
    (bytes : after.bytes = storage.bytes) : updater.Enrolled faults target rootHash after where
  active := bootState.trans enrolled.active
  record := record ▸ enrolled.record
  holds := bytes ▸ enrolled.holds

/-- What an impact says of the machine after an update that failed. -/
def LeftWith (updater : Updater) (faults : Faults) (before : Storage) : Impact → Storage → Prop
  | .nothingTouched, after => Artifact.Beside updater.stagingDir before after
  | .inactiveSlotUnknown, after => ∃ target, before.active? = some target.other ∧
      Storage.OnlySlot (updater.AroundTarget target) target before after
  | .splitBrain, after => ∃ target rootHash, before.active? = some target.other ∧
      updater.Enrolled faults target rootHash after

/-- A failure names two stages in a row, and its impact is that on the machine. -/
structure Explains (updater : Updater) (faults : Faults) (before : Storage) (failure : UpdateFailure)
    (after : Storage) : Prop where
  stages : [failure.lastCompleted, failure.failedIn] <:+: Stage.order
  impact : updater.LeftWith faults before failure.impact after

/-- What holds after a part of an update: a failure tells what was left behind. -/
def Accounts (explains : UpdateFailure → Storage → Prop) (done : α → Machine → Prop) :
    Except UpdateFailure α → Machine → Prop
  | .ok value, after => done value after
  | .error failure, after => explains failure after.storage

/-- Whatever a failed update left behind, it is no less after more staged images are removed. -/
theorem LeftWith.beside {impact : Impact} {middle after : Storage}
    (left : updater.LeftWith faults before impact middle)
    (beside : Artifact.Beside updater.stagingDir middle after) :
    updater.LeftWith faults before impact after := by
  cases impact with
  | nothingTouched => exact Storage.OnlyFiles.trans left beside
  | inactiveSlotUnknown =>
    obtain ⟨target, passive, only⟩ := left
    exact ⟨target, passive, only.trans (.ofFiles beside fun _ inside => .inl inside)⟩
  | splitBrain =>
    obtain ⟨target, rootHash, passive, enrolled⟩ := left
    exact ⟨target, rootHash, passive, enrolled.congr beside.bootState beside.record beside.bytes⟩

theorem Explains.beside {failure : UpdateFailure} {middle after : Storage}
    (explains : updater.Explains faults before failure middle)
    (beside : Artifact.Beside updater.stagingDir middle after) :
    updater.Explains faults before failure after :=
  ⟨explains.stages, explains.impact.beside beside⟩

section Parts

variable {discipline : Discipline} {progress : Progress} {next : Stage}

/-- A part tells what was left behind if it has left no more than the progress so far explains. -/
theorem safe_toward (left : Storage → Prop) {task : Task Failure α}
    {explains : UpdateFailure → Storage → Prop} {done : α → Machine → Prop}
    (told : ∀ cause after, left after → explains (progress.fail next cause) after)
    (safe : Task.Safe faults discipline (Leaves (fun after => left after.storage) done) task machine) :
    Task.Safe faults discipline (Accounts explains done) (progress.toward next task) machine := by
  refine Progress.safe_toward (Program.Safe.weaken safe fun result after leaves => ?_)
  cases result with
  | ok value => exact leaves
  | error cause => exact told cause _ leaves

/-- A step of an update tells what was left behind if it fails, and the rest goes on from what it did. -/
theorem safe_step {task : Task Failure α} {rest : α → Task UpdateFailure β} {done : α → Machine → Prop}
    {post : β → Machine → Prop} (stages : [progress.lastCompleted, next] <:+: Stage.order)
    (safe : Task.Safe faults discipline
      (Leaves (fun after => updater.LeftWith faults before progress.impact after.storage) done)
      task machine)
    (later : ∀ value after, done value after →
      Task.Safe faults discipline (Accounts (updater.Explains faults before) post) (rest value) after) :
    Task.Safe faults discipline (Accounts (updater.Explains faults before) post)
      (progress.toward next task >>= rest) machine :=
  Task.Safe.bind (safe_toward _ (fun _ _ left => ⟨stages, left⟩) safe) (fun _ _ told => told) later

theorem safe_unlessCancelled {explains : UpdateFailure → Storage → Prop}
    (told : explains (progress.fail next .cancelled) machine.storage) :
    Task.Safe faults discipline (Accounts explains fun _ after => after = machine)
      (progress.unlessCancelled next) machine :=
  Progress.safe_unlessCancelled told rfl

theorem safe_check {task : Task Failure α} {explains : UpdateFailure → Storage → Prop}
    (told : ∀ (progress : Progress) next cause after, progress.impact = .nothingTouched →
      [progress.lastCompleted, next] <:+: Stage.order →
      Artifact.Beside updater.stagingDir before after → explains (progress.fail next cause) after)
    (quiet : Task.Quiet task) (impact : progress.impact = .nothingTouched)
    (stages : [progress.lastCompleted, next] <:+: Stage.order)
    (beside : Artifact.Beside updater.stagingDir before machine.storage) :
    Task.Safe faults discipline
      (Accounts explains fun _ after => Artifact.Beside updater.stagingDir before after.storage)
      (progress.toward next task) machine := by
  refine safe_toward _ (fun cause after => told _ _ cause after impact stages)
    (Task.Safe.leaves (Acting.Quiet.safe quiet) ?_ ?_)
  · exact fun _ _ same => beside.trans (.of_eq same)
  · exact fun _ _ same => beside.trans (.of_eq same)

/-- A checked artifact comes with nothing touched but staged images, and in the end they are removed. -/
theorem safe_withVerified (explains : UpdateFailure → Storage → Prop) (before : Storage)
    (stages : discipline.Stages updater.stagingDir) {source : Source} {image : String}
    {rest : Progress → Artifact → HashTree → Task UpdateFailure α}
    (told : ∀ (progress : Progress) next cause after, progress.impact = .nothingTouched →
      [progress.lastCompleted, next] <:+: Stage.order →
      Artifact.Beside updater.stagingDir before after → explains (progress.fail next cause) after)
    (discarded : ∀ failure middle after, explains failure middle →
      Artifact.Beside updater.stagingDir middle after → explains failure after)
    (safe : ∀ artifact tree (checked : Machine),
      Artifact.Beside updater.stagingDir before checked.storage →
      Task.Safe faults discipline (Accounts explains fun _ _ => True)
        (rest ⟨.integrityVerified, .nothingTouched⟩ artifact tree) checked)
    (beside : Artifact.Beside updater.stagingDir before machine.storage) :
    Task.Safe faults discipline (Accounts explains fun _ _ => True)
      (updater.withVerified source image rest) machine := by
  refine Task.Safe.bind (safe_unlessCancelled (told _ _ _ _ rfl (by decide) beside))
    (fun _ _ failed => failed) ?_
  rintro _ _ rfl
  refine Task.Safe.bind (Q := Accounts explains fun artifact after =>
      Artifact.Beside updater.stagingDir before after.storage ∧
        Artifact.StagedIn updater.stagingDir artifact.staged.path)
    (safe_toward _ (fun cause after => told _ _ cause after rfl (by decide))
      ((Artifact.safe_fetch stages).leaves ?_ ?_)) (fun _ _ failed => failed) ?_
  · exact fun _ _ ⟨fetched, _⟩ => beside.trans fetched
  · exact fun _ _ ⟨fetched, inside⟩ => ⟨beside.trans fetched, inside⟩
  rintro artifact fetched ⟨fetchedBeside, inside⟩
  suffices checks : Task.Safe faults discipline (Accounts explains fun _ _ => True) _ fetched from
      Task.safe_followedBy (Program.Safe.weaken checks ?_)
  · intro result after holds
    refine Program.Safe.weaken (Artifact.safe_discard stages inside) fun _ last gone => ?_
    cases result with
    | ok _ => trivial
    | error failure => exact discarded _ _ _ holds gone
  refine Progress.safe_reached_bind ?_
  refine Task.Safe.bind (safe_unlessCancelled (told _ _ _ _ rfl (by decide) fetchedBeside))
    (fun _ _ failed => failed) ?_
  rintro _ _ rfl
  refine Task.Safe.bind (safe_check told quiet_verifyChecksum rfl (by decide) fetchedBeside)
    (fun _ _ failed => failed) ?_
  intro _ summed summedBeside
  refine Progress.safe_reached_bind ?_
  refine Task.Safe.bind (safe_unlessCancelled (told _ _ _ _ rfl (by decide) summedBeside))
    (fun _ _ failed => failed) ?_
  rintro _ _ rfl
  refine Task.Safe.bind (safe_check told quiet_verifyIntegrity rfl (by decide) summedBeside)
    (fun _ _ failed => failed) ?_
  intro tree checked checkedBeside
  exact Progress.safe_reached_bind (safe artifact tree checked checkedBeside)

end Parts

/-- Before the slot is written to, its entry is masked and its record is gone. -/
theorem safe_overwrite {artifact : Artifact} (passive : machine.storage.active? = some target.other) :
    Task.Safe faults (updater.protocol faults (some target))
      (fun _ after => Storage.OnlySlot (updater.AroundTarget target) target machine.storage after.storage)
      (do
        (updater.menu.disable target).adapt .bootMenu
        Slots.clearRecord target
        writeSlot target artifact) machine := by
  refine Task.Safe.bind (Task.safe_adapt_leaves (BootMenu.safe_disable fun _ => .mask rfl passive))
    (fun _ _ ⟨only, _⟩ => .ofFiles only fun _ inside => .inr inside) ?_
  rintro _ middle ⟨only, masked⟩
  have first : Storage.OnlySlot (updater.AroundTarget target) target machine.storage middle.storage :=
    .ofFiles only fun _ inside => .inr inside
  have stillPassive : middle.storage.active? = some target.other := only.active?.trans passive
  refine Task.Safe.bind (Slots.safe_clearRecord (.clear rfl stillPassive masked)) ?_ ?_
  · exact fun _ _ same => first.trans (.of_eq same)
  · intro _ cleared erased
    have second : Storage.OnlySlot (updater.AroundTarget target) target middle.storage cleared.storage :=
      erased ▸ .setRecord ..
    refine Program.Safe.weaken (safe_writeSlot fun image => .write rfl ?_ ?_ ?_) ?_
    · exact second.active?.trans stillPassive
    · rw [erased]
      exact masked
    · rw [erased, Storage.record_setRecord_self]
    · rintro _ after ⟨bytes, written⟩
      exact (first.trans second).trans (written ▸ .setBytes ..)

/-- A slot that was read back is recorded and becomes active, or stays passive. -/
theorem safe_enroll {tree : HashTree} (passive : machine.storage.active? = some target.other)
    (holds : faults.ReadsAs updater.hash tree.rootHash (machine.storage.bytes target)) :
    Task.Safe faults (updater.protocol faults (some target))
      (Leaves (fun after =>
          Storage.OnlySlot (updater.AroundTarget target) target machine.storage after.storage)
        fun _ after => updater.Enrolled faults target tree.rootHash after.storage)
      (do
        let _ ← Slots.recordHash target tree.rootHash.hex
        let _ ← Slots.commit updater.maxBootCount target) machine := by
  have parsed : Digest.parse (Text.trimmed tree.rootHash.hex) = .ok tree.rootHash := by
    rw [Digest.trimmed_hex, Digest.parse_hex]
  have allowed (digest : Digest) (time : UInt64)
      (given : Digest.parse (Text.trimmed tree.rootHash.hex) = .ok digest) :
      (updater.protocol faults (some target)).allows
        (.store (.writeRecord ⟨target, digest.hex, time⟩)) machine.storage := by
    obtain rfl := Except.ok.inj (parsed.symm.trans given)
    exact .record rfl passive holds
  refine Task.Safe.bind (Slots.safe_recordHash allowed) ?_ ?_
  · exact fun _ _ same => Storage.OnlySlot.of_eq same
  · rintro _ middle ⟨digest, time, given, recorded⟩
    obtain rfl := Except.ok.inj (parsed.symm.trans given)
    have only : Storage.OnlySlot (updater.AroundTarget target) target machine.storage middle.storage :=
      recorded ▸ .setRecord ..
    have record : middle.storage.record target = some ⟨target, tree.rootHash.hex, time⟩ := by
      rw [recorded, Storage.record_setRecord_self]
    have known : middle.storage.rootHash? target = some tree.rootHash := by
      rw [Storage.rootHash?, record]
      exact SlotRecord.digest?_hex ..
    have bytes : middle.storage.bytes = machine.storage.bytes := by
      rw [recorded]
      rfl
    refine Task.Safe.bind (Slots.safe_commitAs (fun _ => .activate rfl (only.active?.trans passive)
      known (bytes ▸ holds)) fun _ => .remember) ?_ ?_
    · exact fun _ _ same => only.trans (.of_eq same)
    · intro _ after written
      have enrolled : updater.Enrolled faults target tree.rootHash
          (middle.storage.setBootState ⟨target, updater.maxBootCount⟩) :=
        ⟨rfl, ⟨time, record⟩, bytes ▸ holds⟩
      refine .done (show updater.Enrolled faults target tree.rootHash after.storage from ?_)
      obtain written | ⟨later, written⟩ := written
      · rw [written]
        exact enrolled
      · rw [written]
        exact enrolled.congr rfl rfl rfl

/-- An installation is accounted for: the slot counts as unknown before anything of it is touched, and
the two books as split as soon as the slot is active. -/
theorem safe_install {artifact : Artifact} {tree : HashTree}
    (passive : machine.storage.active? = some target.other)
    (beside : Artifact.Beside updater.stagingDir before machine.storage) :
    Task.Safe faults (updater.protocol faults (some target))
      (Accounts (updater.Explains faults before) fun _ _ => True)
      (updater.install target ⟨.integrityVerified, .nothingTouched⟩ artifact tree) machine := by
  have wasPassive : before.active? = some target.other := beside.active?.symm.trans passive
  have first : Storage.OnlySlot (updater.AroundTarget target) target before machine.storage :=
    .ofFiles beside fun _ inside => .inl inside
  refine Task.Safe.bind (safe_unlessCancelled ⟨by decide, beside⟩) (fun _ _ told => told) ?_
  rintro _ _ rfl
  refine Task.safe_log_bind ?_
  refine safe_step (by decide) ((safe_overwrite passive).leaves
    (fun _ _ only => ⟨target, wasPassive, first.trans only⟩) fun _ _ only => first.trans only) ?_
  intro _ written only
  refine Progress.safe_reached_bind ?_
  refine safe_step (by decide) (safe_verifyWritten.leaves
    (fun _ _ ⟨same, _⟩ => ⟨target, wasPassive, only.trans (.of_eq same)⟩) fun _ _ read => read) ?_
  rintro _ checked ⟨same, holds⟩
  refine Progress.safe_reached_bind ?_
  have checkedOnly : Storage.OnlySlot (updater.AroundTarget target) target before checked.storage :=
    Storage.OnlySlot.trans only (.of_eq same)
  have checkedHolds : faults.ReadsAs updater.hash tree.rootHash (checked.storage.bytes target) := by
    rw [same]
    exact holds
  -- Whatever fails from here on until the slot is active leaves it passive, with or without a record.
  refine safe_step (by decide) ((safe_enroll (checkedOnly.active?.trans wasPassive) checkedHolds).leaves
    (fun _ _ only => ⟨target, wasPassive, checkedOnly.trans only⟩) fun _ _ enrolled => enrolled) ?_
  intro _ active enrolled
  have aimed : ∀ state, active.storage.bootState = some state → ∀ other ∈ some target,
      other = state.activeSlot := by
    rintro state found _ ⟨⟩
    exact congrArg BootState.activeSlot (Option.some_inj.1 (enrolled.active.symm.trans found))
  -- The menu is refreshed with the impact raised: no failure here takes the slot back.
  refine safe_step (by decide) ((safe_refresh aimed).leaves
    (fun _ _ ⟨only, _⟩ => ⟨target, tree.rootHash, wasPassive,
      enrolled.congr only.bootState only.record only.bytes⟩) fun _ _ _ => trivial) ?_
  exact fun _ _ _ => Progress.safe_reached_bind (.done trivial)

/-- An update that fails explains what it left behind, whatever it was that failed. -/
theorem safe_update {source : Source} {image : String}
    (aimed : ∀ active, machine.storage.active? = some active → active = target.other) :
    Task.Safe faults (updater.protocol faults (some target))
      (Accounts (updater.Explains faults machine.storage) fun _ _ => True)
      (updater.update source image) machine := by
  have stages := updater.protocol_stages faults (some target)
  refine safe_step (by decide) (Session.safe_begin.leaves (fun _ _ same => Storage.OnlyFiles.of_eq same)
    fun _ _ same => same) ?_
  intro guard held same
  refine Session.safe_during ?_ ?_
  · intro result before after same holds
    cases result with
    | ok _ => trivial
    | error failure => exact Explains.beside holds (.of_eq same)
  refine safe_step (by decide) (Slots.safe_bootState.leaves (fun _ after unread => ?_)
    fun _ _ found => found) ?_
  · rw [show after = held from unread]
    exact Storage.OnlyFiles.of_eq same
  rintro state _ ⟨rfl, found⟩
  have active : machine.storage.active? = some state.activeSlot := by
    rw [← same]
    exact congrArg (Option.map BootState.activeSlot) found
  refine Task.Safe.lift_bind (updater.safe_cleanUp stages.remove) fun _ cleaned beside => ?_
  refine safe_withVerified _ machine.storage stages ?_ ?_ ?_
    (Storage.OnlyFiles.trans (.of_eq same) beside)
  · intro progress next cause after untouched stages beside
    refine ⟨stages, ?_⟩
    rw [show (progress.fail next cause).impact = .nothingTouched from untouched]
    exact beside
  · exact fun _ _ _ explains beside => explains.beside beside
  · intro artifact tree checked beside
    obtain rfl : target = state.activeSlot.other := by
      rw [aimed _ active, Slot.other_other]
    have passive : checked.storage.active? = some state.activeSlot.other.other := by
      rw [Slot.other_other]
      exact beside.active?.trans active
    exact Task.Safe.bind (safe_install passive beside) (fun _ _ told => told)
      fun _ _ _ => .done trivial

/-- The books, the slots and the files of the menu are as before. -/
structure Untouched (updater : Updater) (before after : Storage) : Prop where
  bootState : after.bootState = before.bootState
  record : after.record = before.record
  history : after.history = before.history
  bytes : after.bytes = before.bytes
  entry : ∀ slot, after.files (updater.menu.entryPath slot) = before.files (updater.menu.entryPath slot)
  loader : after.files updater.menu.loaderFile = before.files updater.menu.loaderFile

theorem untouched_of_beside (apart : updater.Apart) {after : Storage}
    (beside : Artifact.Beside updater.stagingDir before after) : updater.Untouched before after where
  bootState := beside.bootState
  record := beside.record
  history := beside.history
  bytes := beside.bytes
  entry slot := beside.files _ (apart.staged_entry slot)
  loader := beside.files _ apart.staged_loader

end Updater

end DualSlot
