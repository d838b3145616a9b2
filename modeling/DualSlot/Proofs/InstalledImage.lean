import DualSlot.Proofs.MenuAgreement
import DualSlot.Proofs.ObservedMachine
import DualSlot.Proofs.PathNames
import DualSlot.Proofs.TreeBinding

/-! What a successful update has installed. The image that the source delivered is the one that was
staged, checked, handed to the slot and compared with what the slot holds. -/

namespace DualSlot

variable {faults : Faults} {peripherals : Peripherals} {start final : Observed}

namespace Observed

structure Opens (start : Observed) (opened : Opened) (final : Observed) : Prop where
  reader : final.machine.readers opened.file = none
  storage : final.machine.storage = start.machine.storage
  spared : Spared start final

theorem delivers_opening {before : Observed} {opened : Opened} (whole : opened.limit = none)
    (stream : Stream) (machine : Machine) :
    (before.opening opened stream machine).delivers opened = stream := by
  rw [delivers, whole]
  exact Function.update_self ..

theorem opens_of_opening {opened : Opened} {stream : Stream}
    (reply : final.machine = { start.machine with
      readers := Function.update start.machine.readers opened.file none })
    (seen : final = start.opening opened stream final.machine) : Opens start opened final := by
  refine ⟨?_, ?_, ?_⟩
  · rw [reply]
    exact Function.update_self ..
  · rw [reply]
  · rw [seen]
    exact ⟨rfl, rfl⟩

theorem yields_openSource {source : Source} {name : String} {opened : Opened}
    (ended : Task.Yields (answers faults peripherals) (Artifact.openSource source name) start opened
      final) :
    Opens start opened final ∧ final.delivers opened = peripherals.offers source name := by
  obtain ⟨reply, whole, seen⟩ := ended.of_perform
  refine ⟨opens_of_opening reply seen, ?_⟩
  rw [seen]
  exact delivers_opening whole _ _

theorem yields_openImage {artifact : Artifact} {image : Bytes} {opened : Opened}
    (ended : Task.Yields (answers faults peripherals) artifact.openImage start opened final)
    (staged : start.machine.storage.files artifact.staged.path = some image) :
    Opens start opened final ∧ (final.delivers opened).Carries image := by
  obtain ⟨reply, whole, stream, carries, seen⟩ := ended.of_perform
  refine ⟨opens_of_opening reply seen, ?_⟩
  rw [seen, delivers_opening whole]
  exact carries image staged

theorem ends_receive {opened : Opened} {purpose : Purpose} {stream : Stream}
    (ended : Program.Ends (answers faults peripherals) (Action.perform (.receive opened purpose)) start
      stream final) (reader : start.machine.readers opened.file = none) :
    stream = start.delivers opened ∧ final = start := by
  obtain ⟨reply, seen, delivered⟩ := ended.of_perform
  exact ⟨delivered reader, eq_of_turned reply.1 seen⟩

theorem yields_readSidecar {source : Source} {name text : String}
    (ended : Task.Yields (answers faults peripherals) (Artifact.readSidecar source name) start text
      final) :
    Artifact.sidecarText (peripherals.offers source name) = .ok text ∧
      final.machine.storage = start.machine.storage ∧ Spared start final := by
  obtain ⟨same, spared⟩ := yields_spared ended (Acting.Quiet.safe (Artifact.quiet_readSidecar _ _))
  refine ⟨?_, same, spared⟩
  obtain ⟨opened, middle, opening, later⟩ := Task.yields_bind (Task.yields_adapt ended)
  obtain ⟨stream, last, receiving, read⟩ := Task.yields_lift_bind later
  obtain ⟨opens, offered⟩ := yields_openSource opening
  obtain ⟨rfl, -⟩ := ends_receive receiving opens.reader
  rw [offered] at read
  cases found : Artifact.sidecarText (peripherals.offers source name) with
  | error cause =>
    rw [found] at read
    exact (Task.not_yields_throw read).elim
  | ok contents =>
    rw [found] at read
    obtain ⟨rfl, -⟩ := Task.yields_pure read
    rfl

/-- An image that was staged is one that the source delivered to its end. -/
theorem yields_stageImage {source : Source} {name : String} {dir : Path} {staged : Staged} {size : Nat}
    (ended : Task.Yields (answers faults peripherals) (Artifact.stageImage source name dir) start
      (staged, size) final) :
    ∃ image, (peripherals.offers source name).drain = (image, none) ∧ size = image.length ∧
      final.machine.storage.files staged.path = some image ∧
      (∃ suffix : String, '/' ∉ suffix.toList ∧
        staged.path = dir.join (Artifact.stagedStem ++ suffix)) ∧
      final.writes = start.writes ∧ final.staged = start.staged ++ [staged.path] := by
  obtain ⟨place, made, making, later⟩ := Task.yields_bind ended
  obtain ⟨copied, filled, copying, later⟩ := Task.yields_bind later
  cases copied with
  | error cause =>
    obtain ⟨_, discarded, -, later⟩ := Task.yields_lift_bind later
    exact (Task.not_yields_throw later).elim
  | ok count =>
    obtain ⟨same, rfl⟩ := Task.yields_pure later
    obtain ⟨rfl, rfl⟩ := Prod.mk.inj same
    obtain ⟨-, named, stagedAt⟩ := (Task.yields_of making).of_perform
    obtain ⟨opened, ready, opening, filling⟩ := Task.yields_bind (Task.yields_outcome copying)
    obtain ⟨opens, offered⟩ := yields_openSource opening
    obtain ⟨-, seen, fills⟩ := (Task.yields_of filling).of_perform
    obtain ⟨image, drained, counted, contents⟩ := fills _ rfl
    have ghost : Spared ready final := by
      rw [seen]
      exact ⟨rfl, rfl⟩
    have whole : Spared made final := opens.spared.trans ghost
    rw [offered] at drained
    refine ⟨image, drained, counted, contents, named, ?_, ?_⟩
    · rw [whole.writes, stagedAt]
    · rw [whole.staged, stagedAt]

/-- An artifact that was fetched: its image is staged as it was delivered, under a name of its own. -/
structure Fetches (peripherals : Peripherals) (source : Source) (name : String) (dir : Path)
    (start : Observed) (artifact : Artifact) (image : Bytes) (final : Observed) : Prop where
  delivered : (peripherals.offers source name).drain = (image, none)
  size : artifact.imageSize = image.length
  metadata : Artifact.sidecarText (peripherals.offers source (name ++ ".verity")) =
    .ok artifact.metadataText
  contents : final.machine.storage.files artifact.staged.path = some image
  named : ∃ suffix : String, '/' ∉ suffix.toList ∧
    artifact.staged.path = dir.join (Artifact.stagedStem ++ suffix)
  writes : final.writes = start.writes
  staged : final.staged = start.staged ++ [artifact.staged.path]

theorem yields_fetch {source : Source} {name : String} {dir : Path} {artifact : Artifact}
    (ended : Task.Yields (answers faults peripherals) (Artifact.fetch source name dir) start artifact
      final) :
    ∃ image, Fetches peripherals source name dir start artifact image final := by
  have silent := answers_silent faults peripherals
  have later := Task.yields_log_bind silent ended
  obtain ⟨checksumText, first, checksum, later⟩ := Task.yields_bind later
  obtain ⟨metadataText, second, metadata, later⟩ := Task.yields_bind later
  obtain ⟨⟨staged, size⟩, third, staging, later⟩ := Task.yields_bind later
  have told := Task.yields_log_bind silent later
  obtain ⟨rfl, rfl⟩ := Task.yields_pure told
  obtain ⟨-, -, checksumSpared⟩ := yields_readSidecar checksum
  obtain ⟨text, -, metadataSpared⟩ := yields_readSidecar metadata
  obtain ⟨image, drained, counted, contents, named, writes, stagedAt⟩ :=
    yields_stageImage (Task.yields_adapt staging)
  have spared := checksumSpared.trans metadataSpared
  refine ⟨image, drained, counted, text, contents, named, ?_, ?_⟩
  · rw [writes, spared.writes]
  · rw [stagedAt, spared.staged]

/-- The tree that a staged image was checked against is its own, under the parameters of its metadata. -/
theorem yields_verifyIntegrity {updater : Updater} {artifact : Artifact} {image : Bytes} {tree : HashTree}
    (ended : Task.Yields (answers faults peripherals) (updater.verifyIntegrity artifact) start tree final)
    (staged : start.machine.storage.files artifact.staged.path = some image) :
    ∃ metadata, artifact.metadata = .ok metadata ∧
      (metadata.params updater.treeParams).validate = .ok () ∧
      tree = HashTree.ofImage updater.hash (metadata.params updater.treeParams) image := by
  unfold Updater.verifyIntegrity at ended
  cases described : artifact.metadata with
  | error cause =>
    rw [described] at ended
    exact (Task.not_yields_throw ended).elim
  | ok metadata =>
    simp only [described] at ended
    cases valid : (metadata.params updater.treeParams).validate with
    | error cause =>
      simp only [valid] at ended
      exact (Task.not_yields_throw ended).elim
    | ok _ =>
      simp only [valid] at ended
      obtain ⟨opened, ready, opening, later⟩ := Task.yields_bind ended
      obtain ⟨stream, received, receiving, later⟩ := Task.yields_lift_bind later
      obtain ⟨opens, carries⟩ := yields_openImage (Task.yields_adapt opening) staged
      obtain ⟨rfl, -⟩ := ends_receive receiving opens.reader
      refine ⟨metadata, rfl, valid, ?_⟩
      cases built : HashTree.build updater.hash (metadata.params updater.treeParams)
          (ready.delivers opened) with
      | error cause =>
        rw [built] at later
        exact (Task.not_yields_throw later).elim
      | ok found =>
        have whole := HashTree.build_carries carries built
        simp only [built] at later
        split at later
        · exact (Task.not_yields_throw later).elim
        · split at later
          · obtain ⟨rfl, -⟩ := Task.yields_pure later
            exact whole
          · exact (Task.not_yields_throw later).elim

theorem yields_writeSlot {slot : Slot} {artifact : Artifact} {image : Bytes}
    (ended : Task.Yields (answers faults peripherals) (Updater.writeSlot slot artifact) start () final)
    (staged : start.machine.storage.files artifact.staged.path = some image) :
    ∃ handed : Stream, handed.Carries image ∧ final.writes = start.writes ++ [(slot, handed)] ∧
      final.staged = start.staged ∧
      peripherals.stores handed (start.machine.storage.bytes slot) (final.machine.storage.bytes slot) := by
  obtain ⟨opened, ready, opening, later⟩ := Task.yields_bind ended
  obtain ⟨count, written, writing, later⟩ := Task.yields_bind later
  obtain ⟨opens, carries⟩ := yields_openImage (Task.yields_adapt opening) staged
  obtain ⟨-, seen, stores⟩ := (Task.yields_of writing).of_perform
  have ended : final = written := by
    by_cases short : count ≠ artifact.imageSize
    · simp only [if_pos short] at later
      exact (Task.not_yields_throw later).elim
    · simp only [if_neg short] at later
      exact (Task.yields_pure later).2
  subst ended
  refine ⟨ready.delivers opened, carries, ?_, ?_, ?_⟩
  · rw [seen, opens.spared.writes]
  · rw [seen, opens.spared.staged]
  · rw [← opens.storage]
    exact stores count rfl

end Observed

namespace Updater

variable {updater : Updater}

/-- What was read back of a slot is as long as the image that was expected, and has its root hash. -/
theorem yields_verifyWritten (honest : faults.Honest) {machine after : Machine} {slot : Slot}
    {artifact : Artifact} {metadata : Metadata} {expected : HashTree}
    (described : artifact.metadata = .ok metadata)
    (ended : Task.Yields (Machine.answers faults) (updater.verifyWritten slot artifact expected) machine
      () after) :
    ((machine.storage.bytes slot).take expected.imageSize).length = expected.imageSize ∧
      (HashTree.ofImage updater.hash (metadata.params updater.treeParams)
        ((machine.storage.bytes slot).take expected.imageSize)).rootHash = expected.rootHash := by
  unfold verifyWritten at ended
  simp only [described] at ended
  obtain ⟨opened, ready, opening, later⟩ := Task.yields_bind ended
  obtain ⟨stream, received, receiving, later⟩ := Task.yields_lift_bind later
  have reading : ready = { machine with
    readers := Function.update machine.readers opened.file (some slot) } :=
    (Task.yields_of opening).of_perform
  obtain ⟨-, served⟩ := receiving.of_perform
  have serves : faults.serves (machine.storage.bytes slot) stream.rest := by
    have reader : ready.readers opened.file = some slot := by
      rw [reading]
      exact Function.update_self ..
    have stored : ready.storage = machine.storage := by rw [reading]
    rw [← stored]
    exact served slot reader
  cases built : HashTree.build updater.hash (metadata.params updater.treeParams) stream with
  | error cause =>
    simp only [built] at later
    exact (Task.not_yields_throw later).elim
  | ok found =>
    simp only [built] at later
    by_cases differs : found.rootHash ≠ expected.rootHash ∨ found.imageSize ≠ expected.imageSize
    · simp only [if_pos differs] at later
      exact (Task.not_yields_throw later).elim
    · obtain ⟨roots, sizes⟩ := not_or.1 differs
      -- A stream may end early, and it is the size that says how much of the slot was read.
      obtain ⟨length, read⟩ := HashTree.build_ofImage built
      have size : (stream.rest.take length).length = expected.imageSize := by
        rw [← not_not.1 sizes, read]
        rfl
      have beginning : stream.rest.take length = (machine.storage.bytes slot).take expected.imageSize := by
        have inside : stream.rest.take length <+: machine.storage.bytes slot :=
          (List.take_prefix _ _).trans (honest _ _ serves)
        rw [List.prefix_iff_eq_take.1 inside, size]
      rw [beginning] at size read
      exact ⟨size, by rw [← read]; exact not_not.1 roots⟩

abbrev FilesOnly (before after : Storage) : Prop := Storage.OnlyFiles (fun _ => True) before after

theorem refresh_spared
    (ended : Task.Yields (Observed.answers faults peripherals) updater.menu.refresh start () final) :
    FilesOnly start.machine.storage final.machine.storage ∧ Observed.Spared start final := by
  have refreshes : Task.Safe faults (updater.protocol faults none) _ updater.menu.refresh start.machine :=
    safe_refresh_untargeted
  obtain ⟨only, -⟩ := refreshes.ends (Observed.ends_machine ended)
  refine ⟨only.mono fun _ _ => trivial, ?_⟩
  obtain ⟨refreshing⟩ := BootMenu.refreshing_of_yields ended
  obtain ⟨state, rootHash, known?, books, recorded, wrote, other, fallback⟩ := refreshing
  obtain ⟨-, booksSpared⟩ := Observed.yields_spared books Slots.safe_bootState
  obtain ⟨-, recordedSpared⟩ := Observed.yields_spared recorded Slots.safe_rootHash?
  obtain ⟨-, wroteSpared⟩ := Observed.yields_spared wrote
    (BootMenu.safe_writeDefault trivial fun _ _ _ => trivial)
  obtain ⟨-, otherSpared⟩ := Observed.yields_spared other Slots.safe_rootHash?
  have shown := ((booksSpared.trans recordedSpared).trans wroteSpared).trans otherSpared
  cases known? with
  | none =>
    obtain ⟨-, disabled⟩ := Observed.yields_spared fallback (BootMenu.safe_disable fun _ => trivial)
    exact shown.trans disabled
  | some hash =>
    obtain ⟨shownHash, read, looked, brought⟩ := fallback
    obtain ⟨-, lookedSpared⟩ := Observed.ends_spared looked BootMenu.safe_entryHash?
    by_cases shows : shownHash = some hash
    · rw [if_pos shows] at brought
      rw [brought]
      exact shown.trans lookedSpared
    · rw [if_neg shows] at brought
      obtain ⟨-, written⟩ := Observed.yields_spared brought (BootMenu.safe_writeEntry trivial)
      exact (shown.trans lookedSpared).trans written

namespace Passage

variable {source : Source} {name : String} {report : UpdateReport}
  (passage : updater.Passage (Observed.answers faults peripherals) source name start report final)

include passage

theorem begins : start.machine.storage.bootState = some passage.state ∧
    FilesOnly start.machine.storage passage.swept.machine.storage ∧
    Observed.Spared start passage.swept := by
  obtain ⟨same, heldSpared⟩ := Observed.yields_spared passage.begun Session.safe_begin
  obtain ⟨⟨unread, books⟩, readSpared⟩ := Observed.yields_spared passage.books Slots.safe_bootState
  obtain ⟨beside, sweptSpared⟩ := Observed.ends_spared passage.cleaned
    (updater.safe_cleanUp fun _ _ _ => trivial)
  rw [same] at books
  rw [unread, same] at beside
  exact ⟨books, beside.mono fun _ _ => trivial, (heldSpared.trans readSpared).trans sweptSpared⟩

theorem checks : passage.summed.machine.storage = passage.fetched.machine.storage ∧
    passage.checked.machine.storage = passage.fetched.machine.storage ∧
    Observed.Spared passage.fetched passage.checked := by
  obtain ⟨summed, summedSpared⟩ := Observed.yields_spared passage.checksum
    (Acting.Quiet.safe quiet_verifyChecksum)
  obtain ⟨checked, checkedSpared⟩ := Observed.yields_spared passage.integrity
    (Acting.Quiet.safe quiet_verifyIntegrity)
  exact ⟨summed, checked.trans summed, summedSpared.trans checkedSpared⟩

/-- The slot loses its entry's tries and its record, and the staged image stays as it is. -/
theorem clears : ∃ masked : Storage,
    Storage.OnlyFiles (BootMenu.WrittenWith (updater.menu.entryPath passage.state.activeSlot.other))
      passage.checked.machine.storage masked ∧
    passage.cleared.machine.storage = masked.setRecord passage.state.activeSlot.other none ∧
    Observed.Spared passage.checked passage.cleared := by
  obtain ⟨⟨only, -⟩, maskedSpared⟩ := Observed.yields_spared passage.masking
    (BootMenu.safe_disable fun _ => trivial)
  obtain ⟨erased, clearedSpared⟩ := Observed.yields_spared passage.clearing
    (Slots.safe_clearRecord trivial)
  exact ⟨_, only, erased, maskedSpared.trans clearedSpared⟩

/-- Up to the write the books and the slots stay as they are but for the record of the slot. The image is
still staged then: only the entry of the slot is written to after the checks, never a staged image. -/
theorem prepares {image : Bytes} (fetches : Observed.Fetches peripherals source name updater.stagingDir
      passage.swept passage.artifact image passage.fetched) :
    ∃ masked : Storage, FilesOnly start.machine.storage masked ∧
      passage.cleared.machine.storage = masked.setRecord passage.state.activeSlot.other none ∧
      passage.cleared.machine.storage.files passage.artifact.staged.path = some image ∧
      Observed.Spared passage.fetched passage.cleared := by
  obtain ⟨-, approach, -⟩ := passage.begins
  obtain ⟨fetched, -⟩ := Task.Yields.holds (Observed.ends_machine passage.fetching)
    (Artifact.safe_fetch (Discipline.free_stages _))
  obtain ⟨-, checked, checkedSpared⟩ := passage.checks
  obtain ⟨masked, maskedOnly, cleared, clearedSpared⟩ := passage.clears
  refine ⟨masked, ?_, cleared, ?_, checkedSpared.trans clearedSpared⟩
  · exact ((approach.trans (fetched.mono fun _ _ => trivial)).trans (.of_eq checked)).trans
      (maskedOnly.mono fun _ _ => trivial)
  · obtain ⟨suffix, plain, path⟩ := fetches.named
    have apart := updater.menu.not_writtenWith_staged passage.state.activeSlot.other updater.stagingDir
      plain
    rw [← path] at apart
    rw [cleared]
    exact (maskedOnly.files _ apart).trans (checked ▸ fetches.contents)

/-- The slot is recorded with the root hash of the image and becomes active. -/
theorem enrolls : ∃ time, ∃ enrolled : Storage,
    enrolled = (passage.written.machine.storage.setRecord passage.state.activeSlot.other
      (some ⟨passage.state.activeSlot.other, passage.tree.rootHash.hex, time⟩)).setBootState
        ⟨passage.state.activeSlot.other, updater.maxBootCount⟩ ∧
    (passage.committed.machine.storage = enrolled ∨ ∃ later,
      passage.committed.machine.storage =
        enrolled.addHistory ⟨later, .success, passage.state.activeSlot.other⟩) ∧
    Observed.Spared passage.written passage.committed := by
  obtain ⟨⟨same, -⟩, verifiedSpared⟩ := Observed.yields_spared passage.readingBack safe_verifyWritten
  obtain ⟨⟨digest, time, given, recorded⟩, recordedSpared⟩ := Observed.yields_spared passage.recording
    (Slots.safe_recordHash fun _ _ _ => trivial)
  obtain ⟨committed, committedSpared⟩ := Observed.yields_spared passage.committing
    (Slots.safe_commitAs (fun _ => trivial) fun _ => trivial)
  rw [Digest.trimmed_hex, Digest.parse_hex] at given
  obtain rfl := Except.ok.inj given
  rw [recorded, same] at committed
  exact ⟨time, _, rfl, committed, (verifiedSpared.trans recordedSpared).trans committedSpared⟩

theorem finishes : FilesOnly passage.committed.machine.storage final.machine.storage ∧
    final.machine.storage.files passage.artifact.staged.path = none ∧
    Observed.Spared passage.committed final := by
  obtain ⟨refreshed, refreshedSpared⟩ := refresh_spared passage.refreshing
  obtain ⟨⟨left, -, changed⟩, discardSeen, gone⟩ := passage.discarding.of_perform
  obtain ⟨released, releasedSpared⟩ := Observed.ends_spared passage.released
    (Acting.Quiet.safe (Acting.quiet_perform (.store (.unlock passage.guard)) trivial))
  have discarded : FilesOnly passage.refreshed.machine.storage passage.discarded.machine.storage := by
    rw [changed]
    exact .setFile trivial _ _
  have discardSpared : Observed.Spared passage.refreshed passage.discarded := by
    rw [discardSeen]
    exact ⟨rfl, rfl⟩
  refine ⟨refreshed.trans (discarded.trans (.of_eq released)), ?_,
    (refreshedSpared.trans discardSpared).trans releasedSpared⟩
  rw [released]
  exact gone

/-- After the write the slot is recorded and made active, and at most one entry is added to the history. -/
theorem settles :
    ∃ time, final.machine.storage.bootState = some ⟨passage.state.activeSlot.other, updater.maxBootCount⟩ ∧
      final.machine.storage.record =
        (passage.written.machine.storage.setRecord passage.state.activeSlot.other
          (some ⟨passage.state.activeSlot.other, passage.tree.rootHash.hex, time⟩)).record ∧
      final.machine.storage.bytes = passage.written.machine.storage.bytes ∧
      (final.machine.storage.history = passage.written.machine.storage.history ∨
        ∃ later, final.machine.storage.history = passage.written.machine.storage.history ++
          [⟨later, .success, passage.state.activeSlot.other⟩]) ∧
      final.machine.storage.files passage.artifact.staged.path = none ∧
      Observed.Spared passage.written final := by
  obtain ⟨time, enrolled, rfl, committed, enrolledSpared⟩ := passage.enrolls
  obtain ⟨rest, gone, restSpared⟩ := passage.finishes
  have spared := enrolledSpared.trans restSpared
  refine ⟨time, ?_⟩
  rw [rest.bootState, rest.record, rest.bytes, rest.history]
  obtain same | ⟨later, added⟩ := committed
  · rw [same]
    exact ⟨rfl, rfl, rfl, .inl rfl, gone, spared⟩
  · rw [added]
    exact ⟨rfl, rfl, rfl, .inr ⟨later, rfl⟩, gone, spared⟩

end Passage

/-- What an update that succeeded has installed, and what it has left of the rest. -/
structure Installed (updater : Updater) (peripherals : Peripherals) (source : Source) (name : String)
    (start : Observed) (report : UpdateReport) (final : Observed) (image : Bytes)
    (metadata : Metadata) : Prop where
  delivered : (peripherals.offers source name).drain = (image, none)
  described : ∃ text, Artifact.sidecarText (peripherals.offers source (name ++ ".verity")) = .ok text ∧
    Metadata.parse text = .ok metadata
  valid : (metadata.params updater.treeParams).validate = .ok ()
  size : report.imageSize = image.length
  root : report.rootHash =
    (HashTree.ofImage updater.hash (metadata.params updater.treeParams) image).rootHash
  passive : start.machine.storage.active? = some report.previousSlot
  target : report.activeSlot = report.previousSlot.other
  handed : ∃ stream : Stream, stream.Carries image ∧
    final.writes = start.writes ++ [(report.activeSlot, stream)] ∧
    peripherals.stores stream (start.machine.storage.bytes report.activeSlot)
      (final.machine.storage.bytes report.activeSlot)
  readBack : ((final.machine.storage.bytes report.activeSlot).take report.imageSize).length =
      report.imageSize ∧
    (HashTree.ofImage updater.hash (metadata.params updater.treeParams)
      ((final.machine.storage.bytes report.activeSlot).take report.imageSize)).rootHash = report.rootHash
  state : final.machine.storage.bootState = some ⟨report.activeSlot, updater.maxBootCount⟩
  record : ∃ time, final.machine.storage.record report.activeSlot =
    some ⟨report.activeSlot, report.rootHash.hex, time⟩
  fallbackRecord : final.machine.storage.record report.previousSlot =
    start.machine.storage.record report.previousSlot
  fallbackBytes : final.machine.storage.bytes report.previousSlot =
    start.machine.storage.bytes report.previousSlot
  history : final.machine.storage.history = start.machine.storage.history ∨
    ∃ time, final.machine.storage.history =
      start.machine.storage.history ++ [⟨time, .success, report.activeSlot⟩]
  /-- One image was staged, and it is gone. -/
  unstaged : ∃ path, final.staged = start.staged ++ [path] ∧ final.machine.storage.files path = none

theorem installed_of_yields (honest : faults.Honest) {source : Source} {name : String}
    {report : UpdateReport}
    (ended : Task.Yields (Observed.answers faults peripherals) (updater.update source name) start report
      final) :
    ∃ image metadata, updater.Installed peripherals source name start report final image metadata := by
  obtain ⟨passage⟩ := passage_of_yields (Observed.answers_silent faults peripherals) ended
  obtain ⟨books, -, beginSpared⟩ := passage.begins
  obtain ⟨image, fetches⟩ := Observed.yields_fetch passage.fetching
  obtain ⟨summed, -, -⟩ := passage.checks
  obtain ⟨metadata, described, valid, tree⟩ :=
    Observed.yields_verifyIntegrity passage.integrity (summed ▸ fetches.contents)
  obtain ⟨masked, before, cleared, contents, preparedSpared⟩ := passage.prepares fetches
  obtain ⟨stream, carries, writes, stagedKept, stores⟩ :=
    Observed.yields_writeSlot passage.writing contents
  obtain ⟨bytes, written⟩ := Task.Yields.holds (Observed.ends_machine passage.writing)
    (safe_writeSlot fun _ => trivial)
  obtain ⟨length, root⟩ :=
    yields_verifyWritten honest described (Observed.ends_machine passage.readingBack)
  obtain ⟨time, bootState, record, slotBytes, history, gone, settledSpared⟩ := passage.settles
  have different : passage.state.activeSlot ≠ passage.state.activeSlot.other :=
    passage.state.activeSlot.other_ne.symm
  have size : passage.tree.imageSize = passage.artifact.imageSize := by
    rw [tree, fetches.size]
    rfl
  rw [passage.reported]
  refine ⟨image, metadata, {
    delivered := fetches.delivered
    described := ⟨_, fetches.metadata, described⟩
    valid
    size := fetches.size
    root := congrArg HashTree.rootHash tree
    passive := congrArg (Option.map BootState.activeSlot) books
    target := rfl
    handed := ⟨stream, carries, ?writes, ?stores⟩
    readBack := ?readBack
    state := bootState
    record := ⟨time, ?record⟩
    fallbackRecord := ?fallbackRecord
    fallbackBytes := ?fallbackBytes
    history := ?history
    unstaged := ⟨_, ?staged, gone⟩ }⟩
  case writes =>
    rw [settledSpared.writes, writes, preparedSpared.writes, fetches.writes, beginSpared.writes]
  case stores =>
    have was : passage.cleared.machine.storage.bytes = start.machine.storage.bytes := by
      rw [cleared]
      exact before.bytes
    rw [slotBytes, ← was]
    exact stores
  case readBack =>
    rw [slotBytes, ← size]
    exact ⟨length, root⟩
  case record =>
    rw [record]
    exact Storage.record_setRecord_self _ _ _
  case fallbackRecord =>
    rw [record, written, cleared, ← before.record]
    exact (Storage.record_setRecord_of_ne different _ _).trans
      (Storage.record_setRecord_of_ne different masked none)
  case fallbackBytes =>
    rw [slotBytes, written, cleared, ← before.bytes]
    exact Storage.bytes_setBytes_of_ne different _ _
  case history =>
    have same : passage.written.machine.storage.history = start.machine.storage.history := by
      rw [written, cleared]
      exact before.history
    rw [← same]
    exact history
  case staged =>
    rw [settledSpared.staged, stagedKept, preparedSpared.staged, fetches.staged, beginSpared.staged]

/-- An update that succeeded has handed the image of the source to the slot that was not active, once, and
that slot is active, with all its boot attempts and the root hash of the image on record. The slot
begins with the image, unless two of the strings that were hashed for the trees of either collide.
Nothing else of the books and the slots has changed but at most one entry of the history, and the
image is staged no longer. -/
theorem update_installs (honest : faults.Honest) {source : Source} {name : String}
    {report : UpdateReport}
    (ended : Task.Yields (Observed.answers faults peripherals) (updater.update source name) start report
      final) :
    ∃ image metadata, updater.Installed peripherals source name start report final image metadata ∧
      ((final.machine.storage.bytes report.activeSlot).take report.imageSize = image ∨
        Collides updater.hash
          (HashTree.hashedStrings updater.hash (metadata.params updater.treeParams)
              ((final.machine.storage.bytes report.activeSlot).take report.imageSize) ++
            HashTree.hashedStrings updater.hash (metadata.params updater.treeParams) image)) := by
  obtain ⟨image, metadata, installed⟩ := installed_of_yields honest ended
  obtain ⟨length, root⟩ := installed.readBack
  refine ⟨image, metadata, installed, HashTree.image_eq_or_collides installed.valid ?_ ?_⟩
  · rw [length, installed.size]
  · rw [root, installed.root]

/-- A small updater that takes an image for those with the same sum. -/
def weighing : Updater :=
  { small with hash := fun bytes => ⟨bytes.foldl (· + ·) 0 :: List.replicate 31 0, rfl⟩ }

/-- A source with an image of one byte, and slots that are written over from their beginning. -/
def plainOutfit : Outfit where
  offers _ name := if name = "i" then [1] else Bytes.ofString (weighing.hash [1]).hex
  stores image before := image ++ before.drop image.length

def weighedUpdate : Except UpdateFailure UpdateReport × Observed :=
  (weighing.update (.directory ⟨"/d"⟩) "i").run.run plainOutfit.answer (.ofMachine (.running .a))

private theorem weighedUpdate_succeeds :
    weighedUpdate.1.toOption.map UpdateReport.activeSlot = some .b := by
  decide +kernel

/-- The image of one byte was handed to slot B, and no other to any. -/
theorem update_installs_weighed :
    ∃ report stream, weighedUpdate.1.toOption = some report ∧
      weighedUpdate.2.writes = [(.b, stream)] ∧ stream.Carries [1] ∧
      weighedUpdate.2.machine.storage.bootState = some ⟨.b, 3⟩ := by
  obtain ⟨report, went, named⟩ := Option.map_eq_some_iff.1 weighedUpdate_succeeds
  have ended : Task.Yields (Observed.answers Outfit.faults plainOutfit.peripherals)
      (weighing.update (.directory ⟨"/d"⟩) "i") (.ofMachine (.running .a)) report weighedUpdate.2 :=
    Task.yields_run plainOutfit.sound went
  obtain ⟨image, metadata, installed, -⟩ := update_installs Outfit.faults_honest ended
  obtain ⟨stream, carries, writes, -⟩ := installed.handed
  have one : image = [1] := (Stream.Carries.ofBytes [1]).drain installed.delivered
  have state := installed.state
  rw [named] at writes state
  exact ⟨report, stream, went, writes, one ▸ carries, state⟩

end Updater

end DualSlot
