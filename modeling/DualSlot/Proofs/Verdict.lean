import DualSlot.Proofs.Custody

/-! What verifying an artifact comes to, as a function of what its source delivers. It is that as long as
the image that was staged is found again whenever it is opened. -/

namespace DualSlot

/-- What the sources deliver when one of their streams is opened. -/
abbrev Offers := Source → String → Except IoError Stream

/-- An image as it was delivered, with the texts beside it. -/
structure Delivery where
  checksumText : String
  metadataText : String
  image : Bytes

namespace Delivery

/-- The text of a small file. -/
def text (name : String) (offered : Except IoError Stream) : Except Failure String :=
  (offered.bind Artifact.sidecarText).mapError (.download name)

def bytes (name : String) (offered : Except IoError Stream) : Except Failure Bytes :=
  (offered.bind Stream.contents).mapError (.download name)

def fetch (offers : String → Except IoError Stream) (name : String) : Except Failure Delivery := do
  let checksumText ← text (name ++ ".sha256") (offers (name ++ ".sha256"))
  let metadataText ← text (name ++ ".verity") (offers (name ++ ".verity"))
  let image ← bytes name (offers name)
  return { checksumText, metadataText, image }

end Delivery

namespace Updater

variable (updater : Updater)

/-- Whether an image that is read as this stream has the checksum that is written beside it. -/
def checksumVerdict (checksumText : String) (image : Stream) : Except Failure Unit :=
  match image.contents with
  | .error cause => .error (.verification (.unreadable cause))
  | .ok bytes =>
    let mismatch : Failure := .checksumMismatch (checksumWord checksumText) (updater.hash bytes)
    match parseChecksum checksumText with
    | .ok expected => if expected ≠ updater.hash bytes then .error mismatch else .ok ()
    | .error _ => .error mismatch

/-- Whether an image that is read as this stream has the tree that is described beside it. -/
def integrityVerdict (metadataText : String) (image : Stream) : Except Failure HashTree :=
  match Metadata.parse metadataText with
  | .error cause => .error (.integrityMismatch (.metadata cause))
  | .ok metadata =>
    match (metadata.params updater.treeParams).validate with
    | .error cause => .error (.integrityMismatch (.params cause))
    | .ok () =>
      match HashTree.build updater.hash (metadata.params updater.treeParams) image with
      | .error cause => .error (.verification (.tree cause))
      | .ok tree =>
        match metadata.dataBlocks.filter (· ≠ tree.dataBlocks) with
        | some described => .error (.integrityMismatch (.dataBlocks described tree.dataBlocks))
        | none =>
          if tree.rootHash = metadata.rootHash then .ok tree
          else .error (.integrityMismatch (.rootHash metadata.rootHash tree.rootHash))

/-- What verifying an image comes to once it is at hand. -/
def deliveryVerdict (name : String) (delivery : Delivery) : Except UpdateFailure VerifyReport := do
  (updater.checksumVerdict delivery.checksumText (.ofBytes delivery.image)).mapError
    (Progress.fail ⟨.fetching, .nothingTouched⟩ .checksumVerified)
  let tree ← (updater.integrityVerdict delivery.metadataText (.ofBytes delivery.image)).mapError
    (Progress.fail ⟨.checksumVerified, .nothingTouched⟩ .integrityVerified)
  let checksum ← (parseChecksum delivery.checksumText).mapError fun cause =>
    Progress.fail ⟨.integrityVerified, .nothingTouched⟩ .checksumVerified (.verification (.sidecar cause))
  return {
    image := name, imageSize := delivery.image.length, checksum, rootHash := tree.rootHash,
    dataBlocks := tree.dataBlocks }

/-- What verifying an artifact comes to, by what its source delivers. -/
def verdict (offers : String → Except IoError Stream) (name : String) :
    Except UpdateFailure VerifyReport := do
  let delivery ← (Delivery.fetch offers name).mapError (Progress.start.fail .fetching)
  updater.deliveryVerdict name delivery

end Updater

/-- The part of a stream that is wanted of it. -/
def Opened.cut (opened : Opened) (stream : Stream) : Stream :=
  match opened.limit with
  | none => stream
  | some limit => stream.take limit

/-- What one operation has staged, with what it put there, and what its open streams deliver. -/
structure View where
  staged? : Option (Staged × Bytes)
  reading : Handle → Option Stream

namespace View

def kept (view : View) : Option Staged := view.staged?.map Prod.fst

def opening (view : View) (file : Handle) (stream : Stream) : View :=
  { view with reading := Function.update view.reading file (some stream) }

theorem reading_opening_self (view : View) (file : Handle) (stream : Stream) :
    (view.opening file stream).reading file = some stream :=
  Function.update_self ..

theorem reading_opening_of_ne {file other : Handle} (different : other ≠ file) (view : View)
    (stream : Stream) : (view.opening file stream).reading other = view.reading other :=
  Function.update_of_ne different _ _

/-- The replies that an operation gets as long as it finds again what it has staged. -/
def answers (offers : Offers) : Surroundings actions View
  | .openSource source name, before, reply, after =>
    match offers source name with
    | .error cause => reply = .error cause ∧ after = before
    | .ok stream => ∃ file, reply = .ok ⟨file, none⟩ ∧ after = before.opening file stream
  | .openStaged staged, before, reply, after =>
    ∀ bytes, before.staged? = some (staged, bytes) →
      ∃ file, reply = .ok ⟨file, none⟩ ∧ after = before.opening file (.ofBytes bytes)
  | .receive opened _, before, stream, after =>
    after = before ∧
      ∀ delivered, before.reading opened.file = some delivered → stream = opened.cut delivered
  | .stage _, before, reply, after =>
    ∃ staged, reply = .ok staged ∧ after = { before with staged? := some (staged, []) }
  | .fill staged image, before, reply, after =>
    ∀ old delivered, before.staged? = some (staged, old) → before.reading image.file = some delivered →
      reply = (image.cut delivered).contents.map List.length ∧
        after = ⟨some (staged, (image.cut delivered).drain.1), fun _ => none⟩
  | .discard _, before, _, after => after = { before with staged? := none }
  | .cancelled, before, reply, after => reply = false ∧ after = before
  | .log _ _ _, before, _, after => after = before
  | _, _, _, _ => True

abbrev Safe (offers : Offers) (post : α → View → Prop) (program : Acting α) (view : View) : Prop :=
  Program.Safe (answers offers) (fun action view => action.Tends view.kept) post program view

variable {offers : Offers} {view : View} {α ε : Type}

instance : Silent (answers offers) (fun action view => action.Tends view.kept) where
  allowed _ _ _ _ := trivial
  same _ _ _ _ _ _ answer := answer

/-- What opening a source's stream comes to, by what the source offers. -/
inductive Opens (view : View) : Except IoError Stream → Except IoError Opened → View → Prop where
  | refused {cause} : Opens view (.error cause) (.error cause) view
  | opened {file stream} : Opens view (.ok stream) (.ok ⟨file, none⟩) (view.opening file stream)

theorem safe_openSource {source : Source} {name : String} :
    Safe offers (Opens view (offers source name)) (Artifact.openSource source name).run view := by
  refine Acting.safe_ask (.openSource source name) trivial fun reply after answer => ?_
  simp only [answers] at answer
  split at answer
  · next refused =>
    obtain ⟨rfl, rfl⟩ := answer
    exact refused ▸ .refused
  · next granted =>
    obtain ⟨file, rfl, rfl⟩ := answer
    exact granted ▸ .opened

theorem safe_receive {file : Handle} {stream : Stream} {purpose : Purpose} :
    Safe offers (fun received after => received = stream ∧ after = view.opening file stream)
      (Action.perform (.receive ⟨file, none⟩ purpose)) (view.opening file stream) := by
  refine Acting.safe_ask (.receive ⟨file, none⟩ purpose) trivial fun received after answer => ?_
  exact ⟨answer.2 stream (view.reading_opening_self file stream), answer.1⟩

theorem safe_readSidecar {source : Source} {name : String} :
    Safe offers (fun result after => result = Delivery.text name (offers source name) ∧
      after.staged? = view.staged?) (Artifact.readSidecar source name).run view := by
  refine Task.safe_adapt (Task.Safe.bind safe_openSource ?_ ?_)
  · intro cause after opens
    generalize offers source name = offered at opens
    cases opens
    exact ⟨rfl, rfl⟩
  · intro opened after opens
    generalize offers source name = offered at opens
    cases opens with
    | opened =>
      refine Task.Safe.lift_bind safe_receive ?_
      rintro _ _ ⟨rfl, rfl⟩
      rename_i stream
      rw [show Delivery.text name (.ok stream) = (Artifact.sidecarText stream).mapError (.download name) from rfl]
      cases Artifact.sidecarText stream <;> exact .done ⟨rfl, rfl⟩

theorem contents_eq_ok {stream : Stream} {bytes : Bytes} (whole : stream.contents = .ok bytes) :
    stream.drain.1 = bytes := by
  unfold Stream.contents at whole
  split at whole
  · next drained =>
    rw [drained]
    exact Except.ok.inj whole
  · cases whole

/-- The image is staged as it was delivered, or nothing is. -/
theorem safe_stageImage {source : Source} {name : String} {dir : Path} (empty : view.staged? = none) :
    Safe offers (fun result after =>
      match (offers source name).bind Stream.contents with
      | .error cause => result = .error cause
      | .ok bytes => ∃ staged, result = .ok (staged, bytes.length) ∧ after.staged? = some (staged, bytes))
      (Artifact.stageImage source name dir).run view := by
  have unstaged : view.kept = none := by rw [kept, empty]; rfl
  refine Task.Safe.bind (Q := fun result after =>
    ∃ staged, result = .ok staged ∧ after = { view with staged? := some (staged, []) }) ?_ ?_ ?_
  · refine Task.safe_of (Acting.safe_ask (.stage dir) unstaged fun reply after answer => ?_)
    obtain ⟨staged, rfl, rfl⟩ := answer
    exact ⟨staged, rfl, rfl⟩
  · rintro cause after ⟨staged, impossible, -⟩
    cases impossible
  · rintro staged _ ⟨_, same, rfl⟩
    obtain rfl := Except.ok.inj same
    have copies : Safe offers (fun result after =>
        result = ((offers source name).bind Stream.contents).map List.length ∧
          (after.kept = some staged) ∧
          ∀ bytes, (offers source name).bind Stream.contents = .ok bytes →
            after.staged? = some (staged, bytes)) (do
        let image ← Artifact.openSource source name
        Task.of id (Action.perform (.fill staged image)) : Task IoError Nat).run
        { view with staged? := some (staged, []) } := by
      refine Task.Safe.bind safe_openSource ?_ ?_
      · intro cause after opens
        generalize offers source name = offered at opens
        cases opens
        exact ⟨rfl, rfl, fun _ impossible => by cases impossible⟩
      · intro opened after opens
        generalize offers source name = offered at opens
        cases opens with
        | @opened file stream =>
          refine Task.safe_of (Acting.safe_ask (.fill staged ⟨file, none⟩) rfl fun reply after answer => ?_)
          obtain ⟨rfl, rfl⟩ := answer [] stream rfl (reading_opening_self ..)
          refine ⟨?_, rfl, fun bytes whole => ?_⟩
          · rw [Opened.cut, Except.bind]
            cases stream.contents <;> rfl
          · rw [← contents_eq_ok whole]
            rfl
    refine Task.Safe.lift_bind copies ?_
    rintro _ after ⟨rfl, isKept, holds⟩
    cases offered : (offers source name).bind Stream.contents with
    | ok bytes => exact .done ⟨staged, rfl, holds bytes offered⟩
    | error cause =>
      refine Task.Safe.lift_bind (Acting.safe_ask (.discard staged) isKept fun _ _ _ => trivial) ?_
      exact fun _ _ _ => .done rfl

/-- What fetching comes to, by what was delivered. -/
def Fetched (name : String) (delivered : Except Failure Delivery) (result : Except Failure Artifact)
    (after : View) : Prop :=
  match delivered with
  | .error cause => result = .error cause
  | .ok delivery => ∃ staged, after.staged? = some (staged, delivery.image) ∧ result = .ok
      ⟨name, staged, delivery.image.length, delivery.checksumText, delivery.metadataText⟩

theorem safe_fetch {source : Source} {name : String} {dir : Path} (empty : view.staged? = none) :
    Safe offers (Fetched name (Delivery.fetch (offers source) name))
      (Artifact.fetch source name dir).run view := by
  refine Task.safe_log_bind (Task.Safe.bind safe_readSidecar ?_ ?_)
  · rintro cause after ⟨refused, -⟩
    simp only [Delivery.fetch, ← refused]
    rfl
  rintro checksumText first ⟨checksum, same⟩
  refine Task.Safe.bind safe_readSidecar ?_ ?_
  · rintro cause after ⟨refused, -⟩
    simp only [Delivery.fetch, ← checksum, ← refused]
    rfl
  rintro metadataText second ⟨metadata, kept⟩
  have unstaged : second.staged? = none := kept.trans (same.trans empty)
  have staging : Safe offers _ (Artifact.stageImage source name dir).run second := safe_stageImage unstaged
  cases image : (offers source name).bind Stream.contents with
  | error cause =>
    have failed : Delivery.fetch (offers source) name = .error (.download name cause) := by
      simp only [Delivery.fetch, ← checksum, ← metadata, Delivery.bytes, image]
      rfl
    rw [image] at staging
    rw [failed]
    refine Task.Safe.bind (Q := fun result _ => result = .error (.download name cause))
      (Task.safe_adapt (Program.Safe.weaken staging fun _ _ refused => congrArg _ refused))
      (fun _ _ refused => ?_) fun _ _ impossible => ?_
    · rw [Except.error.inj refused]
      rfl
    · cases impossible
  | ok bytes =>
    have fetched : Delivery.fetch (offers source) name = .ok ⟨checksumText, metadataText, bytes⟩ := by
      simp only [Delivery.fetch, ← checksum, ← metadata, Delivery.bytes, image]
      rfl
    rw [image] at staging
    rw [fetched]
    refine Task.Safe.bind (Q := fun result after => ∃ staged, result = .ok (staged, bytes.length) ∧
      after.staged? = some (staged, bytes)) (Task.safe_adapt (Program.Safe.weaken staging
        fun _ _ ⟨staged, granted, holds⟩ => ⟨staged, congrArg _ granted, holds⟩)) ?_ ?_
    · rintro _ _ ⟨staged, impossible, -⟩
      cases impossible
    · rintro _ after ⟨staged, granted, holds⟩
      obtain rfl := Except.ok.inj granted
      exact Task.safe_log_bind (.done ⟨staged, holds, rfl⟩)

/-- Fetching fails as the delivery does, or what comes after it has the delivery, with its image staged. -/
theorem safe_fetching_bind {guard : Action → View → Prop} [Silent (answers offers) guard]
    (allowed : ∀ action state, action.Tends state.kept → guard action state) {source : Source} {name : String}
    {dir : Path} {rest : Artifact → Task UpdateFailure α} {post : Except UpdateFailure α → View → Prop}
    (empty : view.staged? = none)
    (refused : ∀ cause after, Delivery.fetch (offers source) name = .error cause →
      post (.error (Progress.start.fail .fetching cause)) after)
    (passed : ∀ delivery staged after, Delivery.fetch (offers source) name = .ok delivery →
      after.staged? = some (staged, delivery.image) → Program.Safe (answers offers) guard post
        (rest ⟨name, staged, delivery.image.length, delivery.checksumText, delivery.metadataText⟩).run after) :
    Program.Safe (answers offers) guard post
      (Progress.start.toward .fetching (Artifact.fetch source name dir) >>= rest).run view := by
  have fetching : Safe offers _ (Artifact.fetch source name dir).run view := safe_fetch empty
  cases fetched : Delivery.fetch (offers source) name with
  | error cause =>
    rw [fetched] at fetching
    refine Task.Safe.bind (Q := fun result _ => result = .error (Progress.start.fail .fetching cause))
      (Progress.safe_toward (fetching.mono allowed fun _ _ same => congrArg _ same))
      (fun _ after same => ?_) fun _ _ impossible => by cases impossible
    rw [Except.error.inj same]
    exact refused cause after fetched
  | ok delivery =>
    rw [fetched] at fetching
    refine Task.Safe.bind (Q := fun result after => ∃ staged,
      after.staged? = some (staged, delivery.image) ∧ result = .ok (Artifact.mk name staged
        delivery.image.length delivery.checksumText delivery.metadataText))
      (Progress.safe_toward (fetching.mono allowed ?_)) ?_ ?_
    · rintro _ _ ⟨staged, holds, granted⟩
      exact ⟨staged, holds, congrArg _ granted⟩
    · rintro _ _ ⟨staged, -, impossible⟩
      cases impossible
    · rintro _ after ⟨staged, holds, granted⟩
      obtain rfl := Except.ok.inj granted
      exact passed delivery staged after fetched holds

variable {updater : Updater} {artifact : Artifact} {bytes : Bytes}

theorem safe_openImage (staged : view.staged? = some (artifact.staged, bytes)) :
    Safe offers (fun result after => ∃ file, result = .ok ⟨file, none⟩ ∧
      after = view.opening file (.ofBytes bytes)) artifact.openImage.run view :=
  Acting.safe_ask (.openStaged artifact.staged) (by rw [kept, staged]; rfl)
    fun _ _ answer => answer bytes staged

/-- The staged image is opened and read. -/
theorem safe_readImage {purpose : Purpose} {reason : IoError → Failure}
    {next : (image : Opened) → (Action.receive image purpose).Reply → Task Failure α}
    {post : Except Failure α → View → Prop} (staged : view.staged? = some (artifact.staged, bytes))
    (rest : ∀ (image : Opened) (after : View), after.staged? = some (artifact.staged, bytes) →
      Safe offers post (next image (.ofBytes bytes)).run after) :
    Safe offers post (do
      let image ← artifact.openImage.adapt reason
      next image (← Action.perform (.receive image purpose))).run view := by
  refine Task.Safe.bind (Q := fun result after => ∃ file, result = .ok ⟨file, none⟩ ∧
    after = view.opening file (.ofBytes bytes)) (Task.safe_adapt (Program.Safe.weaken
      (safe_openImage staged) fun _ _ ⟨file, opened, same⟩ => ⟨file, congrArg _ opened, same⟩)) ?_ ?_
  · rintro _ _ ⟨file, impossible, -⟩
    cases impossible
  · rintro _ _ ⟨file, opened, rfl⟩
    obtain rfl := Except.ok.inj opened
    refine Task.Safe.lift_bind safe_receive ?_
    rintro _ _ ⟨rfl, rfl⟩
    exact rest _ _ staged

theorem safe_verifyChecksum (staged : view.staged? = some (artifact.staged, bytes)) :
    Safe offers (fun result after =>
      result = updater.checksumVerdict artifact.checksumText (.ofBytes bytes) ∧
        after.staged? = some (artifact.staged, bytes)) (updater.verifyChecksum artifact).run view := by
  unfold Updater.verifyChecksum Updater.checksumVerdict
  refine safe_readImage staged fun image after kept => ?_
  cases (Stream.ofBytes bytes).contents with
  | error cause => exact .done ⟨rfl, kept⟩
  | ok found =>
    simp only [Artifact.checksum]
    cases parseChecksum artifact.checksumText with
    | error cause => exact Task.safe_log_bind (.done ⟨rfl, kept⟩)
    | ok expected =>
      dsimp only
      split <;> exact .done ⟨rfl, kept⟩

theorem safe_verifyIntegrity (staged : view.staged? = some (artifact.staged, bytes)) :
    Safe offers (fun result after =>
      result = updater.integrityVerdict artifact.metadataText (.ofBytes bytes) ∧
        after.staged? = some (artifact.staged, bytes)) (updater.verifyIntegrity artifact).run view := by
  unfold Updater.verifyIntegrity Updater.integrityVerdict Artifact.metadata
  cases Metadata.parse artifact.metadataText with
  | error cause => exact .done ⟨rfl, staged⟩
  | ok metadata =>
    cases valid : (metadata.params updater.treeParams).validate with
    | error cause =>
      simp only [valid]
      exact .done ⟨rfl, staged⟩
    | ok _ =>
      simp only [valid]
      refine safe_readImage staged fun image after kept => ?_
      cases HashTree.build updater.hash (metadata.params updater.treeParams) (.ofBytes bytes) with
      | error cause => exact .done ⟨rfl, kept⟩
      | ok tree =>
        dsimp only
        cases filtered : metadata.dataBlocks.filter (· ≠ tree.dataBlocks) with
        | some described => exact .done ⟨rfl, kept⟩
        | none =>
          dsimp only
          split <;> exact .done ⟨rfl, kept⟩

/-- Nobody cancels. -/
theorem safe_unlessCancelled {progress : Progress} {next : Stage} :
    Safe offers (fun result after => result = .ok () ∧ after = view) (progress.unlessCancelled next).run
      view := by
  refine Progress.safe_toward (Task.Safe.lift_bind (Q := fun cancelled after => cancelled = false ∧ after = view)
    (Acting.safe_ask .cancelled trivial fun _ _ answer => answer) ?_)
  rintro _ _ ⟨rfl, rfl⟩
  exact .done ⟨rfl, rfl⟩

theorem ok_bind {β : Type} (value : α) (next : α → Except ε β) : (.ok value >>= next) = next value :=
  rfl

/-- A check of the staged image on the way to a stage, with its verdict. -/
theorem safe_check {progress : Progress} {next : Stage} {task : Task Failure α}
    {found : Except Failure α}
    (safe : Safe offers (fun result after => result = found ∧
      after.staged? = some (artifact.staged, bytes)) task.run view) :
    Safe offers (fun result after => result = found.mapError (progress.fail next) ∧
      after.staged? = some (artifact.staged, bytes)) (progress.toward next task).run view :=
  Progress.safe_toward (Program.Safe.weaken safe fun _ _ ⟨same, kept⟩ => ⟨congrArg _ same, kept⟩)

/-- Once an image is at hand, verifying it comes to its verdict, as long as it is found again. -/
theorem safe_verifyDelivery {delivery : Delivery} {name : String} {staged : Staged}
    (holds : view.staged? = some (staged, delivery.image)) :
    Safe offers (fun result after => result = updater.deliveryVerdict name delivery ∧
      after.staged? = some (staged, delivery.image))
      (do
        let progress ← Progress.start.reached .fetching
        progress.unlessCancelled .checksumVerified
        progress.toward .checksumVerified (updater.verifyChecksum
          ⟨name, staged, delivery.image.length, delivery.checksumText, delivery.metadataText⟩)
        let progress ← progress.reached .checksumVerified
        progress.unlessCancelled .integrityVerified
        let tree ← progress.toward .integrityVerified (updater.verifyIntegrity
          ⟨name, staged, delivery.image.length, delivery.checksumText, delivery.metadataText⟩)
        let progress ← progress.reached .integrityVerified
        progress.toward .checksumVerified do
          match parseChecksum delivery.checksumText with
          | .error cause => throw (.verification (.sidecar cause))
          | .ok checksum =>
            return ⟨name, delivery.image.length, checksum, tree.rootHash, tree.dataBlocks⟩
        : Task UpdateFailure VerifyReport).run view := by
  unfold Updater.deliveryVerdict
  refine Progress.safe_reached_bind (Task.Safe.bind safe_unlessCancelled
    (fun _ _ ⟨impossible, _⟩ => by cases impossible) ?_)
  rintro _ _ ⟨-, rfl⟩
  refine Task.Safe.bind (safe_check (safe_verifyChecksum holds)) ?_ ?_
  · rintro cause after ⟨refused, kept⟩
    exact ⟨congrArg (· >>= _) refused, kept⟩
  rintro _ summed ⟨passed, kept⟩
  have passed : .ok () = (updater.checksumVerdict delivery.checksumText (.ofBytes delivery.image)).mapError
      (Progress.fail ⟨.fetching, .nothingTouched⟩ .checksumVerified) := passed
  rw [← passed, ok_bind]
  refine Progress.safe_reached_bind (Task.Safe.bind safe_unlessCancelled
    (fun _ _ ⟨impossible, _⟩ => by cases impossible) ?_)
  rintro _ _ ⟨-, rfl⟩
  refine Task.Safe.bind (safe_check (safe_verifyIntegrity kept)) ?_ ?_
  · rintro cause after ⟨refused, kept⟩
    exact ⟨congrArg (· >>= _) refused, kept⟩
  rintro tree hashed ⟨passed, kept⟩
  have passed : .ok tree = (updater.integrityVerdict delivery.metadataText
      (.ofBytes delivery.image)).mapError
        (Progress.fail ⟨.checksumVerified, .nothingTouched⟩ .integrityVerified) := passed
  rw [← passed, ok_bind]
  refine Progress.safe_reached_bind (Progress.safe_toward ?_)
  cases parseChecksum delivery.checksumText <;> exact .done ⟨rfl, kept⟩

/-- Verifying an artifact comes to its verdict, as long as the staged image is found again. -/
theorem safe_verify {source : Source} {name : String} (empty : view.staged? = none) :
    Safe offers (fun result _ => result = updater.verdict (offers source) name)
      (updater.verify source name).run view := by
  refine Task.Safe.bind safe_unlessCancelled (fun _ _ ⟨impossible, _⟩ => by cases impossible) ?_
  rintro _ _ ⟨-, rfl⟩
  refine safe_fetching_bind (fun _ _ tends => tends) empty (fun cause _ failed => ?_)
    fun delivery staged after fetched holds => ?_
  · rw [Updater.verdict, failed]
    rfl
  · rw [Updater.verdict, fetched]
    refine Task.safe_followedBy (Program.Safe.weaken (safe_verifyDelivery holds) ?_)
    rintro result last ⟨same, kept⟩
    refine Acting.safe_ask (.discard staged) ?_ fun _ _ _ => same
    rw [View.kept, kept]
    rfl

end View

end DualSlot
