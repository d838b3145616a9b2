import DualSlot.Proofs.MenuFiles
import DualSlot.Proofs.Results
import DualSlot.Proofs.TreeLayout
import DualSlot.Proofs.Verdict

/-! Which artifacts pass the checks, said of what the source delivers and in no order: the image is the one
that the two files beside it speak of. -/

namespace DualSlot

/-- The beginning of a stream that opens is the text, as far as a small file is read. -/
def DeliversText (offered : Except IoError Stream) (text : String) : Prop :=
  ∃ stream, offered = .ok stream ∧
    (stream.take Artifact.sidecarLimit).contents = .ok (Bytes.ofString text)

def DeliversImage (offered : Except IoError Stream) (image : Bytes) : Prop :=
  ∃ stream, offered = .ok stream ∧ stream.contents = .ok image

theorem sidecarText_eq_ok_iff {stream : Stream} {text : String} :
    Artifact.sidecarText stream = .ok text ↔
      (stream.take Artifact.sidecarLimit).contents = .ok (Bytes.ofString text) := by
  unfold Artifact.sidecarText
  cases (stream.take Artifact.sidecarLimit).contents with
  | error cause => exact iff_of_false nofun nofun
  | ok bytes =>
    rw [Except.ok.injEq, ← Bytes.text?_eq_some_iff]
    cases decoded : bytes.text? with
    | none =>
      refine iff_of_false ?_ nofun
      simp [bind, Except.bind, decoded]
    | some found => simp [bind, Except.bind, decoded, pure, Except.pure]

theorem Delivery.text_eq_ok_iff {name text : String} {offered : Except IoError Stream} :
    Delivery.text name offered = .ok text ↔ DeliversText offered text := by
  rw [Delivery.text, Except.mapError_eq_ok_iff]
  refine Except.bind_eq_ok_iff.trans ?_
  simp only [sidecarText_eq_ok_iff, DeliversText]

theorem Delivery.bytes_eq_ok_iff {name : String} {offered : Except IoError Stream} {image : Bytes} :
    Delivery.bytes name offered = .ok image ↔ DeliversImage offered image := by
  rw [Delivery.bytes, Except.mapError_eq_ok_iff]
  exact Except.bind_eq_ok_iff

theorem Delivery.fetch_eq_ok_iff {offers : String → Except IoError Stream} {name : String}
    {delivery : Delivery} :
    Delivery.fetch offers name = .ok delivery ↔
      DeliversText (offers (name ++ ".sha256")) delivery.checksumText ∧
      DeliversText (offers (name ++ ".verity")) delivery.metadataText ∧
      DeliversImage (offers name) delivery.image := by
  simp only [Delivery.fetch, Except.bind_eq_ok_iff, text_eq_ok_iff, bytes_eq_ok_iff]
  constructor
  · rintro ⟨checksumText, checksum, metadataText, metadata, image, delivered, ⟨⟩⟩
    exact ⟨checksum, metadata, delivered⟩
  · rintro ⟨checksum, metadata, delivered⟩
    exact ⟨_, checksum, _, metadata, _, delivered, rfl⟩

/-- The first word of a text spells the digest, in either case. -/
def Spells (text : String) (digest : Digest) : Prop :=
  ∃ word rest, Text.words text.toList = word :: rest ∧ word.map Char.toLower = digest.hex.toList

theorem parseChecksum_eq_ok_iff {text : String} {digest : Digest} :
    parseChecksum text = .ok digest ↔ Spells text digest := by
  unfold parseChecksum Spells
  cases cut : Text.words text.toList with
  | nil => exact iff_of_false nofun nofun
  | cons word rest =>
    have solid : ∀ c ∈ word, Text.isBlank c = false :=
      Text.solid_of_mem_words (cut ▸ List.mem_cons_self)
    dsimp only
    rw [Except.mapError_eq_ok_iff, Digest.parseChars_eq_ok_iff, Text.trim_eq_self solid]
    simp

namespace Updater

variable {updater : Updater} {offers : String → Except IoError Stream} {name : String}

theorem checksumVerdict_eq_ok_iff {text : String} {image : Bytes} {passed : Unit} :
    updater.checksumVerdict text (.ofBytes image) = .ok passed ↔
      parseChecksum text = .ok (updater.hash image) := by
  unfold checksumVerdict
  rw [Stream.contents_ofBytes]
  cases parseChecksum text with
  | error cause => exact iff_of_false nofun nofun
  | ok expected =>
    dsimp only
    split
    next differs => exact iff_of_false nofun fun same => differs (Except.ok.inj same)
    next agrees => exact iff_of_true rfl (congrArg Except.ok (not_not.1 agrees))

theorem integrityVerdict_eq_ok_iff {text : String} {image : Bytes} {tree : HashTree} :
    updater.integrityVerdict text (.ofBytes image) = .ok tree ↔
      ∃ metadata, Metadata.parse text = .ok metadata ∧
        (metadata.params updater.treeParams).validate = .ok () ∧
        tree = .ofImage updater.hash (metadata.params updater.treeParams) image ∧
        (∀ count ∈ metadata.dataBlocks, count = tree.dataBlocks) ∧
        metadata.rootHash = tree.rootHash := by
  unfold integrityVerdict
  cases Metadata.parse text with
  | error cause => simp
  | ok metadata =>
    simp only [Except.ok.injEq, exists_eq_left']
    cases valid : (metadata.params updater.treeParams).validate with
    | error cause => simp
    | ok _ =>
      rw [HashTree.build_ofBytes valid]
      dsimp only
      cases unlike : metadata.dataBlocks.filter
          (· ≠ (HashTree.ofImage updater.hash (metadata.params updater.treeParams) image).dataBlocks) with
      | some described =>
        obtain ⟨given, differs⟩ := Option.filter_eq_some_iff.1 unlike
        refine iff_of_false nofun ?_
        rintro ⟨-, rfl, counted, -⟩
        exact of_decide_eq_true differs (counted described given)
      | none =>
        have counted := Option.filter_eq_none_iff.1 unlike
        simp only [decide_eq_true_eq, not_not] at counted
        dsimp only
        split
        next same =>
          refine ⟨?_, ?_⟩
          · rintro ⟨⟩
            exact ⟨rfl, rfl, counted, same.symm⟩
          · rintro ⟨-, rfl, -, -⟩
            rfl
        next different =>
          refine iff_of_false nofun ?_
          rintro ⟨-, rfl, -, root⟩
          exact different root.symm

/-- What checking an image comes to once it is at hand. -/
def examination (updater : Updater) (delivery : Delivery) : Except UpdateFailure HashTree := do
  (updater.checksumVerdict delivery.checksumText (.ofBytes delivery.image)).mapError
    (Progress.fail ⟨.fetching, .nothingTouched⟩ .checksumVerified)
  (updater.integrityVerdict delivery.metadataText (.ofBytes delivery.image)).mapError
    (Progress.fail ⟨.checksumVerified, .nothingTouched⟩ .integrityVerified)

/-- What fetching an artifact and checking it comes to. -/
def inspection (updater : Updater) (offers : String → Except IoError Stream) (name : String) :
    Except UpdateFailure (Delivery × HashTree) := do
  let delivery ← (Delivery.fetch offers name).mapError (Progress.start.fail .fetching)
  let tree ← updater.examination delivery
  return (delivery, tree)

/-- What is known of an artifact that is checked: the image, the texts beside it, what these say of the
tree, and the tree with its levels. -/
structure Dossier where
  delivery : Delivery
  metadata : Metadata
  levels : List (List Bytes)
  tree : HashTree

/-- The artifact is what the files beside it say. -/
structure Accepts (updater : Updater) (offers : String → Except IoError Stream) (name : String)
    (dossier : Dossier) : Prop where
  checksumText : DeliversText (offers (name ++ ".sha256")) dossier.delivery.checksumText
  metadataText : DeliversText (offers (name ++ ".verity")) dossier.delivery.metadataText
  image : DeliversImage (offers name) dossier.delivery.image
  checksum : Spells dossier.delivery.checksumText (updater.hash dossier.delivery.image)
  described : Metadata.parse dossier.delivery.metadataText = .ok dossier.metadata
  valid : (dossier.metadata.params updater.treeParams).validate = .ok ()
  tree : HashTree.LaidOut updater.hash (dossier.metadata.params updater.treeParams)
    dossier.delivery.image dossier.levels dossier.tree
  dataBlocks : ∀ count ∈ dossier.metadata.dataBlocks, count = dossier.tree.dataBlocks
  rootHash : dossier.metadata.rootHash = dossier.tree.rootHash

/-- The values that are reported of an artifact that was accepted. -/
def Dossier.report (dossier : Dossier) (updater : Updater) (name : String) : VerifyReport where
  image := name
  imageSize := dossier.delivery.image.length
  checksum := updater.hash dossier.delivery.image
  rootHash := dossier.metadata.rootHash
  dataBlocks := HashTree.groupCount
    (dossier.metadata.params updater.treeParams).dataBlockSize dossier.delivery.image

theorem inspection_eq_ok_iff {delivery : Delivery} {tree : HashTree} :
    updater.inspection offers name = .ok (delivery, tree) ↔
      ∃ metadata levels, updater.Accepts offers name ⟨delivery, metadata, levels, tree⟩ := by
  simp only [inspection, examination, Except.bind_eq_ok_iff, Except.mapError_eq_ok_iff,
    Delivery.fetch_eq_ok_iff, checksumVerdict_eq_ok_iff, parseChecksum_eq_ok_iff,
    integrityVerdict_eq_ok_iff]
  constructor
  · rintro ⟨_, ⟨checksumText, metadataText, image⟩, _, ⟨_, checksum, metadata, described, valid, built,
      dataBlocks, rootHash⟩, ⟨⟩⟩
    obtain ⟨levels, laid, -⟩ := HashTree.ofImage_laidOut updater.hash valid delivery.image
    rw [← built] at laid
    exact ⟨metadata, levels, checksumText, metadataText, image, checksum, described, valid, laid,
      dataBlocks, rootHash⟩
  · rintro ⟨metadata, levels, accepted⟩
    obtain ⟨_, laid, -⟩ := HashTree.ofImage_laidOut updater.hash accepted.valid delivery.image
    refine ⟨delivery, ⟨accepted.checksumText, accepted.metadataText, accepted.image⟩, tree, ⟨(),
      accepted.checksum, metadata, accepted.described, accepted.valid, ?_, accepted.dataBlocks,
        accepted.rootHash⟩, rfl⟩
    exact (accepted.tree.unique laid).2

/-- An inspection fails on the way to a stage, before the integrity of the image is established and
anything is touched. -/
theorem inspection_eq_error {failure : UpdateFailure}
    (failed : updater.inspection offers name = .error failure) :
    ∃ progress next cause, failure = Progress.fail progress next cause ∧ progress.impact = .nothingTouched ∧
      progress.lastCompleted ∈ [Stage.idle, .fetching, .checksumVerified] := by
  have told {β : Type} {progress : Progress} {next : Stage} {result : Except Failure β}
      (refused : result.mapError (progress.fail next) = .error failure) :
      ∃ cause, failure = progress.fail next cause := by
    obtain ⟨cause, -, rfl⟩ := Except.mapError_eq_error_iff.1 refused
    exact ⟨cause, rfl⟩
  simp only [inspection, examination, Except.bind_eq_error_iff] at failed
  rcases failed with fetching | ⟨delivery, -, (summing | ⟨_, -, checking⟩) | ⟨tree, -, impossible⟩⟩
  · obtain ⟨cause, same⟩ := told fetching
    exact ⟨_, _, cause, same, rfl, by decide⟩
  · obtain ⟨cause, same⟩ := told summing
    exact ⟨_, _, cause, same, rfl, by decide⟩
  · obtain ⟨cause, same⟩ := told checking
    exact ⟨_, _, cause, same, rfl, by decide⟩
  · cases impossible

/-- A checksum that has passed can be read, so an artifact that passes the inspection is reported. -/
theorem verdict_eq (updater : Updater) (offers : String → Except IoError Stream) (name : String) :
    updater.verdict offers name = (updater.inspection offers name).map fun (delivery, tree) =>
      ⟨name, delivery.image.length, updater.hash delivery.image, tree.rootHash, tree.dataBlocks⟩ := by
  unfold verdict inspection examination deliveryVerdict
  cases Delivery.fetch offers name with
  | error cause => rfl
  | ok delivery =>
    simp only [bind, Except.bind, Except.mapError]
    cases summed : updater.checksumVerdict delivery.checksumText (.ofBytes delivery.image) with
    | error cause => rfl
    | ok _ =>
      simp only [checksumVerdict_eq_ok_iff.1 summed]
      cases updater.integrityVerdict delivery.metadataText (.ofBytes delivery.image) <;> rfl

theorem verdict_eq_ok_iff {report : VerifyReport} :
    updater.verdict offers name = .ok report ↔
      ∃ dossier, updater.Accepts offers name dossier ∧ report = dossier.report updater name := by
  rw [verdict_eq]
  constructor
  · intro passed
    cases inspected : updater.inspection offers name with
    | error failure =>
      rw [inspected] at passed
      cases passed
    | ok found =>
      rw [inspected] at passed
      cases passed
      obtain ⟨metadata, levels, accepted⟩ := inspection_eq_ok_iff.1 inspected
      refine ⟨_, accepted, ?_⟩
      rw [Dossier.report, accepted.rootHash, ← accepted.tree.dataBlocks]
  · rintro ⟨⟨delivery, metadata, levels, tree⟩, accepted, rfl⟩
    rw [inspection_eq_ok_iff.2 ⟨metadata, levels, accepted⟩, Dossier.report, accepted.rootHash,
      ← accepted.tree.dataBlocks]
    rfl

end Updater

end DualSlot
