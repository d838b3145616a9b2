import DualSlot.Proofs.InstalledImage
import DualSlot.Proofs.PartitionWrites

/-! What is on a partition after an update, block by block. The tree of an image fills its last block
with zeros, but writing the image does not: whoever reads whole blocks finds what was there before. -/

namespace DualSlot

namespace HashTree

variable {hash : Bytes → Digest} {params : Params} {image whole : Bytes}

/-- What is stored behind so many bytes in the last of their blocks. -/
def Params.slack (params : Params) (length : Nat) (stored : Bytes) : Bytes :=
  (stored.take (params.span length)).drop length

theorem Params.blockCount_span (positive : 0 < params.dataBlockSize) (length : Nat) :
    (params.span length + params.dataBlockSize - 1) / params.dataBlockSize =
      (length + params.dataBlockSize - 1) / params.dataBlockSize := by
  rw [Params.span, Nat.add_sub_assoc positive, Nat.mul_comm, Nat.mul_add_div positive,
    Nat.div_eq_of_lt (Nat.sub_lt positive Nat.zero_lt_one), Nat.add_zero]

theorem Params.span_span (positive : 0 < params.dataBlockSize) (length : Nat) :
    params.span (params.span length) = params.span length :=
  congrArg (· * params.dataBlockSize) (blockCount_span positive length)

theorem length_of_mem_takeBlocks {size count : Nat} {items block : Bytes}
    (inside : block ∈ (takeBlocks size count items).map (Bytes.padded size)) : block.length = size := by
  induction count generalizing items with
  | zero => cases inside
  | succ count ih =>
    rw [takeBlocks, List.map_cons, List.mem_cons] at inside
    obtain rfl | later := inside
    · rw [Bytes.length_padded, List.length_take]
      omega
    · exact ih later

theorem map_length_imageBlocks (image : Bytes) :
    (imageBlocks params image).map List.length =
      List.replicate (imageBlocks params image).length params.dataBlockSize := by
  refine List.eq_replicate_iff.2 ⟨by rw [List.length_map], fun length inside => ?_⟩
  obtain ⟨block, blockIn, rfl⟩ := List.mem_map.1 inside
  exact length_of_mem_takeBlocks blockIn

theorem length_imageBlocks_whole (positive : 0 < params.dataBlockSize)
    (fits : whole.length = params.span image.length) :
    (imageBlocks params whole).length = (imageBlocks params image).length := by
  rw [length_imageBlocks, length_imageBlocks, fits, Params.blockCount_span positive]

/-- Whole blocks are those of an image exactly if zeros follow it. -/
theorem imageBlocks_eq_iff (positive : 0 < params.dataBlockSize)
    (fits : whole.length = params.span image.length) :
    imageBlocks params whole = imageBlocks params image ↔
      whole = Bytes.padded (params.span image.length) image := by
  have flat : (imageBlocks params image).flatten = Bytes.padded (params.span image.length) image :=
    imageBlocks_flatten positive image
  have filled : (imageBlocks params whole).flatten = whole := by
    rw [imageBlocks_flatten positive, fits, Params.span_span positive, Bytes.padded, fits, Nat.sub_self]
    exact List.append_nil _
  constructor
  · intro same
    rw [← filled, same, flat]
  · intro same
    -- Blocks of one size are the same if they are so in a row.
    refine List.eq_iff_flatten_eq.2 ⟨by rw [filled, flat, same], ?_⟩
    rw [map_length_imageBlocks, map_length_imageBlocks, length_imageBlocks_whole positive fits]

/-- An image that lies over the beginning of what was stored makes whole blocks of itself and what was
behind it in its last block. -/
theorem take_span_overwritten (positive : 0 < params.dataBlockSize) (image stored : Bytes) :
    (image ++ stored.drop image.length).take (params.span image.length) =
      image ++ params.slack image.length stored := by
  rw [List.take_append, List.take_of_length_le (Params.le_span positive _), Params.slack, List.drop_take]

theorem overwritten_eq_padded_iff {stored : Bytes}
    (room : params.span image.length ≤ stored.length) :
    image ++ params.slack image.length stored = Bytes.padded (params.span image.length) image ↔
      ∀ byte ∈ params.slack image.length stored, byte = 0 := by
  have length : (params.slack image.length stored).length = params.span image.length - image.length := by
    rw [Params.slack, List.length_drop, List.length_take, Nat.min_eq_left room]
  rw [Bytes.padded, List.append_right_inj, List.eq_replicate_iff]
  exact and_iff_right length

theorem verify_ofBytes (valid : params.validate = .ok ()) (expected : Digest) (bytes : Bytes) :
    verify hash params expected (.ofBytes bytes) =
      .ok (decide ((ofImage hash params bytes).rootHash = expected)) := by
  rw [verify, build_ofBytes valid]
  rfl

/-- Whole blocks have the root hash of an image if zeros follow it, and only then, unless two of the
strings that are hashed for them collide. -/
theorem verify_whole_blocks (valid : params.validate = .ok ())
    (fits : whole.length = params.span image.length) :
    (whole = Bytes.padded (params.span image.length) image →
      verify hash params (ofImage hash params image).rootHash (.ofBytes whole) = .ok true) ∧
    (verify hash params (ofImage hash params image).rootHash (.ofBytes whole) = .ok true →
      whole = Bytes.padded (params.span image.length) image ∨
        Collides hash (hashedStrings hash params whole ++ hashedStrings hash params image)) := by
  have positive := Params.dataBlockSize_pos valid
  have counts := length_imageBlocks_whole positive fits
  rw [verify_ofBytes valid]
  constructor
  · intro zeros
    have blocks := (imageBlocks_eq_iff positive fits).2 zeros
    have roots : (ofImage hash params whole).rootHash = (ofImage hash params image).rootHash := by
      simp only [ofImage, imageDigests, blocks]
    rw [decide_eq_true roots]
  · intro verified
    have roots : (ofImage hash params whole).rootHash = (ofImage hash params image).rootHash :=
      of_decide_eq_true (Except.ok.inj verified)
    exact (imageBlocks_eq_or_collides valid counts roots).imp_left (imageBlocks_eq_iff positive fits).1

end HashTree

namespace Updater

open HashTree

variable {updater : Updater} {faults : Faults} {peripherals : Peripherals} {start final : Observed}

/-- After an update that succeeded on partitions with room for whole blocks, those of the slot that is
active have the root hash on record if there were zeros on the partition behind the image, and only
then, unless two of the strings that are hashed for them and for the image collide. -/
theorem verifies_whole_blocks (honest : faults.Honest)
    (partitions : ∀ {image before after}, peripherals.stores image before after →
      Nonempty (Host.PartitionWrite image before after))
    {source : Source} {name : String} {report : UpdateReport}
    (ended : Task.Yields (Observed.answers faults peripherals) (updater.update source name) start report
      final) :
    ∃ image metadata, updater.Installed peripherals source name start report final image metadata ∧
      let params := metadata.params updater.treeParams
      let span := (ofImage updater.hash params image).dataBlocks * params.dataBlockSize
      let stored := start.machine.storage.bytes report.activeSlot
      let slack := (stored.take span).drop report.imageSize
      let whole := (final.machine.storage.bytes report.activeSlot).take span
      span ≤ stored.length →
        ((∀ byte ∈ slack, byte = 0) →
          HashTree.verify updater.hash params report.rootHash (.ofBytes whole) = .ok true) ∧
        (HashTree.verify updater.hash params report.rootHash (.ofBytes whole) = .ok true →
          (∀ byte ∈ slack, byte = 0) ∨ Collides updater.hash
            (hashedStrings updater.hash params whole ++ hashedStrings updater.hash params image)) := by
  obtain ⟨image, metadata, installed⟩ := installed_of_yields honest ended
  refine ⟨image, metadata, installed, ?_⟩
  intro params span stored slack whole room
  have positive : 0 < params.dataBlockSize := Params.dataBlockSize_pos installed.valid
  have spans : span = params.span image.length := dataBlocks_ofImage
  have behind : slack = params.slack image.length stored := by
    rw [Params.slack, ← spans, ← installed.size]
  have content : whole = image ++ params.slack image.length stored := by
    obtain ⟨stream, carries, -, stores⟩ := installed.handed
    obtain ⟨write⟩ := partitions stores
    obtain ⟨drained, overwritten⟩ := write.overwrites
    have arrived : stream.drain.1 = image := carries.drain (Prod.ext rfl drained)
    rw [arrived] at overwritten
    change (final.machine.storage.bytes report.activeSlot).take span = _
    rw [overwritten, spans]
    exact take_span_overwritten positive image stored
  rw [spans] at room
  have fits : whole.length = params.span image.length := by
    rw [content, ← take_span_overwritten positive, List.length_take, List.length_append, List.length_drop]
    omega
  obtain ⟨blank, only⟩ := verify_whole_blocks installed.valid fits
  rw [installed.root, behind, ← overwritten_eq_padded_iff room, ← content]
  exact ⟨blank, only⟩

/-- A machine that runs slot A and has a partition of one block for slot B, full of some byte. -/
def filledWith (filler : UInt8) : Machine :=
  (Machine.running .a).put ((Machine.running .a).storage.setBytes .b (List.replicate 512 filler))

def filledUpdate (filler : UInt8) : Except UpdateFailure UpdateReport × Observed :=
  (weighing.update (.directory ⟨"/d"⟩) "i").run.run plainOutfit.answer (.ofMachine (filledWith filler))

/-- Whether the block of slot B then has the root hash of the image of one byte. -/
def filledVerdict (filler : UInt8) : Except HashTree.BuildError Bool :=
  HashTree.verify weighing.hash weighing.treeParams (weighing.hash [1])
    (.ofBytes (((filledUpdate filler).2.machine.storage.bytes .b).take 512))

private theorem plainOutfit_params {text : String} {metadata : Metadata}
    (told : Artifact.sidecarText (plainOutfit.peripherals.offers (.directory ⟨"/d"⟩) "i.verity") = .ok text)
    (described : Metadata.parse text = .ok metadata) :
    metadata.params weighing.treeParams = weighing.treeParams := by
  have known : ((Artifact.sidecarText (plainOutfit.peripherals.offers (.directory ⟨"/d"⟩)
      "i.verity")).toOption.bind fun text => (Metadata.parse text).toOption).map
        (·.params weighing.treeParams) = some weighing.treeParams := by
    decide +kernel
  rw [told] at known
  simpa [Except.toOption, described] using known

private theorem filledUpdate_succeeds :
    (filledUpdate 0).1.toOption = some ⟨.a, .b, weighing.hash [1], 1⟩ ∧
      (filledUpdate 255).1.toOption = some ⟨.a, .b, weighing.hash [1], 1⟩ ∧
      filledVerdict 255 = .ok false := by
  decide +kernel

/-- Either update succeeds, and what is read after the second one is not what was recorded. -/
theorem verifies_whole_blocks_filled :
    (filledUpdate 0).1.toOption = some ⟨.a, .b, weighing.hash [1], 1⟩ ∧ filledVerdict 0 = .ok true ∧
      (filledUpdate 255).1.toOption = some ⟨.a, .b, weighing.hash [1], 1⟩ ∧
      filledVerdict 255 = .ok false := by
  obtain ⟨blank, full⟩ := filledUpdate_succeeds
  refine ⟨blank, ?_, full⟩
  have ended : Task.Yields (Observed.answers Outfit.faults plainOutfit.peripherals)
      (weighing.update (.directory ⟨"/d"⟩) "i") (.ofMachine (filledWith 0))
      ⟨.a, .b, weighing.hash [1], 1⟩ (filledUpdate 0).2 :=
    Task.yields_run plainOutfit.sound blank
  have partitions {image : Stream} {before after : Bytes}
      (stores : plainOutfit.peripherals.stores image before after) :
      Nonempty (Host.PartitionWrite image before after) := by
    obtain ⟨bytes, drained, rfl⟩ := stores
    exact Host.exists_partitionWrite drained before
  obtain ⟨image, metadata, installed, whole⟩ :=
    verifies_whole_blocks Outfit.faults_honest partitions ended
  obtain ⟨text, told, described⟩ := installed.described
  have one : image = [1] := (Stream.Carries.ofBytes [1]).drain installed.delivered
  have stored : (Observed.ofMachine (filledWith 0)).machine.storage.bytes .b = List.replicate 512 0 :=
    Storage.bytes_setBytes_self _ _ _
  dsimp only at whole
  rw [plainOutfit_params told described, stored, dataBlocks_ofImage, one] at whole
  have room : weighing.treeParams.span [(1 : UInt8)].length ≤ (List.replicate 512 (0 : UInt8)).length := by
    rw [List.length_replicate]
    decide
  exact (whole room).1 fun _ inside =>
    List.eq_of_mem_replicate (List.mem_of_mem_take (List.mem_of_mem_drop inside))

end Updater

end DualSlot
