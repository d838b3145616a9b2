import DualSlot.Proofs.StreamDelivery

/-! The root of a tree binds the image. Two images of as many blocks with the same root have the same
blocks, unless two different strings with one digest are among those that are hashed for their trees. -/

namespace DualSlot

variable {hash : Bytes → Digest}

/-- Two different strings among these have the same digest. -/
def Collides (hash : Bytes → Digest) (strings : List Bytes) : Prop :=
  ∃ first ∈ strings, ∃ second ∈ strings, first ≠ second ∧ hash first = hash second

theorem Collides.mono {strings others : List Bytes} (collides : Collides hash strings)
    (inside : strings ⊆ others) : Collides hash others := by
  obtain ⟨first, firstIn, second, secondIn, different, same⟩ := collides
  exact ⟨first, inside firstIn, second, inside secondIn, different, same⟩

theorem Collides.within {strings others widened widenedOthers : List Bytes}
    (collides : Collides hash (strings ++ others)) (inside : strings ⊆ widened)
    (insideOther : others ⊆ widenedOthers) : Collides hash (widened ++ widenedOthers) := by
  refine collides.mono (List.append_subset.2 ⟨?_, ?_⟩)
  · exact List.subset_append_of_subset_left _ inside
  · exact List.subset_append_of_subset_right _ insideOther

theorem eq_or_collides {strings others : List Bytes} (same : strings.map hash = others.map hash) :
    strings = others ∨ Collides hash (strings ++ others) := by
  induction strings generalizing others with
  | nil =>
    cases others with
    | nil => exact .inl rfl
    | cons other others => cases same
  | cons text strings ih =>
    cases others with
    | nil => cases same
    | cons other others =>
      obtain ⟨first, rest⟩ := List.cons.inj same
      by_cases equal : text = other
      · obtain rest | collides := ih rest
        · exact .inl (by rw [equal, rest])
        · exact .inr (collides.within (List.subset_cons_self ..) (List.subset_cons_self ..))
      · exact .inr ⟨text, by simp, other, by simp, equal, first⟩

theorem Bytes.length_padded (length : Nat) (bytes : Bytes) :
    (Bytes.padded length bytes).length = max length bytes.length := by
  rw [Bytes.padded, List.length_append, List.length_replicate]
  omega

theorem Bytes.padded_injective {length : Nat} {bytes others : Bytes}
    (lengths : bytes.length = others.length)
    (same : Bytes.padded length bytes = Bytes.padded length others) : bytes = others :=
  (List.append_inj same lengths).1

theorem flatten_padded_takeBlocks (size : Nat) {count : Nat} {items : Bytes}
    (enough : items.length ≤ count * size) :
    ((takeBlocks size count items).map (Bytes.padded size)).flatten =
      Bytes.padded (count * size) items := by
  induction count generalizing items with
  | zero =>
    have none : items = [] := List.eq_nil_of_length_eq_zero (by omega)
    simp [takeBlocks, none, Bytes.padded]
  | succ count ih =>
    rw [Nat.succ_mul] at enough
    rw [takeBlocks, List.map_cons, List.flatten_cons, ih (by rw [List.length_drop]; omega), Nat.succ_mul]
    obtain short | long := Nat.lt_or_ge items.length size
    · have zeros : size - items.length + count * size = count * size + size - items.length := by omega
      rw [List.take_of_length_le (by omega), List.drop_eq_nil_of_le (by omega)]
      simp [Bytes.padded, ← zeros, List.replicate_append_replicate]
    · have full : (items.take size).length = size := by
        rw [List.length_take]
        omega
      have zeros : count * size - (items.length - size) = count * size + size - items.length := by omega
      rw [Bytes.padded, full, Nat.sub_self, List.replicate_zero, List.append_nil, Bytes.padded,
        List.length_drop, zeros, ← List.append_assoc, List.take_append_drop, Bytes.padded]

namespace HashTree

variable {params : Params}

theorem Params.two_le_digestsPerBlock (valid : params.validate = .ok ()) : 2 ≤ params.digestsPerBlock :=
  (Nat.le_div_iff_mul_le (by decide)).2 (validate_eq_ok_iff.1 valid).2.2.2

theorem Params.digestsPerBlock_pos (valid : params.validate = .ok ()) : 0 < params.digestsPerBlock :=
  Nat.lt_of_lt_of_le (by decide) (two_le_digestsPerBlock valid)

theorem flatMap_bytes_injective {digests others : List Digest} (lengths : digests.length = others.length)
    (same : digests.flatMap Digest.bytes = others.flatMap Digest.bytes) : digests = others := by
  induction digests generalizing others with
  | nil => exact (List.eq_nil_of_length_eq_zero lengths.symm).symm
  | cons digest digests ih =>
    cases others with
    | nil => cases lengths
    | cons other others =>
      rw [List.flatMap_cons, List.flatMap_cons] at same
      obtain ⟨first, rest⟩ := List.append_inj same (digest.length_bytes.trans other.length_bytes.symm)
      have head : digest = other := by
        cases digest
        cases other
        cases first
        rfl
      rw [head, ih (Nat.succ.inj lengths) rest]

theorem length_flatMap_bytes (digests : List Digest) :
    (digests.flatMap Digest.bytes).length = Digest.size * digests.length := by
  induction digests with
  | nil => rfl
  | cons digest digests ih =>
    rw [List.flatMap_cons, List.length_append, ih, digest.length_bytes, List.length_cons, Digest.size]
    omega

theorem length_pack {digests others : List Digest} (lengths : digests.length = others.length) :
    (pack params digests).length = (pack params others).length := by
  rw [pack, pack, Bytes.length_padded, Bytes.length_padded, length_flatMap_bytes, length_flatMap_bytes,
    lengths]

theorem pack_injective {digests others : List Digest} (lengths : digests.length = others.length)
    (same : pack params digests = pack params others) : digests = others := by
  refine flatMap_bytes_injective lengths (Bytes.padded_injective ?_ same)
  rw [length_flatMap_bytes, length_flatMap_bytes, lengths]

theorem takeBlocks_pack_injective {size count : Nat} {digests others : List Digest}
    (lengths : digests.length = others.length)
    (same : ((takeBlocks size count digests).map (pack params)).flatten =
      ((takeBlocks size count others).map (pack params)).flatten) :
    takeBlocks size count digests = takeBlocks size count others := by
  induction count generalizing digests others with
  | zero => rfl
  | succ count ih =>
    have taken : (digests.take size).length = (others.take size).length := by
      rw [List.length_take, List.length_take, lengths]
    have left : (digests.drop size).length = (others.drop size).length := by
      rw [List.length_drop, List.length_drop, lengths]
    simp only [takeBlocks, List.map_cons, List.flatten_cons] at same ⊢
    obtain ⟨first, rest⟩ := List.append_inj same (length_pack taken)
    rw [pack_injective taken first, ih left rest]

theorem length_hashBlocks {digests others : List Digest} (lengths : digests.length = others.length) :
    (hashBlocks params digests).length = (hashBlocks params others).length := by
  have counts : (blocks params.digestsPerBlock digests).length =
      (blocks params.digestsPerBlock others).length := by
    rw [blocks_length, blocks_length, lengths]
  unfold hashBlocks
  cases found : blocks params.digestsPerBlock digests with
  | nil =>
    rw [found] at counts
    rw [List.eq_nil_of_length_eq_zero counts.symm]
  | cons group groups =>
    cases foundOther : blocks params.digestsPerBlock others with
    | nil =>
      rw [found, foundOther] at counts
      cases counts
    | cons other others =>
      rw [found, foundOther] at counts
      simpa using counts

theorem hashBlocks_injective (valid : params.validate = .ok ()) {digests others : List Digest}
    (lengths : digests.length = others.length)
    (same : (hashBlocks params digests).flatten = (hashBlocks params others).flatten) :
    digests = others := by
  have positive := Params.digestsPerBlock_pos valid
  by_cases empty : digests = []
  · subst empty
    exact (List.eq_nil_of_length_eq_zero lengths.symm).symm
  have otherNonempty : others ≠ [] := by
    rintro rfl
    exact empty (List.eq_nil_of_length_eq_zero lengths)
  have cut : hashBlocks params digests =
      (blocks params.digestsPerBlock digests).map (pack params) := by
    rw [hashBlocks, blocks_of_ne_nil positive empty]
  have cutOther : hashBlocks params others =
      (blocks params.digestsPerBlock others).map (pack params) := by
    rw [hashBlocks, blocks_of_ne_nil positive otherNonempty]
  rw [cut, cutOther, blocks, blocks, lengths] at same
  have groups : blocks params.digestsPerBlock digests = blocks params.digestsPerBlock others := by
    rw [blocks, blocks, lengths]
    exact takeBlocks_pack_injective lengths same
  rw [← blocks_flatten _ digests positive, groups, blocks_flatten _ others positive]

/-- The hash blocks of all levels above the digests. -/
def climbBlocks (hash : Bytes → Digest) (params : Params) : Nat → List Digest → List Bytes
  | 0, digests => [(hashBlocks params digests).flatten]
  | patience + 1, digests =>
    let level := hashBlocks params digests
    if 1 < level.length then
      level ++ climbBlocks hash params patience (level.map (saltedDigest hash params))
    else [level.flatten]

/-- Every string that is hashed for the tree of an image. -/
def hashedStrings (hash : Bytes → Digest) (params : Params) (image : Bytes) : List Bytes :=
  let digests := imageDigests hash params image
  (imageBlocks params image ++ climbBlocks hash params digests.length digests).map (params.salt ++ ·)

theorem climbFrom_zero_root (digests : List Digest) :
    (climbFrom hash params 0 digests).root =
      saltedDigest hash params (hashBlocks params digests).flatten := by
  unfold climbFrom
  simp

theorem climbFrom_succ_root (patience : Nat) (digests : List Digest) :
    (climbFrom hash params (patience + 1) digests).root =
      if 1 < (hashBlocks params digests).length then
        (climbFrom hash params patience
          ((hashBlocks params digests).map (saltedDigest hash params))).root
      else saltedDigest hash params (hashBlocks params digests).flatten := by
  rw [climbFrom.eq_def]
  dsimp only
  generalize hashBlocks params digests = level
  match level with
  | [] => simp
  | [_] => simp
  | first :: second :: rest => simp

theorem hashed_eq_or_collides {level others : List Bytes}
    (same : level.map (saltedDigest hash params) = others.map (saltedDigest hash params)) :
    level = others ∨ Collides hash (level.map (params.salt ++ ·) ++ others.map (params.salt ++ ·)) := by
  have hashes : (level.map (params.salt ++ ·)).map hash = (others.map (params.salt ++ ·)).map hash := by
    rw [List.map_map, List.map_map]
    exact same
  refine (eq_or_collides hashes).imp_left fun salted => ?_
  exact (List.map_inj_right fun _ _ => List.append_cancel_left).1 salted

theorem top_binding (valid : params.validate = .ok ()) {digests others : List Digest}
    (lengths : digests.length = others.length)
    (same : saltedDigest hash params (hashBlocks params digests).flatten =
      saltedDigest hash params (hashBlocks params others).flatten) :
    digests = others ∨ Collides hash ([(hashBlocks params digests).flatten].map (params.salt ++ ·) ++
      [(hashBlocks params others).flatten].map (params.salt ++ ·)) := by
  refine (hashed_eq_or_collides (by simpa using same)).imp_left fun equal => ?_
  exact hashBlocks_injective valid lengths (List.singleton_inj.1 equal)

/-- A root is that of no other digests, as many of them, unless some hash blocks collide. -/
theorem climbFrom_binding (valid : params.validate = .ok ()) {patience : Nat}
    {digests others : List Digest} (lengths : digests.length = others.length)
    (roots : (climbFrom hash params patience digests).root =
      (climbFrom hash params patience others).root) :
    digests = others ∨ Collides hash ((climbBlocks hash params patience digests).map (params.salt ++ ·) ++
      (climbBlocks hash params patience others).map (params.salt ++ ·)) := by
  -- As many digests have as many hash blocks, so both sides reach the top with the same step.
  induction patience generalizing digests others with
  | zero =>
    rw [climbFrom_zero_root, climbFrom_zero_root] at roots
    exact top_binding valid lengths roots
  | succ patience ih =>
    have counts : (hashBlocks params digests).length = (hashBlocks params others).length :=
      length_hashBlocks lengths
    rw [climbFrom_succ_root, climbFrom_succ_root, ← counts] at roots
    by_cases several : 1 < (hashBlocks params digests).length
    · rw [if_pos several, if_pos several] at roots
      simp only [climbBlocks, ← counts, if_pos several, List.map_append]
      obtain level | collides := ih (by simpa using counts) roots
      · obtain level | collides := hashed_eq_or_collides level
        · exact .inl (hashBlocks_injective valid lengths (congrArg List.flatten level))
        · exact .inr (collides.within (List.subset_append_left ..) (List.subset_append_left ..))
      · exact .inr (collides.within (List.subset_append_right ..) (List.subset_append_right ..))
    · rw [if_neg several, if_neg several] at roots
      simp only [climbBlocks, ← counts, if_neg several]
      exact top_binding valid lengths roots

theorem length_imageBlocks (params : Params) (image : Bytes) :
    (imageBlocks params image).length = (image.length + params.dataBlockSize - 1) / params.dataBlockSize := by
  rw [imageBlocks, List.length_map, blocks_length]

/-- Two images of as many blocks whose trees have the same root have the same blocks, unless two of the
strings that are hashed for them collide. -/
theorem imageBlocks_eq_or_collides (valid : params.validate = .ok ()) {image other : Bytes}
    (counts : (imageBlocks params image).length = (imageBlocks params other).length)
    (roots : (ofImage hash params image).rootHash = (ofImage hash params other).rootHash) :
    imageBlocks params image = imageBlocks params other ∨
      Collides hash (hashedStrings hash params image ++ hashedStrings hash params other) := by
  have lengths : (imageDigests hash params image).length = (imageDigests hash params other).length := by
    rw [imageDigests, imageDigests, List.length_map, List.length_map, counts]
  simp only [ofImage, climb, lengths] at roots
  simp only [hashedStrings, lengths, List.map_append]
  obtain digests | collides := climbFrom_binding valid lengths roots
  · obtain blocks | collides := hashed_eq_or_collides digests
    · exact .inl blocks
    · exact .inr (collides.within (List.subset_append_left ..) (List.subset_append_left ..))
  · exact .inr (collides.within (List.subset_append_right ..) (List.subset_append_right ..))

/-- The length of the whole blocks that hold so many bytes. -/
def Params.span (params : Params) (length : Nat) : Nat :=
  (length + params.dataBlockSize - 1) / params.dataBlockSize * params.dataBlockSize

theorem dataBlocks_ofImage {image : Bytes} :
    (ofImage hash params image).dataBlocks * params.dataBlockSize = params.span image.length := by
  rw [Params.span, ← length_imageBlocks]
  exact congrArg (· * params.dataBlockSize) (List.length_map _)

theorem Params.le_span (positive : 0 < params.dataBlockSize) (length : Nat) :
    length ≤ params.span length := by
  have parts := Nat.div_add_mod (length + params.dataBlockSize - 1) params.dataBlockSize
  have small := Nat.mod_lt (length + params.dataBlockSize - 1) positive
  rw [Nat.mul_comm] at parts
  rw [span]
  omega

/-- The blocks of an image in a row are the image and the zeros that fill its last block. -/
theorem imageBlocks_flatten (positive : 0 < params.dataBlockSize) (image : Bytes) :
    (imageBlocks params image).flatten = Bytes.padded (params.span image.length) image := by
  rw [imageBlocks, blocks, flatten_padded_takeBlocks _ (Params.le_span positive _), Params.span]

/-- Two images of one length whose trees have the same root are the same, unless two of the strings that
are hashed for them collide. -/
theorem image_eq_or_collides (valid : params.validate = .ok ()) {image other : Bytes}
    (lengths : image.length = other.length)
    (roots : (ofImage hash params image).rootHash = (ofImage hash params other).rootHash) :
    image = other ∨ Collides hash (hashedStrings hash params image ++ hashedStrings hash params other) := by
  have positive := Params.dataBlockSize_pos valid
  have counts : (imageBlocks params image).length = (imageBlocks params other).length := by
    rw [length_imageBlocks, length_imageBlocks, lengths]
  refine (imageBlocks_eq_or_collides valid counts roots).imp_left fun same => ?_
  have padded : Bytes.padded (params.span other.length) image =
      Bytes.padded (params.span other.length) other := by
    rw [← imageBlocks_flatten positive, ← same, imageBlocks_flatten positive, lengths]
  exact Bytes.padded_injective lengths padded

end HashTree

end DualSlot
