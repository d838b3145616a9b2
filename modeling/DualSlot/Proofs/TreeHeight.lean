import Mathlib.Algebra.BigOperators.Intervals
import Mathlib.Algebra.Order.Floor.Div
import DualSlot.Proofs.TreeLayout

/-! The shape of the levels of a hash tree. Each pass packs the digests of a level into hash blocks and
leaves one digest of each for the next pass. As a hash block holds at least two digests, the passes come to
a single block, after as many of them as a tree of full blocks would need. -/

namespace DualSlot.HashTree

variable {hash : Bytes → Digest} {params : Params} {digests : List Digest}

/-- The digests that a pass packs: those that the climb starts from, and then, of every hash block of the
pass before, its digest. -/
def entering (hash : Bytes → Digest) (params : Params) : Nat → List Digest → List Digest
  | 0, digests => digests
  | pass + 1, digests => entering hash params pass ((hashBlocks params digests).map (saltedDigest hash params))

/-- The hash blocks of a pass. -/
def passBlocks (hash : Bytes → Digest) (params : Params) (pass : Nat) (digests : List Digest) : List Bytes :=
  hashBlocks params (entering hash params pass digests)

/-- So many levels are the fewest, but at least one, whose full blocks hold so many digests. -/
def IsHeight (params : Params) (count height : Nat) : Prop :=
  IsLeast {levels | 1 ≤ levels ∧ count ≤ params.digestsPerBlock ^ levels} height

/-- The number of hash blocks in the levels over so many digests. -/
def blockTotal (params : Params) (count height : Nat) : Nat :=
  ∑ level ∈ Finset.Icc 1 height, max 1 (count ⌈/⌉ params.digestsPerBlock ^ level)

/-- Where the digest at an index begins among the hash blocks in a row. -/
def offset (params : Params) (index : Nat) : Nat :=
  index / params.digestsPerBlock * params.hashBlockSize + index % params.digestsPerBlock * Digest.size

/-- As many whole hash blocks in a row as the digests need, but at least one. They hold the digests in
order, each in a place of its own, and nothing but zeros elsewhere. -/
structure Packed (params : Params) (digests : List Digest) (packed : Bytes) : Prop where
  whole : packed.length = params.hashBlockSize * max 1 (digests.length ⌈/⌉ params.digestsPerBlock)
  inside : ∀ index < digests.length, offset params index + Digest.size ≤ packed.length
  apart : ∀ index other, index < other → offset params index + Digest.size ≤ offset params other
  holds : ∀ index digest, digests[index]? = some digest →
    (packed.drop (offset params index)).take Digest.size = digest.bytes
  zeros : ∀ position byte, packed[position]? = some byte →
    (∀ index < digests.length, position < offset params index ∨ offset params index + Digest.size ≤ position) →
    byte = 0

/-- A hash block is full of digests. -/
theorem Params.hashBlockSize_eq (valid : params.validate = .ok ()) :
    params.hashBlockSize = Digest.size * params.digestsPerBlock := by
  obtain ⟨-, -, power, large⟩ := validate_eq_ok_iff.1 valid
  have shape : 2 ^ params.hashBlockSize.log2 = params.hashBlockSize := beq_iff_eq.1 power
  have enough : 2 ^ 5 ≤ 2 ^ params.hashBlockSize.log2 := by
    rw [shape]
    exact Nat.le_trans (by decide) large
  have divides : 2 ^ 5 ∣ 2 ^ params.hashBlockSize.log2 :=
    Nat.pow_dvd_pow 2 ((Nat.pow_le_pow_iff_right (by decide)).1 enough)
  have multiple : Digest.size ∣ params.hashBlockSize := shape ▸ divides
  exact (Nat.mul_div_cancel' multiple).symm

theorem flatMap_bytes_take (digests : List Digest) (count : Nat) :
    (digests.take count).flatMap Digest.bytes = (digests.flatMap Digest.bytes).take (Digest.size * count) := by
  induction digests generalizing count with
  | nil => simp
  | cons digest digests ih =>
    cases count with
    | zero => simp
    | succ count =>
      have room : Digest.size * (count + 1) - digest.bytes.length = Digest.size * count := by
        rw [digest.length_bytes, Nat.mul_succ]
        exact Nat.add_sub_cancel ..
      have fits : digest.bytes.length ≤ Digest.size * (count + 1) := by
        rw [digest.length_bytes, Nat.mul_succ]
        exact Nat.le_add_left ..
      rw [List.take_succ_cons, List.flatMap_cons, List.flatMap_cons, ih, List.take_append, room,
        List.take_of_length_le fits]

theorem flatMap_bytes_drop (digests : List Digest) (count : Nat) :
    (digests.drop count).flatMap Digest.bytes = (digests.flatMap Digest.bytes).drop (Digest.size * count) := by
  apply List.append_cancel_left
  calc
    (digests.flatMap Digest.bytes).take (Digest.size * count) ++ (digests.drop count).flatMap Digest.bytes
    _ = digests.flatMap Digest.bytes := by
      rw [← flatMap_bytes_take, ← List.flatMap_append, List.take_append_drop]
    _ = (digests.flatMap Digest.bytes).take (Digest.size * count) ++
        (digests.flatMap Digest.bytes).drop (Digest.size * count) := (List.take_append_drop ..).symm

theorem takeBlocks_flatMap_bytes (size count : Nat) (digests : List Digest) :
    (takeBlocks size count digests).map (·.flatMap Digest.bytes) =
      takeBlocks (Digest.size * size) count (digests.flatMap Digest.bytes) := by
  induction count generalizing digests with
  | zero => rfl
  | succ count ih =>
    rw [takeBlocks, takeBlocks, List.map_cons, ih, flatMap_bytes_take, flatMap_bytes_drop]

theorem hashBlocks_length (positive : 0 < params.digestsPerBlock) (digests : List Digest) :
    (hashBlocks params digests).length = max 1 (digests.length ⌈/⌉ params.digestsPerBlock) := by
  rw [hashBlocks_eq_hashLevel positive, hashLevel, List.length_map, List.length_range]
  rfl

/-- The hash blocks in a row are the digests in a row, with zeros up to the end of the last block. -/
theorem flatten_hashBlocks (valid : params.validate = .ok ()) (digests : List Digest) :
    (hashBlocks params digests).flatten =
      Bytes.padded ((hashBlocks params digests).length * params.hashBlockSize)
        (digests.flatMap Digest.bytes) := by
  have positive := Params.digestsPerBlock_pos valid
  have size := Params.hashBlockSize_eq valid
  obtain ⟨count, counted⟩ : ∃ count, count = (hashBlocks params digests).length := ⟨_, rfl⟩
  have cut : hashBlocks params digests =
      (takeBlocks params.digestsPerBlock count digests).map (pack params) := by
    rw [takeBlocks_eq_map_range, List.map_map, counted, hashBlocks_length positive,
      hashBlocks_eq_hashLevel positive]
    rfl
  have packs : pack params = Bytes.padded params.hashBlockSize ∘ (·.flatMap Digest.bytes) := rfl
  have room : digests.length ≤ params.digestsPerBlock * count := by
    rw [counted, hashBlocks_length positive, ← ceilDiv_le_iff_le_mul positive]
    exact Nat.le_max_right ..
  have enough : (digests.flatMap Digest.bytes).length ≤ count * params.hashBlockSize := by
    rw [length_flatMap_bytes, size, Nat.mul_comm count, Nat.mul_assoc]
    exact Nat.mul_le_mul_left _ room
  rw [← counted, cut, packs, ← List.map_map, takeBlocks_flatMap_bytes, ← size,
    flatten_padded_takeBlocks _ enough]

theorem offset_eq (valid : params.validate = .ok ()) (index : Nat) :
    offset params index = Digest.size * index := by
  rw [offset, Params.hashBlockSize_eq valid, Nat.mul_left_comm, Nat.mul_comm (index % _), ← Nat.mul_add,
    Nat.div_add_mod']

/-- Packing puts every digest in its place. -/
theorem packed_hashBlocks (valid : params.validate = .ok ()) (digests : List Digest) :
    Packed params digests (hashBlocks params digests).flatten := by
  have flat := flatten_hashBlocks valid digests
  have length : (digests.flatMap Digest.bytes).length = Digest.size * digests.length :=
    length_flatMap_bytes digests
  have room : Digest.size * digests.length ≤ (hashBlocks params digests).length * params.hashBlockSize := by
    rw [Params.hashBlockSize_eq valid, Nat.mul_left_comm]
    refine Nat.mul_le_mul_left _ ?_
    rw [hashBlocks_length (Params.digestsPerBlock_pos valid), Nat.mul_comm,
      ← ceilDiv_le_iff_le_mul (Params.digestsPerBlock_pos valid)]
    exact Nat.le_max_right ..
  have whole : (hashBlocks params digests).flatten.length =
      (hashBlocks params digests).length * params.hashBlockSize := by
    rw [flat, Bytes.length_padded, length, Nat.max_eq_left room]
  constructor
  · rw [whole, hashBlocks_length (Params.digestsPerBlock_pos valid), Nat.mul_comm]
  · intro index inside
    rw [offset_eq valid, whole]
    refine Nat.le_trans ?_ room
    exact Nat.mul_le_mul_left Digest.size inside
  · intro index other before
    rw [offset_eq valid, offset_eq valid]
    exact Nat.mul_le_mul_left Digest.size before
  · intro index digest found
    obtain ⟨inside, rfl⟩ := List.getElem?_eq_some_iff.1 found
    have fits : Digest.size * index ≤ (digests.flatMap Digest.bytes).length := by
      rw [length]
      exact Nat.mul_le_mul_left _ (Nat.le_of_lt inside)
    rw [offset_eq valid, flat, Bytes.padded, List.drop_append_of_le_length fits, ← flatMap_bytes_drop,
      List.drop_eq_getElem_cons inside, List.flatMap_cons, List.append_assoc]
    exact List.take_left' digests[index].length_bytes
  · intro position byte found elsewhere
    have beyond : (digests.flatMap Digest.bytes).length ≤ position := by
      by_contra inside
      rw [length, Nat.not_le, Nat.mul_comm] at inside
      have digest : position / Digest.size < digests.length := (Nat.div_lt_iff_lt_mul (by decide)).2 inside
      have apart := elsewhere _ digest
      rw [offset_eq valid] at apart
      have parts := Nat.div_add_mod position Digest.size
      have small := Nat.mod_lt position (show 0 < Digest.size by decide)
      omega
    rw [flat, Bytes.padded, List.getElem?_append_right beyond] at found
    exact List.eq_of_mem_replicate (List.mem_of_getElem? found)

/-- Rounding up in two steps is rounding up in one, also where there is at least one of everything. -/
theorem max_one_ceilDiv {first second : Nat} (positive : 0 < first) (positiveSecond : 0 < second)
    (count : Nat) :
    max 1 (max 1 (count ⌈/⌉ first) ⌈/⌉ second) = max 1 (count ⌈/⌉ (first * second)) := by
  refine eq_of_forall_ge_iff fun bound => ?_
  rw [max_le_iff, max_le_iff, ceilDiv_le_iff_le_mul positiveSecond, max_le_iff,
    ceilDiv_le_iff_le_mul positive, ceilDiv_le_iff_le_mul (Nat.mul_pos positive positiveSecond),
    Nat.mul_assoc]
  refine and_congr_right fun some => and_iff_right ?_
  exact Nat.mul_pos positiveSecond some

theorem length_passBlocks (positive : 0 < params.digestsPerBlock) (pass : Nat) (digests : List Digest) :
    (passBlocks hash params pass digests).length =
      max 1 (digests.length ⌈/⌉ params.digestsPerBlock ^ (pass + 1)) := by
  induction pass generalizing digests with
  | zero =>
    rw [Nat.zero_add, Nat.pow_one]
    exact hashBlocks_length positive digests
  | succ pass ih =>
    have next := ih ((hashBlocks params digests).map (saltedDigest hash params))
    rw [List.length_map, hashBlocks_length positive,
      max_one_ceilDiv positive (Nat.pow_pos positive), ← Nat.pow_succ'] at next
    exact next

/-- The levels over some digests are the hash blocks of the passes, up to the first of a single block. -/
theorem Stacked.passes (positive : 0 < params.digestsPerBlock) {levels : List (List Bytes)} {root : Digest}
    (stacked : Stacked hash params digests levels root) :
    ∃ last, levels = (List.range (last + 1)).map (passBlocks hash params · digests) ∧
      root = saltedDigest hash params (passBlocks hash params last digests).flatten ∧
      (passBlocks hash params last digests).length = 1 ∧
      ∀ pass < last, 1 < (passBlocks hash params pass digests).length := by
  induction stacked with
  | @top digests block only =>
    have first : passBlocks hash params 0 digests = [block] := (hashBlocks_eq_hashLevel positive digests).trans only
    refine ⟨0, ?_, ?_, ?_, nofun⟩
    · simp [first]
    · simp [first, saltedDigest]
    · rw [first, List.length_singleton]
  | @above digests levels root several rest ih =>
    have first : passBlocks hash params 0 digests = hashLevel params digests := hashBlocks_eq_hashLevel positive digests
    have next (pass : Nat) : passBlocks hash params (pass + 1) digests =
        passBlocks hash params pass (digestsOf hash params (hashLevel params digests)) := by
      rw [← hashBlocks_eq_hashLevel positive, digestsOf, salted, List.map_map]
      rfl
    obtain ⟨last, rfl, rfl, single, before⟩ := ih
    refine ⟨last + 1, ?_, ?_, ?_, ?_⟩
    · rw [@List.range_succ_eq_map (last + 1), List.map_cons, List.map_map, first]
      exact congrArg _ (List.map_congr_left fun pass _ => (next pass).symm)
    · rw [next]
    · rw [next, single]
    · rintro (_ | pass) earlier
      · rw [first]
        exact several
      · rw [next]
        exact before pass (Nat.lt_of_succ_lt_succ earlier)

/-- The passes up to the first of a single block are as many as the height. -/
theorem isHeight_of_passes (positive : 0 < params.digestsPerBlock) {last : Nat}
    (single : (passBlocks hash params last digests).length = 1)
    (before : ∀ pass < last, 1 < (passBlocks hash params pass digests).length) :
    IsHeight params digests.length (last + 1) := by
  have holds (pass : Nat) : (passBlocks hash params pass digests).length = 1 ↔
      digests.length ≤ params.digestsPerBlock ^ (pass + 1) := by
    rw [length_passBlocks positive, max_eq_left_iff, ceilDiv_le_iff_le_mul (Nat.pow_pos positive), Nat.mul_one]
  constructor
  · exact ⟨Nat.succ_pos _, (holds last).1 single⟩
  · rintro levels ⟨some, enough⟩
    obtain ⟨pass, rfl⟩ := Nat.exists_eq_succ_of_ne_zero (Nat.ne_of_gt some)
    by_contra fewer
    have several := before pass (by omega)
    rw [(holds pass).2 enough] at several
    exact absurd several (Nat.lt_irrefl 1)

theorem length_flatten_passes (positive : 0 < params.digestsPerBlock) (count : Nat) (digests : List Digest) :
    ((List.range count).map (passBlocks hash params · digests)).flatten.length =
      blockTotal params digests.length count := by
  rw [blockTotal, Nat.Icc_eq_range', Nat.add_sub_cancel, List.length_flatten, List.map_map]
  change _ = ((List.range' 1 count).map _).sum
  rw [List.range'_eq_map_range, List.map_map]
  refine congrArg List.sum (List.map_congr_left fun pass _ => ?_)
  rw [Function.comp_apply, Function.comp_apply, length_passBlocks positive, Nat.add_comm]

/-- The climb ends at the first pass of a single block, however much patience there is. -/
theorem climbFrom_passes (hash : Bytes → Digest) (two : 2 ≤ params.digestsPerBlock) (leaves : List Digest) :
    ∃ last, IsHeight params leaves.length (last + 1) ∧
      (∀ pass ≤ last, (passBlocks hash params pass leaves).length = 1 ↔ pass = last) ∧
      ∀ patience, leaves.length ≤ patience → climbFrom hash params patience leaves =
        ⟨saltedDigest hash params (passBlocks hash params last leaves).flatten, last + 1,
          blockTotal params leaves.length (last + 1)⟩ := by
  have positive : 0 < params.digestsPerBlock := by omega
  obtain ⟨levels, stacked, -⟩ := climbFrom_stacked hash two (Nat.le_refl leaves.length)
  obtain ⟨last, rfl, rootEq, single, before⟩ := stacked.passes positive
  refine ⟨last, isHeight_of_passes positive single before, ?_, ?_⟩
  · intro pass reached
    constructor
    · intro alone
      by_contra other
      have several := before pass (by omega)
      rw [alone] at several
      exact absurd several (Nat.lt_irrefl 1)
    · rintro rfl
      exact single
  · intro patience enough
    obtain ⟨levels, again, count, total, -⟩ := climbFrom_stacked hash two enough
    obtain ⟨rfl, root⟩ := again.unique stacked
    rw [List.length_map, List.length_range] at count
    rw [length_flatten_passes positive] at total
    rw [← total, ← count, ← rootEq, ← root]

/-- The climb over any number of digests ends, and its height and its number of hash blocks are those of
their number. Every pass packs its digests into whole blocks, each digest in its own place, and only the
last pass has a single block. So the tree that is built of a stream has the height of its data blocks. -/
theorem levels_shaped (hash : Bytes → Digest) (valid : params.validate = .ok ()) :
    (∀ leaves, ∃ last, IsHeight params leaves.length (last + 1) ∧
      (∀ patience, leaves.length ≤ patience → climbFrom hash params patience leaves =
        ⟨saltedDigest hash params (passBlocks hash params last leaves).flatten, last + 1,
          blockTotal params leaves.length (last + 1)⟩) ∧
      ∀ pass ≤ last, ((passBlocks hash params pass leaves).length = 1 ↔ pass = last) ∧
        Packed params (entering hash params pass leaves) (passBlocks hash params pass leaves).flatten) ∧
    ∀ (stream : Stream) (image : Bytes), stream.Carries image → stream.due = none →
      ∃ tree, build hash params stream = .ok tree ∧
        tree.dataBlocks = image.length ⌈/⌉ params.dataBlockSize ∧
        IsHeight params tree.dataBlocks tree.levels ∧
        tree.hashTreeSize = params.hashBlockSize * blockTotal params tree.dataBlocks tree.levels := by
  have two := Params.two_le_digestsPerBlock valid
  constructor
  · intro leaves
    obtain ⟨last, height, single, climbs⟩ := climbFrom_passes hash two leaves
    exact ⟨last, height, climbs, fun pass reached => ⟨single pass reached, packed_hashBlocks valid _⟩⟩
  · intro stream image carries calm
    have built := build_due hash valid carries
    rw [calm] at built
    refine ⟨_, built, ?_, ?_⟩
    · exact (List.length_map _).trans (length_imageBlocks params image)
    · obtain ⟨last, height, -, climbs⟩ := climbFrom_passes hash two (imageDigests hash params image)
      have climbed := climbs _ (Nat.le_refl _)
      dsimp only [ofImage, climb]
      rw [climbed]
      exact ⟨height, rfl⟩

/-- Five data blocks, the last of them one byte long, under hash blocks of two digests: there are three
levels, of three blocks, of two, and of one. -/
theorem levels_shaped_five :
    ∃ tree, build tally ⟨512, 64, []⟩ (.ofBytes (List.replicate 2049 7)) = .ok tree ∧
      tree.dataBlocks = 5 ∧ tree.levels = 3 ∧ tree.hashTreeSize = (3 + 2 + 1) * 64 := by
  have valid : Params.validate ⟨512, 64, []⟩ = .ok () := by decide +kernel
  have carries := Stream.Carries.ofBytes (List.replicate 2049 7)
  obtain ⟨tree, built, blocks, height, size⟩ := (levels_shaped tally valid).2 _ _ carries rfl
  have five : tree.dataBlocks = 5 := by
    rw [blocks, List.length_replicate]
    rfl
  have three : IsHeight ⟨512, 64, []⟩ 5 3 := by
    refine ⟨by decide, ?_⟩
    rintro levels ⟨-, enough⟩
    by_contra fewer
    have most : 2 ^ levels ≤ 2 ^ 2 := Nat.pow_le_pow_right (by decide) (by omega)
    exact absurd (Nat.le_trans enough most) (by decide)
  rw [five] at height size
  have levels : tree.levels = 3 := height.unique three
  rw [levels] at size
  exact ⟨tree, built, five, levels, size⟩

end DualSlot.HashTree
