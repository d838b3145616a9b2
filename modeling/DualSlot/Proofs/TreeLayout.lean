import DualSlot.Proofs.StreamEnding
import DualSlot.Proofs.TreeBinding

/-! The layout of a hash tree: which bytes every block of every level holds, said without reading or
packing anything. What is built of a stream has this layout whatever reads bring, and its root belongs to
no other data blocks, as many of them, unless two of the blocks that are hashed collide. -/

namespace DualSlot.HashTree

variable {hash : Bytes → Digest} {params : Params} {image other : Bytes} {digests : List Digest}

/-- The group at an index, of items in groups of one size. -/
def groupAt (size : Nat) (items : List α) (index : Nat) : List α := (items.drop (index * size)).take size

/-- How many groups hold the items: their number divided by the size, rounded up. -/
def groupCount (size : Nat) (items : List α) : Nat := (items.length + size - 1) / size

def dataBlockAt (params : Params) (image : Bytes) (index : Nat) : Bytes :=
  Bytes.padded params.dataBlockSize (groupAt params.dataBlockSize image index)

def dataLevel (params : Params) (image : Bytes) : List Bytes :=
  (List.range (groupCount params.dataBlockSize image)).map (dataBlockAt params image)

def hashBlockAt (params : Params) (digests : List Digest) (index : Nat) : Bytes :=
  Bytes.padded params.hashBlockSize ((groupAt params.digestsPerBlock digests index).flatMap Digest.bytes)

/-- The hash blocks that hold digests: there is one even of none. -/
def hashLevel (params : Params) (digests : List Digest) : List Bytes :=
  (List.range (max 1 (groupCount params.digestsPerBlock digests))).map (hashBlockAt params digests)

def salted (params : Params) (blocks : List Bytes) : List Bytes := blocks.map (params.salt ++ ·)

def digestsOf (hash : Bytes → Digest) (params : Params) (blocks : List Bytes) : List Digest :=
  (salted params blocks).map hash

/-- The levels of hash blocks over some digests. Every level holds the digests of the one below it, and
the last is a single block, whose digest is the root. -/
inductive Stacked (hash : Bytes → Digest) (params : Params) :
    List Digest → List (List Bytes) → Digest → Prop
  | top {digests block} (only : hashLevel params digests = [block]) :
      Stacked hash params digests [[block]] (hash (params.salt ++ block))
  | above {digests levels root} (several : 1 < (hashLevel params digests).length)
      (rest : Stacked hash params (digestsOf hash params (hashLevel params digests)) levels root) :
      Stacked hash params digests (hashLevel params digests :: levels) root

/-- The tree of an image, with these levels of hash blocks over its leaves. -/
structure LaidOut (hash : Bytes → Digest) (params : Params) (image : Bytes) (levels : List (List Bytes))
    (tree : HashTree) : Prop where
  root : Stacked hash params (digestsOf hash params (dataLevel params image)) levels tree.rootHash
  imageSize : tree.imageSize = image.length
  dataBlocks : tree.dataBlocks = groupCount params.dataBlockSize image
  hashTreeSize : tree.hashTreeSize = params.hashBlockSize * levels.flatten.length
  levels : tree.levels = levels.length

theorem Stacked.unique {levels others : List (List Bytes)} {root another : Digest}
    (stacked : Stacked hash params digests levels root)
    (again : Stacked hash params digests others another) : levels = others ∧ root = another := by
  induction stacked generalizing others another with
  | top only =>
    cases again with
    | top same =>
      rw [only] at same
      cases same
      exact ⟨rfl, rfl⟩
    | above several => simp [only] at several
  | above several rest ih =>
    cases again with
    | top only => simp [only] at several
    | above _ again =>
      obtain ⟨rfl, rfl⟩ := ih again
      exact ⟨rfl, rfl⟩

theorem LaidOut.unique {levels others : List (List Bytes)} {tree another : HashTree}
    (laid : LaidOut hash params image levels tree) (again : LaidOut hash params image others another) :
    levels = others ∧ tree = another := by
  obtain ⟨rfl, root⟩ := laid.root.unique again.root
  refine ⟨rfl, ?_⟩
  cases tree
  cases another
  rw [HashTree.mk.injEq]
  refine ⟨root, ?_, ?_, ?_, ?_⟩
  · exact laid.imageSize.trans again.imageSize.symm
  · exact laid.dataBlocks.trans again.dataBlocks.symm
  · exact laid.levels.trans again.levels.symm
  · exact laid.hashTreeSize.trans again.hashTreeSize.symm

theorem takeBlocks_eq_map_range (size count : Nat) (items : List α) :
    takeBlocks size count items = (List.range count).map (groupAt size items) := by
  induction count generalizing items with
  | zero => rfl
  | succ count ih =>
    have first : items.take size = groupAt size items 0 := by
      rw [groupAt, Nat.zero_mul, List.drop_zero]
    have rest : groupAt size (items.drop size) = groupAt size items ∘ Nat.succ := by
      funext index
      rw [Function.comp_apply, groupAt, groupAt, List.drop_drop, Nat.succ_mul, Nat.add_comm]
    rw [takeBlocks, ih, List.range_succ_eq_map, List.map_cons, List.map_map, first, rest]

theorem blocks_eq_map_range (size : Nat) (items : List α) :
    blocks size items = (List.range (groupCount size items)).map (groupAt size items) :=
  takeBlocks_eq_map_range ..

theorem imageBlocks_eq_dataLevel (params : Params) (image : Bytes) :
    imageBlocks params image = dataLevel params image := by
  rw [imageBlocks, blocks_eq_map_range, List.map_map]
  rfl

theorem hashBlocks_eq_hashLevel (positive : 0 < params.digestsPerBlock) (digests : List Digest) :
    hashBlocks params digests = hashLevel params digests := by
  by_cases empty : digests = []
  · have none : groupCount params.digestsPerBlock ([] : List Digest) = 0 :=
      Nat.div_eq_of_lt (by rw [List.length_nil]; omega)
    rw [empty, hashBlocks, blocks_nil _ positive, hashLevel, none]
    simp [hashBlockAt, groupAt, pack]
  · have cut := blocks_of_ne_nil positive empty
    have some : 0 < groupCount params.digestsPerBlock digests := by
      rw [groupCount, ← blocks_length, cut]
      exact Nat.succ_pos _
    rw [hashBlocks, cut, hashLevel, Nat.max_eq_right some]
    dsimp only
    rw [← cut, blocks_eq_map_range, List.map_map]
    rfl

/-- A level of several blocks has fewer of them than the digests they hold. -/
theorem length_hashLevel_lt (two : 2 ≤ params.digestsPerBlock)
    (several : 1 < (hashLevel params digests).length) :
    (hashLevel params digests).length < digests.length := by
  rw [hashLevel, List.length_map, List.length_range] at several ⊢
  rw [groupCount] at several ⊢
  generalize params.digestsPerBlock = size at two several ⊢
  have long : 2 ≤ digests.length := by
    by_contra short
    have few : (digests.length + size - 1) / size ≤ 1 := (Nat.div_le_iff_le_mul (by omega)).2 (by omega)
    omega
  have fewer : (digests.length + size - 1) / size < digests.length := by
    rw [Nat.div_lt_iff_lt_mul (by omega)]
    obtain ⟨count, counted⟩ := Nat.exists_eq_add_of_le long
    have doubled : count * 2 ≤ count * size := Nat.mul_le_mul_left _ two
    rw [counted, Nat.add_mul]
    omega
  omega

theorem climbFrom_zero (digests : List Digest) :
    climbFrom hash params 0 digests =
      ⟨saltedDigest hash params (hashBlocks params digests).flatten, 1, (hashBlocks params digests).length⟩ := by
  unfold climbFrom
  simp

theorem climbFrom_succ (patience : Nat) (digests : List Digest) :
    climbFrom hash params (patience + 1) digests =
      let level := hashBlocks params digests
      let above := climbFrom hash params patience (level.map (saltedDigest hash params))
      if 1 < level.length then ⟨above.root, above.count + 1, above.hashBlocks + level.length⟩
      else ⟨saltedDigest hash params level.flatten, 1, level.length⟩ := by
  rw [climbFrom.eq_def]
  dsimp only
  generalize hashBlocks params digests = level
  cases level with
  | nil => simp
  | cons first rest => cases rest <;> simp

/-- What the climb over some digests finds are the levels over them. -/
theorem climbFrom_stacked (hash : Bytes → Digest) (two : 2 ≤ params.digestsPerBlock) {patience : Nat}
    (enough : digests.length ≤ patience) :
    ∃ levels, Stacked hash params digests levels (climbFrom hash params patience digests).root ∧
      (climbFrom hash params patience digests).count = levels.length ∧
      (climbFrom hash params patience digests).hashBlocks = levels.flatten.length ∧
      climbBlocks hash params patience digests = levels.flatten := by
  have positive : 0 < params.digestsPerBlock := by omega
  induction patience generalizing digests with
  | zero =>
    have none : digests = [] := List.eq_nil_of_length_eq_zero (by omega)
    have cut := hashBlocks_eq_hashLevel positive digests
    have only : hashLevel params digests = [pack params []] := by
      rw [← cut, none, hashBlocks, blocks_nil _ positive]
    rw [climbFrom_zero, climbBlocks, cut, only, List.flatten_cons, List.flatten_nil, List.append_nil]
    exact ⟨_, .top only, rfl, rfl, rfl⟩
  | succ patience ih =>
    have cut := hashBlocks_eq_hashLevel positive digests
    rw [climbFrom_succ, climbBlocks, cut]
    dsimp only
    by_cases several : 1 < (hashLevel params digests).length
    · have fewer := length_hashLevel_lt two several
      have above : (hashLevel params digests).map (saltedDigest hash params) =
          digestsOf hash params (hashLevel params digests) := by
        rw [digestsOf, salted, List.map_map]
        rfl
      have left : (digestsOf hash params (hashLevel params digests)).length ≤ patience := by
        rw [← above, List.length_map]
        omega
      obtain ⟨levels, stacked, count, size, found⟩ := ih left
      rw [if_pos several, if_pos several, above]
      refine ⟨_, .above several stacked, ?_, ?_, ?_⟩
      · rw [List.length_cons, ← count]
      · rw [List.flatten_cons, List.length_append, ← size]
        exact Nat.add_comm ..
      · rw [List.flatten_cons, ← found]
    · have one : (hashLevel params digests).length = 1 := by
        rw [hashLevel, List.length_map, List.length_range] at several ⊢
        omega
      obtain ⟨block, only⟩ := List.length_eq_one_iff.1 one
      rw [if_neg several, if_neg several, only, List.flatten_cons, List.flatten_nil, List.append_nil]
      exact ⟨_, .top only, rfl, rfl, rfl⟩

/-- The strings that are hashed for a tree with these levels. -/
def saltedBlocks (params : Params) (image : Bytes) (levels : List (List Bytes)) : List Bytes :=
  salted params (dataLevel params image ++ levels.flatten)

theorem ofImage_laidOut (hash : Bytes → Digest) (valid : params.validate = .ok ()) (image : Bytes) :
    ∃ levels, LaidOut hash params image levels (ofImage hash params image) ∧
      hashedStrings hash params image = saltedBlocks params image levels := by
  have leaves : imageDigests hash params image = digestsOf hash params (dataLevel params image) := by
    rw [imageDigests, imageBlocks_eq_dataLevel, digestsOf, salted, List.map_map]
    rfl
  obtain ⟨levels, stacked, count, size, found⟩ :=
    climbFrom_stacked hash (Params.two_le_digestsPerBlock valid)
      (Nat.le_refl (imageDigests hash params image).length)
  refine ⟨levels, ⟨?_, rfl, ?_, ?_, count⟩, ?_⟩
  · rw [← leaves]
    exact stacked
  · exact (List.length_map _).trans (length_imageBlocks params image)
  · exact congrArg (params.hashBlockSize * ·) size
  · rw [hashedStrings, imageBlocks_eq_dataLevel, found]
    rfl

/-- A hash that takes blocks with the same sum for each other. -/
def tally (bytes : Bytes) : Digest := ⟨List.replicate 31 0 ++ [bytes.foldl (· + ·) 0], rfl⟩

/-- Trees of as many data blocks with one root are those of the same blocks, and if the images are as
long then of the same image, unless two different strings among those that are hashed for the trees have
one digest. -/
theorem root_binds_blocks {stream otherStream : Stream} {tree otherTree : HashTree}
    (carries : stream.Carries image) (built : build hash params stream = .ok tree)
    (carriesOther : otherStream.Carries other) (builtOther : build hash params otherStream = .ok otherTree)
    (counts : tree.dataBlocks = otherTree.dataBlocks) (roots : tree.rootHash = otherTree.rootHash) :
    ∃ levels otherLevels, LaidOut hash params image levels tree ∧
      LaidOut hash params other otherLevels otherTree ∧
      ((Bytes.padded (tree.dataBlocks * params.dataBlockSize) image =
          Bytes.padded (tree.dataBlocks * params.dataBlockSize) other ∧
        (tree.imageSize = otherTree.imageSize → image = other)) ∨
      Collides hash (saltedBlocks params image levels ++ saltedBlocks params other otherLevels)) := by
  obtain ⟨valid, -⟩ := build_prefix built
  have positive := Params.dataBlockSize_pos valid
  obtain rfl := build_carries carries built
  obtain rfl := build_carries carriesOther builtOther
  obtain ⟨levels, laid, hashed⟩ := ofImage_laidOut hash valid image
  obtain ⟨otherLevels, laidOther, hashedOther⟩ := ofImage_laidOut hash valid other
  refine ⟨levels, otherLevels, laid, laidOther, ?_⟩
  rw [← hashed, ← hashedOther]
  have blocks : (imageBlocks params image).length = (imageBlocks params other).length := by
    rw [length_imageBlocks, length_imageBlocks]
    exact laid.dataBlocks.symm.trans (counts.trans laidOther.dataBlocks)
  refine (imageBlocks_eq_or_collides valid blocks roots).imp_left fun same => ?_
  have padded : Bytes.padded ((ofImage hash params image).dataBlocks * params.dataBlockSize) image =
      Bytes.padded ((ofImage hash params image).dataBlocks * params.dataBlockSize) other := by
    calc
      _ = (imageBlocks params image).flatten := by
        rw [imageBlocks_flatten positive, dataBlocks_ofImage]
      _ = (imageBlocks params other).flatten := congrArg _ same
      _ = _ := by rw [imageBlocks_flatten positive, counts, dataBlocks_ofImage]
  exact ⟨padded, fun sizes => Bytes.padded_injective sizes padded⟩

/-- Two images of the same bytes in another order have one root if the hash is their sum: then there are
two blocks that collide. -/
theorem root_binds_blocks_swapped :
    ∃ levels otherLevels, LaidOut tally ⟨512, 64, []⟩ [1, 2] levels (ofImage tally ⟨512, 64, []⟩ [1, 2]) ∧
      LaidOut tally ⟨512, 64, []⟩ [2, 1] otherLevels (ofImage tally ⟨512, 64, []⟩ [2, 1]) ∧
      Collides tally
        (saltedBlocks ⟨512, 64, []⟩ [1, 2] levels ++ saltedBlocks ⟨512, 64, []⟩ [2, 1] otherLevels) := by
  have valid : Params.validate ⟨512, 64, []⟩ = .ok () := by decide +kernel
  have built (image : Bytes) : build tally ⟨512, 64, []⟩ (.ofBytes image) = .ok (ofImage tally _ image) :=
    build_ofBytes valid image
  obtain ⟨levels, otherLevels, laid, laidOther, bound⟩ :=
    root_binds_blocks (Stream.Carries.ofBytes _) (built [1, 2]) (Stream.Carries.ofBytes _) (built [2, 1])
      (by decide +kernel) (by decide +kernel)
  refine ⟨levels, otherLevels, laid, laidOther, bound.resolve_left fun same => ?_⟩
  exact absurd (same.2 rfl) (by decide)

end DualSlot.HashTree
