import DualSlot.Proofs.TreeOfPrefix

/-! What arrives of a stream that ends only where its bytes end. Reads may return pieces of any size, be
interrupted or fail, but whoever takes in every piece is told of a failure that is due before the end, and
has otherwise got all the bytes in order. The tree that is built of them is the tree of the image that they
are. -/

namespace DualSlot

theorem blocks_nil (size : Nat) (positive : 0 < size) : blocks size ([] : List α) = [] := by
  have none : (0 + size - 1) / size = 0 := Nat.div_eq_of_lt (by omega)
  rw [blocks, List.length_nil, none, takeBlocks]

theorem blocks_of_ne_nil {size : Nat} {items : List α} (positive : 0 < size) (nonempty : items ≠ []) :
    blocks size items = items.take size :: blocks size (items.drop size) := by
  have length : 0 < items.length := List.length_pos_iff.2 nonempty
  have count : (items.length + size - 1) / size = ((items.drop size).length + size - 1) / size + 1 := by
    rw [List.length_drop]
    obtain short | long := Nat.lt_or_ge items.length size
    · have first : (items.length + size - 1) / size = 1 :=
        Nat.div_eq_of_lt_le (by omega) (by omega)
      have rest : (items.length - size + size - 1) / size = 0 := Nat.div_eq_of_lt (by omega)
      rw [first, rest]
    · rw [Nat.sub_add_cancel long, ← Nat.add_div_right _ positive]
      congr 1
      omega
  rw [blocks, count, takeBlocks]
  rfl

namespace Stream

variable {stream later : Stream} {bytes block piece : Bytes} {room : Nat} {cause : IoError}

/-- Reads of the stream deliver these bytes: none of them comes back empty before the bytes end. -/
structure Carries (stream : Stream) (bytes : Bytes) : Prop where
  rest : stream.rest = bytes
  piece : ∀ position, stream.piece position ≠ some 0

theorem Carries.ofBytes (bytes : Bytes) : (ofBytes bytes).Carries bytes :=
  ⟨rfl, fun _ impossible => by cases impossible⟩

theorem foldl_min_pos {bounds : List Nat} (positive : 0 < room) (bounded : ∀ bound ∈ bounds, 0 < bound) :
    0 < bounds.foldl min room := by
  induction bounds generalizing room with
  | nil => exact positive
  | cons bound bounds ih =>
    refine ih (Nat.lt_min.2 ⟨positive, bounded bound List.mem_cons_self⟩) fun other inside => ?_
    exact bounded other (List.mem_cons_of_mem _ inside)

/-- Where no interruption and no failure is due, a read returns something if there is anything. -/
theorem Carries.allowance_pos (carries : stream.Carries bytes) (positive : 0 < room)
    (calm : stream.interrupts.find? (· ≤ stream.position) = none)
    (sound : stream.failure.filter (·.1 ≤ stream.position) = none) : 0 < stream.allowance room := by
  refine foldl_min_pos positive fun bound inside => ?_
  simp only [List.mem_append, List.mem_map, Option.mem_toList] at inside
  obtain piece | ⟨mark, (interrupt | failure), rfl⟩ := inside
  · exact Nat.pos_of_ne_zero fun zero => carries.piece _ (zero ▸ piece)
  · have ahead := List.find?_eq_none.1 calm mark interrupt
    simp only [decide_eq_true_eq] at ahead
    omega
  · obtain ⟨pair, found, rfl⟩ := Option.map_eq_some_iff.1 failure
    rw [found] at sound
    simp only [Option.filter_some, ite_eq_right_iff, decide_eq_true_eq] at sound
    have ahead : ¬ pair.1 ≤ stream.position := fun passed => by cases sound passed
    omega

theorem Carries.read_interrupted (carries : stream.Carries bytes)
    (arrived : stream.read room = (.interrupted, later)) :
    later.Carries bytes ∧ later.interrupts.length + 1 = stream.interrupts.length := by
  unfold read at arrived
  split at arrived
  · rename_i mark found
    cases arrived
    have inside : mark ∈ stream.interrupts := List.mem_of_find?_eq_some found
    have pending : 0 < stream.interrupts.length := List.length_pos_of_mem inside
    refine ⟨⟨carries.rest, carries.piece⟩, ?_⟩
    rw [List.length_erase_of_mem inside]
    omega
  · split at arrived <;> cases arrived

theorem Carries.read_bytes (carries : stream.Carries bytes) (positive : 0 < room)
    (arrived : stream.read room = (.bytes piece, later)) :
    later.Carries (bytes.drop piece.length) ∧ piece = bytes.take piece.length ∧ piece.length ≤ room ∧
      later.interrupts = stream.interrupts ∧ (piece = [] → bytes = []) := by
  obtain ⟨fits, rest⟩ := Stream.read_bytes arrived
  rw [carries.rest] at rest
  unfold read at arrived
  split at arrived
  · cases arrived
  · rename_i calm
    split at arrived
    · cases arrived
    · rename_i sound
      have allowed := carries.allowance_pos positive calm sound
      cases arrived
      refine ⟨⟨?_, carries.piece⟩, ?_, fits, rfl, ?_⟩
      · rw [advance, carries.rest]
      · rw [rest]
        exact List.take_left.symm
      · intro empty
        rw [carries.rest] at empty
        obtain none | nil := List.take_eq_nil_iff.1 empty
        · omega
        · exact nil

theorem Carries.length_read (carries : stream.Carries bytes) (positive : 0 < room)
    (arrived : stream.read room = (.bytes piece, later)) :
    piece.length + (bytes.drop piece.length).length = bytes.length := by
  obtain ⟨-, taken, -⟩ := carries.read_bytes positive arrived
  have inside : piece.length ≤ bytes.length := by
    rw [taken]
    exact List.length_take_le' ..
  rw [List.length_drop, Nat.add_sub_cancel' inside]

/-- The failure that comes before a read returns nothing, if there is one. -/
def due (stream : Stream) : Option IoError :=
  (stream.failure.filter (·.1 ≤ stream.position + stream.rest.length)).map (·.2)

theorem due_read_interrupted (arrived : stream.read room = (.interrupted, later)) :
    later.due = stream.due := by
  unfold read at arrived
  split at arrived
  · cases arrived
    rfl
  · split at arrived <;> cases arrived

theorem due_read_failed (arrived : stream.read room = (.failed cause, later)) : stream.due = some cause := by
  unfold read at arrived
  split at arrived
  · cases arrived
  · split at arrived
    · rename_i position _ found
      cases arrived
      obtain ⟨planned, passed⟩ := Option.filter_eq_some_iff.1 found
      have reached : position ≤ stream.position := of_decide_eq_true passed
      have inside : position ≤ stream.position + stream.rest.length := by omega
      simp [due, planned, inside]
    · cases arrived

theorem due_advance {count : Nat} (inside : count ≤ stream.rest.length) :
    (stream.advance count).due = stream.due := by
  have stop : stream.position + count + (stream.rest.drop count).length =
      stream.position + stream.rest.length := by
    rw [List.length_drop]
    omega
  simp only [due, advance, stop]

/-- A read that returns nothing while it has room has met the end, and no failure before it. -/
theorem Carries.due_read_bytes (carries : stream.Carries bytes) (positive : 0 < room)
    (arrived : stream.read room = (.bytes piece, later)) :
    later.due = stream.due ∧ (piece = [] → stream.due = none) := by
  have rest := (carries.read_bytes positive arrived).2.2.2.2
  unfold read at arrived
  split at arrived
  · cases arrived
  · split at arrived
    · cases arrived
    · rename_i sound
      cases arrived
      constructor
      · apply due_advance
        rw [List.length_take]
        exact Nat.min_le_right ..
      · intro empty
        rw [due, carries.rest, rest empty]
        exact congrArg _ sound

theorem Carries.fillFrom {patience : Nat} {pieces : List Bytes} (carries : stream.Carries bytes)
    (enough : room + stream.interrupts.length < patience)
    (filled : fillFrom patience room pieces stream = .ok (block, later)) :
    block = pieces.reverse.flatten ++ bytes.take room ∧ later.Carries (bytes.drop room) := by
  -- Each attempt either takes a byte of the room or uses up an interruption.
  induction patience generalizing room pieces stream bytes with
  | zero => omega
  | succ patience ih =>
    unfold Stream.fillFrom at filled
    split at filled
    · rename_i full
      cases filled
      rw [full]
      exact ⟨by simp, carries⟩
    · rename_i notFull
      have positive : 0 < room := Nat.pos_of_ne_zero notFull
      split at filled
      next next arrived =>
        obtain ⟨same, fewer⟩ := carries.read_interrupted arrived
        exact ih same (by omega) filled
      next => cases filled
      next next arrived =>
        cases filled
        obtain ⟨same, -, -, -, ended⟩ := carries.read_bytes positive arrived
        obtain rfl := ended rfl
        exact ⟨by simp, by simpa using same⟩
      next piece next nonempty arrived =>
        obtain ⟨rest, taken, fits, interrupts, -⟩ := carries.read_bytes positive arrived
        have length : 0 < piece.length := List.length_pos_iff.2 nonempty
        obtain ⟨whole, left⟩ := ih rest (by rw [interrupts]; omega) filled
        have parts : room = piece.length + (room - piece.length) := by omega
        constructor
        · rw [whole, parts, List.take_add, ← taken]
          simp
        · rw [parts, ← List.drop_drop]
          simpa using left

theorem Carries.fill (carries : stream.Carries bytes)
    (filled : stream.fill room = .ok (block, later)) :
    block = bytes.take room ∧ later.Carries (bytes.drop room) :=
  carries.fillFrom (by omega) filled

/-- Whoever takes in every piece is told of a failure that is due, and has otherwise got all the bytes. -/
theorem Carries.foldFrom_due {β : Type} (f : β → Bytes → β) {patience : Nat} (carries : stream.Carries bytes)
    (enough : bytes.length + stream.interrupts.length < patience) (state : β) :
    (∃ cause, stream.due = some cause ∧ (Stream.foldFrom f patience state stream).2 = some cause) ∨
    stream.due = none ∧ ∃ pieces : List Bytes, pieces.flatten = bytes ∧
      Stream.foldFrom f patience state stream = (pieces.foldl f state, none) := by
  -- Each attempt either takes a byte or uses up an interruption.
  induction patience generalizing state stream bytes with
  | zero => omega
  | succ patience ih =>
    rw [Stream.foldFrom]
    cases arrived : stream.read ample with
    | mk arrival later =>
      cases arrival with
      | interrupted =>
        obtain ⟨same, fewer⟩ := carries.read_interrupted arrived
        rw [← due_read_interrupted arrived]
        exact ih same (by omega) state
      | failed cause => exact .inl ⟨cause, due_read_failed arrived, rfl⟩
      | bytes piece =>
        obtain ⟨same, ended⟩ := carries.due_read_bytes (by decide) arrived
        obtain ⟨rest, taken, -, interrupts, empty⟩ := carries.read_bytes (by decide) arrived
        cases piece with
        | nil => exact .inr ⟨ended rfl, [], (empty rfl).symm, rfl⟩
        | cons first more =>
          have nonempty : 0 < (first :: more).length := Nat.succ_pos _
          have parts := carries.length_read (by decide) arrived
          rw [← same]
          apply (ih rest (by rw [interrupts]; omega) (f state (first :: more))).imp_right
          rintro ⟨calm, pieces, whole, folded⟩
          refine ⟨calm, (first :: more) :: pieces, ?_, folded⟩
          rw [List.flatten_cons, whole]
          exact (congrArg (· ++ _) taken).trans (List.take_append_drop ..)

theorem Carries.fold_due {β : Type} (f : β → Bytes → β) (carries : stream.Carries bytes) (start : β) :
    (∃ cause, stream.due = some cause ∧ (stream.fold f start).2 = some cause) ∨
    stream.due = none ∧ ∃ pieces : List Bytes, pieces.flatten = bytes ∧
      stream.fold f start = (pieces.foldl f start, none) := by
  refine carries.foldFrom_due f ?_ start
  rw [patience, carries.rest]
  exact Nat.lt_succ_self _

/-- What is drained of a stream is the failure that is due, or all the bytes. -/
theorem Carries.drain_due (carries : stream.Carries bytes) :
    (∃ cause, stream.due = some cause ∧ stream.drain.2 = some cause) ∨
    stream.due = none ∧ stream.drain = (bytes, none) := by
  refine (carries.fold_due (fun pieces piece => piece :: pieces) []).imp_right ?_
  rintro ⟨calm, pieces, rfl, folded⟩
  refine ⟨calm, ?_⟩
  simp [Stream.drain, folded]

theorem Carries.drain {drained : Bytes} (carries : stream.Carries bytes)
    (ended : stream.drain = (drained, none)) : drained = bytes := by
  obtain ⟨cause, -, failed⟩ | ⟨-, whole⟩ := carries.drain_due
  · rw [ended] at failed
    cases failed
  · exact congrArg Prod.fst (ended.symm.trans whole)

theorem contents_ofBytes (bytes : Bytes) : (ofBytes bytes).contents = .ok bytes := by
  obtain ⟨cause, isDue, -⟩ | ⟨-, whole⟩ := (Carries.ofBytes bytes).drain_due
  · cases isDue
  · rw [contents, whole]

end Stream

namespace HashTree

variable {hash : Bytes → Digest} {params : Params} {stream : Stream} {image : Bytes}

/-- The blocks of an image as they are hashed, the last one padded. -/
def imageBlocks (params : Params) (image : Bytes) : List Bytes :=
  (blocks params.dataBlockSize image).map (Bytes.padded params.dataBlockSize)

def imageDigests (hash : Bytes → Digest) (params : Params) (image : Bytes) : List Digest :=
  (imageBlocks params image).map (saltedDigest hash params)

def ofImage (hash : Bytes → Digest) (params : Params) (image : Bytes) : HashTree :=
  let digests := imageDigests hash params image
  let levels := climb hash params digests
  { rootHash := levels.root
    imageSize := image.length
    dataBlocks := digests.length
    levels := levels.count
    hashTreeSize := params.hashBlockSize * levels.hashBlocks }

theorem imageDigests_nil (positive : 0 < params.dataBlockSize) : imageDigests hash params [] = [] := by
  rw [imageDigests, imageBlocks, blocks_nil _ positive]
  rfl

theorem imageDigests_of_ne_nil (positive : 0 < params.dataBlockSize) (nonempty : image ≠ []) :
    imageDigests hash params image =
      saltedDigest hash params (Bytes.padded params.dataBlockSize (image.take params.dataBlockSize)) ::
        imageDigests hash params (image.drop params.dataBlockSize) := by
  rw [imageDigests, imageBlocks, blocks_of_ne_nil positive nonempty]
  rfl

theorem readLeaves_carries (positive : 0 < params.dataBlockSize) {patience size : Nat}
    {digests : List Digest} {found : Leaves} (carries : stream.Carries image)
    (enough : image.length < patience)
    (read : readLeaves hash params patience digests size stream = .ok found) :
    found = ⟨digests.reverse ++ imageDigests hash params image, size + image.length⟩ := by
  induction patience generalizing digests size stream image with
  | zero => omega
  | succ patience ih =>
    cases filled : stream.fill params.dataBlockSize with
    | error cause =>
      rw [readLeaves, filled] at read
      cases read
    | ok result =>
      obtain ⟨block, later⟩ := result
      obtain ⟨rfl, rest⟩ := carries.fill filled
      rw [readLeaves_succ filled] at read
      by_cases empty : image = []
      · subst empty
        simp only [List.take_nil, List.isEmpty_nil, if_true] at read
        cases read
        rw [imageDigests_nil positive, List.append_nil, List.length_nil, Nat.add_zero]
      have nonempty : (image.take params.dataBlockSize).isEmpty = false := by
        simp [List.take_eq_nil_iff, empty, Nat.ne_of_gt positive]
      have length : (image.take params.dataBlockSize).length = min params.dataBlockSize image.length :=
        List.length_take
      rw [imageDigests_of_ne_nil positive empty]
      simp only [nonempty, Bool.false_eq_true, if_false] at read
      by_cases short : (image.take params.dataBlockSize).length < params.dataBlockSize
      · rw [if_pos short] at read
        cases read
        have last : image.drop params.dataBlockSize = [] := List.drop_eq_nil_of_le (by omega)
        have whole : (image.take params.dataBlockSize).length = image.length := by omega
        rw [last, imageDigests_nil positive, whole, List.reverse_cons]
      · rw [if_neg short] at read
        have left : (image.drop params.dataBlockSize).length = image.length - params.dataBlockSize :=
          List.length_drop
        have positiveLength : 0 < image.length := List.length_pos_iff.2 empty
        have sizes : size + (image.take params.dataBlockSize).length +
            (image.drop params.dataBlockSize).length = size + image.length := by omega
        rw [ih rest (by omega) read, sizes, List.reverse_cons, List.append_assoc, List.singleton_append]

theorem readLeaves_plain (plain : stream.Plain) (patience : Nat) (digests : List Digest) (size : Nat) :
    ∃ found, readLeaves hash params patience digests size stream = .ok found := by
  induction patience generalizing digests size stream with
  | zero => exact ⟨_, rfl⟩
  | succ patience ih =>
    rw [readLeaves_succ (Stream.fill_plain plain _)]
    simp only
    split
    · exact ⟨_, rfl⟩
    · split
      · exact ⟨_, rfl⟩
      · exact ih (plain.advance _) _ _

/-- A tree that was built of all that a stream carries is that of the image. -/
theorem build_carries {tree : HashTree} (carries : stream.Carries image)
    (built : build hash params stream = .ok tree) : tree = ofImage hash params image := by
  obtain ⟨valid, -⟩ := build_prefix built
  unfold build at built
  rw [valid] at built
  cases read : leaves hash params stream with
  | error cause =>
    rw [read] at built
    cases built
  | ok found =>
    have whole := readLeaves_carries (Params.dataBlockSize_pos valid) carries
      (by rw [carries.rest]; omega) read
    rw [read, whole] at built
    cases built
    simp [ofImage]

theorem build_ofBytes (valid : params.validate = .ok ()) (image : Bytes) :
    build hash params (.ofBytes image) = .ok (ofImage hash params image) := by
  obtain ⟨found, read⟩ : ∃ found, leaves hash params (.ofBytes image) = .ok found :=
    readLeaves_plain (.ofBytes image) _ _ _
  have whole := readLeaves_carries (Params.dataBlockSize_pos valid) (.ofBytes image)
    (Nat.lt_succ_self _) read
  rw [build, valid, read, whole, List.reverse_nil, List.nil_append, Nat.zero_add]
  rfl

/-- However a stream delivers: a tree that was built of it is that of a beginning of its bytes. -/
theorem build_ofImage {tree : HashTree} (built : build hash params stream = .ok tree) :
    ∃ length, tree = ofImage hash params (stream.rest.take length) := by
  obtain ⟨-, length, whole⟩ := build_prefix built
  exact ⟨length, build_carries (.ofBytes _) whole⟩

end HashTree

end DualSlot
