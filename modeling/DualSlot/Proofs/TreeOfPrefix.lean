import DualSlot.HashTree.Build

/-! The tree of a stream is the tree of what arrived: a consumer that got a tree has read some beginning
of the bytes, in whatever pieces, and the same bytes in one piece have the same tree. -/

namespace DualSlot

namespace Stream

/-- A stream that delivers all it is asked for. -/
structure Plain (stream : Stream) : Prop where
  piece : stream.piece = fun _ => none
  interrupts : stream.interrupts = []
  failure : stream.failure = none

theorem Plain.ofBytes (bytes : Bytes) : (ofBytes bytes).Plain := ⟨rfl, rfl, rfl⟩

theorem Plain.advance {stream : Stream} (plain : stream.Plain) (count : Nat) :
    (stream.advance count).Plain :=
  ⟨plain.piece, plain.interrupts, plain.failure⟩

theorem foldl_min_le (bounds : List Nat) (room : Nat) : bounds.foldl min room ≤ room := by
  induction bounds generalizing room with
  | nil => exact Nat.le_refl _
  | cons bound bounds ih => exact Nat.le_trans (ih _) (Nat.min_le_left ..)

theorem take_append_drop_length_take (count : Nat) (bytes : Bytes) :
    bytes.take count ++ bytes.drop (bytes.take count).length = bytes := by
  obtain short | long := Nat.le_total count bytes.length
  · rw [List.length_take, Nat.min_eq_left short, List.take_append_drop]
  · rw [List.take_of_length_le long, List.drop_length, List.append_nil]

/-- A read returns a piece of what is left, which is then no longer there. -/
theorem read_bytes {stream later : Stream} {room : Nat} {piece : Bytes}
    (arrived : stream.read room = (.bytes piece, later)) :
    piece.length ≤ room ∧ stream.rest = piece ++ later.rest := by
  unfold read at arrived
  split at arrived
  · cases arrived
  · split at arrived
    · cases arrived
    · cases arrived
      constructor
      · rw [List.length_take]
        exact Nat.le_trans (Nat.min_le_left ..) (foldl_min_le _ _)
      · exact (take_append_drop_length_take _ _).symm

theorem read_interrupted {stream later : Stream} {room : Nat}
    (arrived : stream.read room = (.interrupted, later)) : later.rest = stream.rest := by
  unfold read at arrived
  split at arrived
  · cases arrived
    rfl
  · split at arrived <;> cases arrived

theorem read_plain {stream : Stream} (plain : stream.Plain) (room : Nat) :
    stream.read room =
      (.bytes (stream.rest.take room), stream.advance (stream.rest.take room).length) := by
  simp [read, allowance, plain.piece, plain.interrupts, plain.failure]

theorem fillFrom_rest {patience room : Nat} {pieces : List Bytes} {stream later : Stream}
    {block : Bytes} (filled : fillFrom patience room pieces stream = .ok (block, later)) :
    ∃ more, block = pieces.reverse.flatten ++ more ∧ more.length ≤ room ∧
      stream.rest = more ++ later.rest := by
  induction patience generalizing room pieces stream with
  | zero =>
    cases filled
    exact ⟨[], by simp, Nat.zero_le _, rfl⟩
  | succ patience ih =>
    unfold fillFrom at filled
    split at filled
    · cases filled
      exact ⟨[], by simp, Nat.zero_le _, rfl⟩
    · split at filled
      next next arrived =>
        rw [← read_interrupted arrived]
        exact ih filled
      next => cases filled
      next next arrived =>
        cases filled
        exact ⟨[], by simp, Nat.zero_le _, (read_bytes arrived).2⟩
      next piece next _ arrived =>
        obtain ⟨short, rest⟩ := read_bytes arrived
        obtain ⟨more, rfl, fits, left⟩ := ih filled
        refine ⟨piece ++ more, by simp, ?_, by rw [rest, left, List.append_assoc]⟩
        rw [List.length_append]
        omega

/-- Filling takes the bytes from the front of what is left. -/
theorem fill_rest {room : Nat} {stream later : Stream} {block : Bytes}
    (filled : stream.fill room = .ok (block, later)) :
    block.length ≤ room ∧ stream.rest = block ++ later.rest := by
  obtain ⟨more, rfl, fits, rest⟩ := fillFrom_rest filled
  exact ⟨fits, rest⟩

theorem fill_plain {stream : Stream} (plain : stream.Plain) (room : Nat) :
    stream.fill room =
      .ok (stream.rest.take room, stream.advance (stream.rest.take room).length) := by
  obtain ⟨rest, position, piece, interrupts, failure⟩ := stream
  obtain ⟨rfl, rfl, rfl⟩ := plain
  have plain : (Stream.mk rest position (fun _ => none) [] none).Plain := ⟨rfl, rfl, rfl⟩
  rw [fill, fillFrom]
  split
  next zero => simp [zero, advance]
  next positive =>
    rw [read_plain plain]
    cases taken : rest.take room with
    | nil => simp
    | cons first more =>
      obtain ⟨patience, rfl⟩ : ∃ patience, room = patience + 1 := ⟨room - 1, by omega⟩
      simp only [List.length_nil, Nat.add_zero, fillFrom]
      split
      · simp
      next left =>
        rw [read_plain (plain.advance _)]
        have all : rest.drop (more.length + 1) = [] := by
          have length := congrArg List.length taken
          simp only [List.length_take, List.length_cons] at length left
          exact List.drop_eq_nil_of_le (by omega)
        simp [advance, all]

end Stream

namespace HashTree

variable {hash : Bytes → Digest} {params : Params}

/-- One block is read, and the rest of the stream unless the block is the last. -/
theorem readLeaves_succ {patience size : Nat} {digests : List Digest} {stream later : Stream}
    {block : Bytes} (filled : stream.fill params.dataBlockSize = .ok (block, later)) :
    readLeaves hash params (patience + 1) digests size stream =
      let leaf := saltedDigest hash params (block.padded params.dataBlockSize)
      if block.isEmpty then .ok ⟨digests.reverse, size⟩
      else if block.length < params.dataBlockSize then
        .ok ⟨(leaf :: digests).reverse, size + block.length⟩
      else readLeaves hash params patience (leaf :: digests) (size + block.length) later := by
  rw [readLeaves, filled]
  rfl

theorem readLeaves_nil {patience size : Nat} {digests : List Digest} {stream : Stream}
    (plain : stream.Plain) (empty : stream.rest = []) :
    readLeaves hash params patience digests size stream = .ok ⟨digests.reverse, size⟩ := by
  cases patience with
  | zero => rfl
  | succ patience =>
    rw [readLeaves_succ (Stream.fill_plain plain _), empty, List.take_nil]
    rfl

/-- What was read of a stream is read again of a beginning of its bytes in one piece. -/
theorem readLeaves_prefix (positive : 0 < params.dataBlockSize) {patience size : Nat}
    {digests : List Digest} {stream : Stream} {found : Leaves}
    (read : readLeaves hash params patience digests size stream = .ok found) :
    ∃ length ≤ stream.rest.length, ∀ (patience' : Nat) (plain : Stream), length < patience' →
      plain.Plain → plain.rest = stream.rest.take length →
      readLeaves hash params patience' digests size plain = .ok found := by
  -- Either side has its own patience: that of the stream is what the induction is on, and that of the
  -- beginning has only to outlast its bytes.
  induction patience generalizing digests size stream with
  | zero =>
    cases read
    exact ⟨0, Nat.zero_le _, fun _ _ _ isPlain rest => readLeaves_nil isPlain rest⟩
  | succ patience ih =>
    cases filled : stream.fill params.dataBlockSize with
    | error cause =>
      rw [readLeaves, filled] at read
      cases read
    | ok result =>
      obtain ⟨block, later⟩ := result
      obtain ⟨fits, rest⟩ := Stream.fill_rest filled
      rw [readLeaves_succ filled] at read
      by_cases empty : block.isEmpty = true
      · rw [if_pos empty] at read
        cases read
        exact ⟨0, Nat.zero_le _, fun _ _ _ isPlain rest => readLeaves_nil isPlain rest⟩
      rw [if_neg empty] at read
      by_cases short : block.length < params.dataBlockSize
      · rw [if_pos short] at read
        refine ⟨block.length, by rw [rest]; simp, ?_⟩
        rintro (_ | patience') plain enough isPlain only
        · omega
        have whole : plain.rest = block := by rw [only, rest]; simp
        have taken : plain.rest.take params.dataBlockSize = block := by
          rw [whole, List.take_of_length_le fits]
        rw [readLeaves_succ (Stream.fill_plain isPlain _), taken, if_neg empty, if_pos short]
        exact read
      · rw [if_neg short] at read
        obtain ⟨length, inside, same⟩ := ih read
        refine ⟨block.length + length, by rw [rest]; simp [inside], ?_⟩
        rintro (_ | patience') plain enough isPlain only
        · omega
        have whole : plain.rest = block ++ later.rest.take length := by
          rw [only, rest, List.take_length_add_append]
        have taken : plain.rest.take params.dataBlockSize = block := by
          have full : params.dataBlockSize = block.length := by omega
          rw [whole, full, List.take_left]
        rw [readLeaves_succ (Stream.fill_plain isPlain _), taken, if_neg empty, if_neg short]
        refine same patience' _ (by omega) (isPlain.advance _) ?_
        simp [Stream.advance, whole]

theorem Params.validate_eq_ok_iff : params.validate = .ok () ↔
    (params.dataBlockSize ≤ maxBlockSize ∧ params.hashBlockSize ≤ maxBlockSize) ∧
      (isPowerOfTwo params.dataBlockSize = true ∧ 512 ≤ params.dataBlockSize) ∧
      isPowerOfTwo params.hashBlockSize = true ∧ 2 * Digest.size ≤ params.hashBlockSize := by
  unfold Params.validate
  simp only [Bool.or_eq_true, Bool.not_eq_true', decide_eq_true_eq, ← Bool.not_eq_true]
  split
  next large =>
    refine iff_of_false nofun ?_
    rintro ⟨small, -⟩
    omega
  next small =>
    split
    next odd =>
      refine iff_of_false nofun ?_
      rintro ⟨-, ⟨power, enough⟩, -⟩
      exact odd.elim (· power) (Nat.not_lt.2 enough)
    next data =>
      split
      next odd =>
        refine iff_of_false nofun ?_
        rintro ⟨-, -, power, enough⟩
        exact odd.elim (· power) (Nat.not_lt.2 enough)
      next hashed =>
        simp only [not_or, Decidable.not_not, Nat.not_lt] at small data hashed
        exact iff_of_true rfl ⟨small, data, hashed⟩

theorem Params.dataBlockSize_pos (valid : params.validate = .ok ()) : 0 < params.dataBlockSize :=
  Nat.lt_of_lt_of_le (by decide) (validate_eq_ok_iff.1 valid).2.1.2

/-- A tree that was built is that of some beginning of the stream's bytes, delivered in one piece. -/
theorem build_prefix {stream : Stream} {tree : HashTree}
    (built : build hash params stream = .ok tree) :
    params.validate = .ok () ∧
      ∃ length, build hash params (.ofBytes (stream.rest.take length)) = .ok tree := by
  unfold build at built
  cases valid : params.validate with
  | error cause =>
    rw [valid] at built
    cases built
  | ok _ =>
    refine ⟨rfl, ?_⟩
    rw [valid] at built
    cases read : leaves hash params stream with
    | error cause =>
      rw [read] at built
      cases built
    | ok found =>
      obtain ⟨length, inside, same⟩ := readLeaves_prefix (Params.dataBlockSize_pos valid) read
      have again : leaves hash params (.ofBytes (stream.rest.take length)) = .ok found := by
        refine same _ _ ?_ (.ofBytes _) rfl
        simp [Stream.ofBytes, inside]
      refine ⟨length, ?_⟩
      rw [read] at built
      rw [build, valid, again]
      exact built

/-- Some beginning of the bytes is an image with this root hash, under parameters that are valid. -/
def IsRootWithin (hash : Bytes → Digest) (rootHash : Digest) (bytes : Bytes) : Prop :=
  ∃ params length, Params.validate params = .ok () ∧
    verify hash params rootHash (.ofBytes (bytes.take length)) = .ok true

theorem IsRootWithin.mono {rootHash : Digest} {beginning bytes : Bytes}
    (within : IsRootWithin hash rootHash beginning) (inside : beginning <+: bytes) :
    IsRootWithin hash rootHash bytes := by
  obtain ⟨params, length, valid, verified⟩ := within
  refine ⟨params, min length beginning.length, valid, ?_⟩
  have cut : bytes.take (min length beginning.length) = beginning.take length := by
    rw [← List.take_take, ← List.prefix_iff_eq_take.1 inside]
  rw [cut]
  exact verified

theorem build_isRootWithin {stream : Stream} {tree : HashTree}
    (built : build hash params stream = .ok tree) : IsRootWithin hash tree.rootHash stream.rest := by
  obtain ⟨valid, length, same⟩ := build_prefix built
  refine ⟨params, length, valid, ?_⟩
  rw [verify, same]
  simp [bind, Except.bind, pure, Except.pure]

end HashTree

end DualSlot
