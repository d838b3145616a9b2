import Mathlib.Data.List.Forall2
import Mathlib.Logic.Function.Basic
import DualSlot.Proofs.StreamDelivery

/-! How a stream ends. Either a failure is due before a read comes back empty, and then whoever reads to
the end is told of it, or none is, and then all the bytes are read. The tree of a stream depends on
nothing else: not on the sizes of the pieces, and not on the interruptions between them. -/

namespace DualSlot

namespace Stream

variable {stream later : Stream} {bytes piece : Bytes} {room : Nat} {cause : IoError}

/-- Filling room fails if a failure is due before the bytes end, at the latest when the room reaches
beyond them. -/
theorem Carries.fillFrom_due {patience : Nat} {pieces : List Bytes} (carries : stream.Carries bytes)
    (enough : room + stream.interrupts.length < patience) :
    (∃ cause, Stream.fillFrom patience room pieces stream = .error cause ∧ stream.due = some cause) ∨
    ∃ block later, Stream.fillFrom patience room pieces stream = .ok (block, later) ∧
      later.due = stream.due ∧ (bytes.length < room → stream.due = none) := by
  induction patience generalizing room pieces stream bytes with
  | zero => omega
  | succ patience ih =>
    unfold Stream.fillFrom
    by_cases full : room = 0
    · rw [if_pos full]
      exact .inr ⟨_, _, rfl, rfl, fun short => by omega⟩
    rw [if_neg full]
    have positive : 0 < room := Nat.pos_of_ne_zero full
    cases arrived : stream.read room with
    | mk arrival next =>
      cases arrival with
      | interrupted =>
        obtain ⟨same, fewer⟩ := carries.read_interrupted arrived
        rw [← due_read_interrupted arrived]
        exact ih same (by omega)
      | failed cause => exact .inl ⟨cause, rfl, due_read_failed arrived⟩
      | bytes piece =>
        obtain ⟨same, ended⟩ := carries.due_read_bytes positive arrived
        cases piece with
        | nil => exact .inr ⟨_, _, rfl, same, fun _ => ended rfl⟩
        | cons first more =>
          obtain ⟨rest, -, fits, interrupts, -⟩ := carries.read_bytes positive arrived
          have nonempty : 0 < (first :: more).length := Nat.succ_pos _
          have parts := carries.length_read positive arrived
          rw [← same]
          apply (ih rest (by rw [interrupts]; omega)).imp_right
          rintro ⟨block, later, filled, kept, calm⟩
          exact ⟨block, later, filled, kept, fun short => calm (by omega)⟩

theorem Carries.fill_due (carries : stream.Carries bytes) (room : Nat) :
    (∃ cause, stream.fill room = .error cause ∧ stream.due = some cause) ∨
    ∃ block later, stream.fill room = .ok (block, later) ∧
      later.due = stream.due ∧ (bytes.length < room → stream.due = none) :=
  carries.fillFrom_due (by omega)

/-- What one read after the other brings, each with room for some bytes. -/
def arrivals : List Nat → Stream → List Arrival
  | [], _ => []
  | room :: rooms, stream => (stream.read room).1 :: arrivals rooms (stream.read room).2

/-- The bytes that arrive at a consumer that asks again after an interruption. -/
def received : List Arrival → Bytes
  | [] => []
  | .bytes piece :: script => piece ++ received script
  | _ :: script => received script

/-- What a reader can bring before it ends: pieces of some bytes, and interruptions. -/
def Possible (script : List Arrival) : Prop :=
  ∀ arrival ∈ script, arrival = .interrupted ∨ ∃ piece, arrival = .bytes piece ∧ piece ≠ []

/-- Every piece fits in the room that its read has. -/
def Fit (rooms : List Nat) (script : List Arrival) : Prop :=
  List.Forall₂ (fun room arrival => ∀ piece, arrival = .bytes piece → piece.length ≤ room) rooms script

/-- Nothing is planned before a position. -/
structure Ahead (start : Nat) (stream : Stream) : Prop where
  position : stream.position = start
  interrupts : ∀ mark ∈ stream.interrupts, start ≤ mark
  failure : ∀ planned ∈ stream.failure, start ≤ planned.1

/-- From this position on a stream brings this and then ends so. What its reads would have brought before
is left open, since what comes first is planned last. -/
structure Plays (start : Nat) (script : List Arrival) (ending : Option IoError) (stream : Stream) : Prop where
  ahead : stream.Ahead start
  carries : stream.Carries (received script)
  due : stream.due = ending
  arrivals : ∀ table, (∀ position ≥ start, table position = stream.piece position) →
    ∀ rooms, Fit rooms script → arrivals rooms { stream with piece := table } = script

theorem foldl_min_eq {bounds : List Nat} {least : Nat} (first : least ≤ room)
    (bounded : ∀ bound ∈ bounds, least ≤ bound) : (least :: bounds).foldl min room = least := by
  rw [List.foldl_cons, Nat.min_eq_right first]
  clear first
  induction bounds with
  | nil => rfl
  | cons bound bounds ih =>
    rw [List.foldl_cons, Nat.min_eq_left (bounded bound List.mem_cons_self)]
    exact ih fun other inside => bounded other (List.mem_cons_of_mem _ inside)

/-- A read before anything that is planned brings the piece of this position. -/
theorem read_piece {start : Nat} (ahead : later.Ahead (start + piece.length)) (nonempty : piece ≠ [])
    (fits : piece.length ≤ room) {table : Nat → Option Nat} (here : table start = some piece.length) :
    Stream.read { later with rest := piece ++ later.rest, position := start, piece := table } room =
      (.bytes piece, { later with piece := table }) := by
  have positive : 0 < piece.length := List.length_pos_iff.2 nonempty
  obtain ⟨rest, position, pieces, interrupts, failure⟩ := later
  obtain ⟨rfl, marks, planned⟩ := ahead
  dsimp only at marks planned
  have calm : interrupts.find? (· ≤ start) = none := by
    apply List.find?_eq_none.2
    intro mark inside
    have later := marks mark inside
    rw [decide_eq_true_eq]
    omega
  have sound : failure.filter (·.1 ≤ start) = none := by
    apply Option.filter_eq_none_iff.2
    intro pair found
    have later := planned pair found
    rw [decide_eq_true_eq]
    omega
  have allowed : ((table start).toList ++ (interrupts ++ (failure.map (·.1)).toList).map (· - start)).foldl
      min room = piece.length := by
    rw [here, Option.toList_some, List.singleton_append]
    apply foldl_min_eq fits
    intro bound inside
    simp only [List.mem_map, List.mem_append, Option.mem_toList] at inside
    obtain ⟨mark, interrupt | failing, rfl⟩ := inside
    · have later := marks mark interrupt
      omega
    · obtain ⟨pair, found, rfl⟩ := Option.map_eq_some_iff.1 failing
      have later := planned pair found
      omega
  simp only [Stream.read, calm, sound, allowance, allowed, List.take_left, advance, List.drop_left]

theorem plays_nil (start : Nat) (ending : Option IoError) :
    Plays start [] ending ⟨[], start, fun _ => none, [], ending.map (start, ·)⟩ := by
  refine ⟨⟨rfl, ?_, ?_⟩, ⟨rfl, ?_⟩, ?_, ?_⟩
  · intro mark inside
    cases inside
  · intro planned inside
    obtain ⟨cause, -, rfl⟩ := Option.map_eq_some_iff.1 inside
    exact Nat.le_refl _
  · intro position impossible
    cases impossible
  · cases ending <;> simp [Stream.due]
  · intro table _ rooms fit
    cases fit
    rfl

theorem Plays.cons_interrupted {start : Nat} {script : List Arrival} {ending : Option IoError}
    (plays : Plays start script ending stream) :
    Plays start (.interrupted :: script) ending { stream with interrupts := start :: stream.interrupts } := by
  refine ⟨⟨plays.ahead.position, ?_, plays.ahead.failure⟩, ⟨plays.carries.rest, plays.carries.piece⟩,
    plays.due, ?_⟩
  · intro mark inside
    rcases List.mem_cons.1 inside with rfl | inside
    · exact Nat.le_refl _
    · exact plays.ahead.interrupts mark inside
  · intro table agrees rooms fit
    cases fit with
    | @cons room _ rooms _ _ fit =>
      have first : Stream.read { stream with interrupts := start :: stream.interrupts, piece := table } room =
          (.interrupted, { stream with piece := table }) := by
        simp [Stream.read, plays.ahead.position]
      rw [Stream.arrivals, first, plays.arrivals table agrees rooms fit]

theorem Plays.cons_piece {start : Nat} {script : List Arrival} {ending : Option IoError}
    (plays : Plays (start + piece.length) script ending stream) (nonempty : piece ≠ []) :
    Plays start (.bytes piece :: script) ending { stream with
      rest := piece ++ stream.rest
      position := start
      piece := Function.update stream.piece start (some piece.length) } := by
  have positive : 0 < piece.length := List.length_pos_iff.2 nonempty
  refine ⟨⟨rfl, ?_, ?_⟩, ⟨?_, ?_⟩, ?_, ?_⟩
  · intro mark inside
    have later := plays.ahead.interrupts mark inside
    omega
  · intro planned inside
    have later := plays.ahead.failure planned inside
    omega
  · rw [plays.carries.rest]
    rfl
  · intro position
    dsimp only
    by_cases here : position = start
    · rw [here, Function.update_self]
      intro empty
      have zero := Option.some.inj empty
      omega
    · rw [Function.update_of_ne here]
      exact plays.carries.piece position
  · rw [← plays.due]
    simp only [Stream.due, plays.ahead.position, List.length_append, Nat.add_assoc]
  · intro table agrees rooms fit
    dsimp only at agrees
    cases fit with
    | cons fits fit =>
      have here : table start = some piece.length := by
        rw [agrees start (Nat.le_refl _), Function.update_self]
      have beyond : ∀ position ≥ start + piece.length, table position = stream.piece position := by
        intro position later
        rw [agrees position (by omega), Function.update_of_ne (by omega)]
      rw [Stream.arrivals, read_piece plays.ahead nonempty (fits piece rfl) here]
      rw [plays.arrivals table beyond _ fit]

/-- Whatever a reader brings, and however it ends, there is a stream that does so: what holds of all
streams holds of all readers. -/
theorem exists_arrivals {script : List Arrival} (possible : Possible script) (ending : Option IoError) :
    ∃ stream : Stream, stream.Carries (received script) ∧ stream.due = ending ∧
      ∀ rooms, Fit rooms script → arrivals rooms stream = script := by
  have planned : ∀ start, ∃ stream, Plays start script ending stream := by
    induction script with
    | nil => exact fun start => ⟨_, plays_nil start ending⟩
    | cons arrival script ih =>
      intro start
      have rest : Possible script := fun other inside => possible other (List.mem_cons_of_mem _ inside)
      rcases possible arrival List.mem_cons_self with rfl | ⟨piece, rfl, nonempty⟩
      · obtain ⟨stream, plays⟩ := ih rest start
        exact ⟨_, plays.cons_interrupted⟩
      · obtain ⟨stream, plays⟩ := ih rest (start + piece.length)
        exact ⟨_, plays.cons_piece nonempty⟩
  obtain ⟨stream, plays⟩ := planned 0
  exact ⟨stream, plays.carries, plays.due, plays.arrivals stream.piece fun _ _ => rfl⟩

end Stream

namespace HashTree

variable {hash : Bytes → Digest} {params : Params} {stream : Stream} {image : Bytes}

theorem readLeaves_due (positive : 0 < params.dataBlockSize) {patience size : Nat}
    {digests : List Digest} (carries : stream.Carries image) (enough : image.length < patience) :
    (∃ cause, readLeaves hash params patience digests size stream = .error cause ∧
      stream.due = some cause) ∨
    ∃ found, readLeaves hash params patience digests size stream = .ok found ∧ stream.due = none := by
  -- Only the last block is short, so a failure that is due is met before or while it is filled.
  induction patience generalizing digests size stream image with
  | zero => omega
  | succ patience ih =>
    obtain ⟨cause, failed, isDue⟩ | ⟨block, later, filled, same, ended⟩ :=
      carries.fill_due params.dataBlockSize
    · refine .inl ⟨cause, ?_, isDue⟩
      rw [readLeaves, failed]
      rfl
    obtain ⟨rfl, rest⟩ := carries.fill filled
    rw [readLeaves_succ filled]
    dsimp only
    by_cases short : image.length < params.dataBlockSize
    · have partial' : (image.take params.dataBlockSize).length < params.dataBlockSize := by
        rw [List.length_take]
        omega
      rw [if_pos partial']
      split
      · exact .inr ⟨_, rfl, ended short⟩
      · exact .inr ⟨_, rfl, ended short⟩
    · have whole : (image.take params.dataBlockSize).length = params.dataBlockSize := by
        rw [List.length_take]
        omega
      have nonempty : ¬ (image.take params.dataBlockSize).isEmpty = true := by
        intro empty
        rw [List.isEmpty_iff.1 empty] at whole
        exact absurd whole.symm (Nat.ne_of_gt positive)
      rw [if_neg nonempty, if_neg (by omega), ← same]
      apply ih rest
      rw [List.length_drop]
      omega

theorem leaves_due (hash : Bytes → Digest) (positive : 0 < params.dataBlockSize)
    (carries : stream.Carries image) :
    (∃ cause, leaves hash params stream = .error cause ∧ stream.due = some cause) ∨
    leaves hash params stream = .ok ⟨imageDigests hash params image, image.length⟩ ∧ stream.due = none := by
  have enough : image.length < stream.rest.length + 1 := by
    rw [carries.rest]
    exact Nat.lt_succ_self _
  refine (readLeaves_due positive carries enough).imp_right ?_
  rintro ⟨found, read, calm⟩
  have whole := readLeaves_carries positive carries enough read
  rw [List.reverse_nil, List.nil_append, Nat.zero_add] at whole
  exact ⟨read.trans (congrArg Except.ok whole), calm⟩

/-- What is built of a stream that delivers an image: its tree, or the failure that is due. -/
theorem build_due (hash : Bytes → Digest) (valid : params.validate = .ok ())
    (carries : stream.Carries image) :
    build hash params stream =
      match stream.due with
      | some cause => .error (.unreadable cause)
      | none => .ok (ofImage hash params image) := by
  obtain ⟨cause, failed, isDue⟩ | ⟨read, calm⟩ := leaves_due hash (Params.dataBlockSize_pos valid) carries
  · rw [isDue, build, valid, failed]
    rfl
  · rw [calm, build, valid, read]
    rfl

end HashTree

end DualSlot
