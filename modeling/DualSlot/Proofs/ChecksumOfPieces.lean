import DualSlot.Checksum
import DualSlot.Proofs.StreamEnding

/-! The flat checksum does not depend on how the bytes arrive. A hasher has compressed the whole blocks of
what it was given and keeps the rest, so its digest is that of one message in one piece. A stream that is
read to its end has given it all its bytes, and reads that bring nothing have given it nothing. What is
proved of all streams holds of all readers (`Stream.exists_arrivals`). -/

namespace DualSlot

/-- Whole blocks at the beginning are cut as they are by themselves. -/
theorem blocks_append {size : Nat} (positive : 0 < size) {front : List α} (whole : size ∣ front.length)
    (back : List α) : blocks size (front ++ back) = blocks size front ++ blocks size back := by
  obtain ⟨count, length⟩ := whole
  induction count generalizing front with
  | zero =>
    obtain rfl : front = [] := List.eq_nil_of_length_eq_zero length
    rw [blocks_nil _ positive, List.nil_append, List.nil_append]
  | succ count ih =>
    have long : size ≤ front.length := by
      rw [length]
      exact Nat.le_mul_of_pos_right _ (Nat.succ_pos _)
    have nonempty : front ≠ [] := List.length_pos_iff.1 (by omega)
    have rest : (front.drop size).length = size * count := by
      rw [List.length_drop, length, Nat.mul_succ, Nat.add_sub_cancel]
    rw [blocks_of_ne_nil positive (List.append_ne_nil_of_left_ne_nil nonempty back),
      blocks_of_ne_nil positive nonempty, List.take_append_of_le_length long,
      List.drop_append_of_le_length long, ih rest, List.cons_append]

namespace Sha256

/-- The digest of a message: its bytes and the padding, cut into blocks that are compressed in order. -/
def ofMessage (message : Bytes) : Digest :=
  ((blocks 64 (message ++ padding message.length)).foldl compress .start).digest

namespace Hasher

/-- The hasher was given this message: a beginning of whole blocks is compressed, and the rest waits. -/
inductive Given : Hasher → Bytes → Prop
  | of {done pending} (whole : 64 ∣ done.length) :
      Given ⟨(blocks 64 done).foldl compress .start, pending, (done ++ pending).length⟩ (done ++ pending)

theorem given_start : start.Given [] :=
  @Given.of [] [] ⟨0, rfl⟩

variable {hasher : Hasher} {message : Bytes}

theorem Given.update (given : hasher.Given message) (piece : Bytes) :
    (hasher.update piece).Given (message ++ piece) := by
  obtain @⟨done, pending, whole⟩ := given
  obtain ⟨ready, joined⟩ : ∃ ready, ready = pending ++ piece := ⟨_, rfl⟩
  have parts : done ++ pending ++ piece =
      done ++ ready.take (64 * (ready.length / 64)) ++ ready.drop (64 * (ready.length / 64)) := by
    rw [List.append_assoc, List.append_assoc, List.take_append_drop, joined]
  have complete : 64 ∣ (ready.take (64 * (ready.length / 64))).length := by
    rw [List.length_take, Nat.min_eq_left (Nat.mul_div_le ..)]
    exact Nat.dvd_mul_right ..
  have longer : 64 ∣ (done ++ ready.take (64 * (ready.length / 64))).length := by
    rw [List.length_append]
    exact Nat.dvd_add whole complete
  have updated : Hasher.update ⟨(blocks 64 done).foldl compress .start, pending, (done ++ pending).length⟩ piece =
      ⟨(blocks 64 (done ++ ready.take (64 * (ready.length / 64)))).foldl compress .start,
        ready.drop (64 * (ready.length / 64)), (done ++ pending ++ piece).length⟩ := by
    rw [blocks_append (by decide) whole, List.foldl_append, @List.length_append _ (done ++ pending), joined]
    rfl
  rw [updated, parts]
  exact .of longer

theorem Given.foldl_update (given : hasher.Given message) (pieces : List Bytes) :
    (pieces.foldl Hasher.update hasher).Given (message ++ pieces.flatten) := by
  induction pieces generalizing hasher message with
  | nil => simpa using given
  | cons piece pieces ih =>
    rw [List.foldl_cons, List.flatten_cons, ← List.append_assoc]
    exact ih (given.update piece)

theorem Given.digest_eq (given : hasher.Given message) : hasher.digest = ofMessage message := by
  obtain @⟨done, pending, whole⟩ := given
  rw [ofMessage, List.append_assoc, blocks_append (by decide) whole, List.foldl_append]
  rfl

end Hasher

/-- A message in one piece has the digest of its definition. -/
theorem digest_eq_ofMessage (message : Bytes) : digest message = ofMessage message :=
  (Hasher.given_start.update message).digest_eq

end Sha256

namespace Stream

variable {stream : Stream} {bytes : Bytes}

theorem Carries.checksum_due (carries : stream.Carries bytes) :
    stream.checksum =
      match stream.due with
      | some cause => .error cause
      | none => .ok (Sha256.ofMessage bytes) := by
  obtain ⟨cause, isDue, failed⟩ | ⟨calm, pieces, rfl, folded⟩ := carries.fold_due Sha256.Hasher.update .start
  · rw [isDue, checksum]
    cases folded : stream.fold Sha256.Hasher.update .start with
    | mk hasher failure =>
      rw [folded] at failed
      obtain rfl := failed
      rfl
  · rw [calm, checksum, folded]
    have given := Sha256.Hasher.given_start.foldl_update pieces
    exact congrArg Except.ok given.digest_eq

end Stream

/-- The tally of reads, whatever each of them comes to, is that of the bytes they bring. -/
theorem Tally.foldl_after (arrivals : List Arrival) {tally : Tally} {message : Bytes}
    (given : tally.hasher.Given message) (counted : tally.consumed = message.length) :
    let later := arrivals.foldl Tally.after tally
    later.hasher.Given (message ++ Stream.received arrivals) ∧
      later.consumed = (message ++ Stream.received arrivals).length := by
  induction arrivals generalizing tally message with
  | nil =>
    rw [Stream.received, List.append_nil]
    exact ⟨given, counted⟩
  | cons arrival arrivals ih =>
    cases arrival with
    | bytes piece =>
      rw [Stream.received, ← List.append_assoc]
      refine ih (given.update piece) ?_
      rw [List.length_append, ← counted]
      rfl
    | interrupted => exact ih given counted
    | failed cause => exact ih given counted

namespace TalliedStream

/-- What reads through the tally come to, one after the other, each with room for some bytes, and the
tally after them. -/
def reads : List Nat → TalliedStream → List Arrival × Tally
  | [], tallied => ([], tallied.tally)
  | room :: rooms, tallied =>
    let (arrival, later) := tallied.read room
    let (arrivals, tally) := reads rooms later
    (arrival :: arrivals, tally)

/-- Reads through a tally come to what the stream's own reads come to. -/
theorem reads_eq (rooms : List Nat) (tallied : TalliedStream) :
    tallied.reads rooms =
      (Stream.arrivals rooms tallied.stream,
        (Stream.arrivals rooms tallied.stream).foldl Tally.after tallied.tally) := by
  induction rooms generalizing tallied with
  | nil => rfl
  | cons room rooms ih =>
    simp only [reads, ih]
    rfl

end TalliedStream

/-- However the bytes of a stream arrive, its checksum is the digest of all of them, and it is what an
expected digest is compared with; if a failure comes before the stream ends, there is neither a digest nor
a verdict. Reads through a tally come to what the stream's own reads come to, and whatever reads come to,
some of them without room and some of them failed, the tally has the number and the digest of the bytes
that they brought. -/
theorem checksum_of_pieces :
    (∀ (stream : Stream) (bytes : Bytes), stream.Carries bytes →
      (stream.due = none → stream.checksum = .ok (Sha256.ofMessage bytes) ∧
        ∀ expected, stream.hasChecksum expected = .ok (decide (Sha256.ofMessage bytes = expected))) ∧
      ∀ cause, stream.due = some cause → stream.checksum = .error cause ∧
        ∀ expected, stream.hasChecksum expected = .error cause) ∧
    (∀ (stream : Stream) (rooms : List Nat),
      (TalliedStream.ofStream stream).reads rooms =
        (Stream.arrivals rooms stream, (Stream.arrivals rooms stream).foldl Tally.after .start)) ∧
    ∀ arrivals : List Arrival,
      (arrivals.foldl Tally.after .start).consumed = (Stream.received arrivals).length ∧
        (arrivals.foldl Tally.after .start).digest = Sha256.ofMessage (Stream.received arrivals) := by
  refine ⟨fun stream bytes carries => ⟨fun calm => ?_, fun cause failing => ?_⟩, fun stream rooms => ?_,
    fun arrivals => ?_⟩
  · have summed := carries.checksum_due
    rw [calm] at summed
    refine ⟨summed, fun expected => ?_⟩
    rw [Stream.hasChecksum, summed]
    rfl
  · have summed := carries.checksum_due
    rw [failing] at summed
    refine ⟨summed, fun expected => ?_⟩
    rw [Stream.hasChecksum, summed]
    rfl
  · exact TalliedStream.reads_eq rooms (.ofStream stream)
  · obtain ⟨given, counted⟩ := @Tally.foldl_after arrivals .start [] Sha256.Hasher.given_start rfl
    exact ⟨counted, given.digest_eq⟩

/-- The letters a, b and c, one in each read, with an interruption before the first and two before the
second. -/
def spelled (failure : Option (Nat × IoError)) : Stream :=
  ⟨[0x61, 0x62, 0x63], 0, fun _ => some 1, [0, 1, 1], failure⟩

theorem checksum_of_pieces_spelled :
    (Sha256.ofMessage [0x61, 0x62, 0x63]).hex =
      "ba7816bf8f01cfea414140de5dae2223b00361a396177a9cb410ff61f20015ad" ∧
    (spelled none).checksum = .ok (Sha256.ofMessage [0x61, 0x62, 0x63]) ∧
    (spelled none).hasChecksum .zero = .ok false ∧
    (spelled (some (3, .notFound))).hasChecksum .zero = .error .notFound ∧
    ((TalliedStream.ofStream (spelled none)).reads [8, 0, 8, 8]).2.digest = Sha256.ofMessage [0x61] := by
  have carries (failure : Option (Nat × IoError)) : (spelled failure).Carries [0x61, 0x62, 0x63] :=
    ⟨rfl, fun _ impossible => by cases impossible⟩
  have known : (Sha256.ofMessage [0x61, 0x62, 0x63]).hex =
      "ba7816bf8f01cfea414140de5dae2223b00361a396177a9cb410ff61f20015ad" := by decide +kernel
  obtain ⟨streams, tallied, tallies⟩ := checksum_of_pieces
  obtain ⟨summed, compared⟩ := (streams _ _ (carries none)).1 rfl
  refine ⟨known, summed, ?_, ?_, ?_⟩
  · rw [compared, decide_eq_false]
    intro same
    rw [same] at known
    exact absurd known (by decide +kernel)
  · exact ((streams _ _ (carries (some (3, .notFound)))).2 .notFound rfl).2 .zero
  · rw [tallied]
    exact (tallies _).2

end DualSlot
