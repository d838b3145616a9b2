import Mathlib
import DualSlot.Proofs.DigestText
import DualSlot.Proofs.JsonText
import DualSlot.Proofs.Results
import DualSlot.Proofs.TextEdges
import DualSlot.Record.Codec

/-! What every text is read as, where a digest is expected. Without the white space around it a text is
either 64 digits of base 16, and then the written form of the digest but for the case of its letters, or it
is refused for the first of three reasons. As JSON a digest is the string of its written form. -/

namespace DualSlot

namespace Hex

/-- The digits of base 16, those beyond nine in either case. -/
def digits : List Char := "0123456789abcdefABCDEF".toList

theorem value?_eq_none_iff {c : Char} : value? c = none ↔ c ∉ digits := by
  by_cases ascii : c.toNat < 128
  · exact Text.of_ascii ascii (by decide +kernel)
  · have low : digits.all (·.toNat < 128) = true := by decide
    rw [value?_of_ascii_le (Nat.le_of_not_lt ascii)]
    exact iff_of_true rfl fun inside => ascii (of_decide_eq_true (List.all_eq_true.1 low c inside))

/-- A text is no bytes if there is another character in it than a digit, or a digit without its partner. -/
theorem decodeFrom_eq_none_iff {found : Bytes} {text : List Char} :
    decodeFrom found text = none ↔ (∃ c ∈ text, c ∉ digits) ∨ text.length % 2 = 1 := by
  fun_induction decodeFrom found text with
  | case1 found => simp
  | case2 found c => simp
  | case3 found high low rest ih =>
    have pairs : (high :: low :: rest).length % 2 = rest.length % 2 := by
      rw [List.length_cons, List.length_cons]
      omega
    rw [pairs]
    cases upper : value? high with
    | none => exact iff_of_true rfl (.inl ⟨high, by simp, value?_eq_none_iff.1 upper⟩)
    | some upperValue =>
      cases lower : value? low with
      | none => exact iff_of_true rfl (.inl ⟨low, by simp, value?_eq_none_iff.1 lower⟩)
      | some lowerValue =>
        have highDigit : high ∈ digits := not_not.1 fun other => by simp [value?_eq_none_iff.2 other] at upper
        have lowDigit : low ∈ digits := not_not.1 fun other => by simp [value?_eq_none_iff.2 other] at lower
        have others : (∃ c ∈ high :: low :: rest, c ∉ digits) ↔ ∃ c ∈ rest, c ∉ digits := by
          simp [highDigit, lowDigit]
        rw [others]
        exact ih upperValue lowerValue

theorem decode?_eq_none_iff {text : List Char} :
    decode? text = none ↔ (∃ c ∈ text, c ∉ digits) ∨ text.length % 2 = 1 :=
  decodeFrom_eq_none_iff

/-- The same digits, some letters of which may be in the upper case. -/
def Respelled (text spelled : List Char) : Prop :=
  List.Forall₂ (fun c other => other = c ∨ other = c.toUpper) text spelled

theorem Respelled.lower {text spelled : List Char} (respelled : Respelled text spelled) :
    spelled.map Char.toLower = text.map Char.toLower := by
  induction respelled with
  | nil => rfl
  | cons same _ ih =>
    rw [List.map_cons, List.map_cons, ih]
    obtain rfl | rfl := same
    · rfl
    · rw [Char.toLower_toUpper_eq_toLower]

end Hex

namespace Digest

/-- What a text is read as once the white space around it is gone. -/
inductive Reading : List Char → Except DigestError Digest → Prop
  | digest {inner digest} (long : inner.length = 64) (digits : ∀ c ∈ inner, c ∈ Hex.digits)
      (same : digest.hex.toList = inner.map Char.toLower) : Reading inner (.ok digest)
  | empty : Reading [] (.error .empty)
  | notHex {inner} (given : inner ≠ []) (odd : (∃ c ∈ inner, c ∉ Hex.digits) ∨ inner.length % 2 = 1) :
      Reading inner (.error .notHex)
  | wrongSize {inner} (given : inner ≠ []) (digits : ∀ c ∈ inner, c ∈ Hex.digits)
      (even : inner.length % 2 = 0) (other : inner.length ≠ 64) :
      Reading inner (.error (.wrongSize (inner.length / 2)))

theorem reading_parseChars (text : List Char) : Reading (Text.trim text) (parseChars text) := by
  rw [parseChars]
  split
  next empty =>
    rw [empty]
    exact .empty
  next given =>
    cases decoded : Hex.decode? (Text.trim text) with
    | none => exact .notHex given (Hex.decode?_eq_none_iff.1 decoded)
    | some bytes =>
      have written := Hex.decode?_eq_some_iff.1 decoded
      have length : (Text.trim text).length = 2 * bytes.length := by
        rw [← Hex.length_encode, ← written, List.length_map]
      have sound : ¬ ((∃ c ∈ Text.trim text, c ∉ Hex.digits) ∨ (Text.trim text).length % 2 = 1) := by
        rw [← Hex.decode?_eq_none_iff, decoded]
        exact Option.some_ne_none bytes
      have digits : ∀ c ∈ Text.trim text, c ∈ Hex.digits := by
        intro c inside
        by_contra other
        exact sound (.inl ⟨c, inside, other⟩)
      dsimp only
      unfold ofBytes
      split
      next fits =>
        refine .digest (by omega) digits ?_
        rw [toList_hex, written]
      next long =>
        have half : bytes.length = (Text.trim text).length / 2 := by omega
        rw [half]
        exact .wrongSize given digits (by omega) (by omega)

theorem hex_injective {digest other : Digest} (same : digest.hex = other.hex) : digest = other := by
  have read := parse_hex digest
  rw [same, parse_hex] at read
  exact (Except.ok.inj read).symm

/-- No text is read in two ways. -/
theorem Reading.unique {inner : List Char} {outcome another : Except DigestError Digest}
    (reading : Reading inner outcome) (again : Reading inner another) : outcome = another := by
  have apart (digits : ∀ c ∈ inner, c ∈ Hex.digits) (even : inner.length % 2 = 0)
      (odd : (∃ c ∈ inner, c ∉ Hex.digits) ∨ inner.length % 2 = 1) : False := by
    obtain ⟨c, inside, other⟩ | uneven := odd
    · exact other (digits c inside)
    · omega
  cases reading with
  | digest long digits same =>
    cases again with
    | digest _ _ sameAgain => rw [hex_injective (String.toList_inj.1 (same.trans sameAgain.symm))]
    | empty => cases long
    | notHex _ odd => exact (apart digits (by rw [long]) odd).elim
    | wrongSize _ _ _ other => exact (other long).elim
  | empty =>
    cases again with
    | digest long => cases long
    | empty => rfl
    | notHex given => exact (given rfl).elim
    | wrongSize given => exact (given rfl).elim
  | notHex given odd =>
    cases again with
    | digest long digits => exact (apart digits (by rw [long]) odd).elim
    | empty => exact (given rfl).elim
    | notHex => rfl
    | wrongSize _ digits even => exact (apart digits even odd).elim
  | wrongSize given digits even other =>
    cases again with
    | digest long => exact (other long).elim
    | empty => exact (given rfl).elim
    | notHex _ odd => exact (apart digits even odd).elim
    | wrongSize => rfl

theorem parse_eq_iff {text : String} {outcome : Except DigestError Digest} :
    parse text = outcome ↔ Reading (Text.trim text.toList) outcome := by
  have read := reading_parseChars text.toList
  constructor
  · rintro rfl
    exact read
  · exact read.unique

/-- A text is read if it is made of sixty-four digits. -/
theorem Reading.read_iff {inner : List Char} {outcome : Except DigestError Digest}
    (reading : Reading inner outcome) :
    (∃ digest, outcome = .ok digest) ↔ inner.length = 64 ∧ ∀ c ∈ inner, c ∈ Hex.digits := by
  cases reading with
  | digest long digits => exact iff_of_true ⟨_, rfl⟩ ⟨long, digits⟩
  | empty =>
    refine iff_of_false nofun ?_
    rintro ⟨long, -⟩
    cases long
  | notHex given odd =>
    refine iff_of_false nofun ?_
    rintro ⟨long, digits⟩
    obtain ⟨c, inside, other⟩ | uneven := odd
    · exact other (digits c inside)
    · omega
  | wrongSize given digits even other =>
    refine iff_of_false nofun ?_
    rintro ⟨long, -⟩
    exact other long

/-- The written form of a digest is read back in either case of its letters, with white space around it. -/
theorem parse_respelled {digest : Digest} {text : String} {spelled : List Char}
    (respelled : Hex.Respelled digest.hex.toList spelled) (padded : Text.Padded text.toList spelled) :
    parse text = .ok digest := by
  have lower : spelled.map Char.toLower = digest.hex.toList := by
    rw [respelled.lower, toList_hex]
    exact Hex.decode?_eq_some_iff.1 (Hex.decode?_encode digest.bytes)
  have solid := Text.solid_of_lower lower digest.hex_solid
  have trimmed : Text.trim text.toList = spelled := padded.trim_eq.trans (Text.trim_eq_self solid)
  rw [parse, parseChars_eq_ok_iff, trimmed]
  exact lower

theorem ofJson_text {text : String} {digest : Digest} :
    ofJson (.text text) = .ok digest ↔ parse text = .ok digest :=
  Except.mapError_eq_ok_iff

/-- Only a string whose text is read as a digest is one in JSON. -/
theorem ofJson_eq_ok_iff {value : Json} {digest : Digest} :
    ofJson value = .ok digest ↔ ∃ text, value = .text text ∧ parse text = .ok digest := by
  constructor
  · intro read
    rw [ofJson] at read
    split at read
    next => cases read
    next text shown =>
      refine ⟨text, ?_, Except.mapError_eq_ok_iff.1 read⟩
      cases value with
      | string given => exact congrArg Json.string shown
      | null | bool _ | number _ | array _ | object _ => cases shown
  · rintro ⟨text, rfl, read⟩
    exact ofJson_text.2 read

/-- A digest is read back from its written form, also with letters in the upper case and with white space
around it, and from its JSON. Any text is read as the digest that it is the written form of, or refused, as
its digits demand, and JSON is read as a digest if it is a string whose text is. -/
theorem digest_text_faithful :
    (∀ (digest : Digest) (text : String) (spelled : List Char), Hex.Respelled digest.hex.toList spelled →
      Text.Padded text.toList spelled → parse text = .ok digest) ∧
    (∀ (text : String) (outcome : Except DigestError Digest),
      parse text = outcome ↔ Reading (Text.trim text.toList) outcome) ∧
    (∀ text : String, (∃ digest, parse text = .ok digest) ↔
      (Text.trim text.toList).length = 64 ∧ ∀ c ∈ Text.trim text.toList, c ∈ Hex.digits) ∧
    (∀ digest : Digest, ofJson digest.json = .ok digest ∧
      Json.parse? (Bytes.ofString digest.json.compact) = some digest.json) ∧
    ∀ (value : Json) (digest : Digest),
      ofJson value = .ok digest ↔ ∃ text, value = .text text ∧ parse text = .ok digest := by
  refine ⟨fun digest text spelled => parse_respelled, fun text outcome => parse_eq_iff, fun text => ?_,
    fun digest => ⟨?_, ?_⟩, fun value digest => ofJson_eq_ok_iff⟩
  · exact (parse_eq_iff.1 rfl).read_iff
  · exact ofJson_text.2 digest.parse_hex
  · exact Json.parse?_scalar (.text _)

theorem digest_text_faithful_mixed :
    parse ("\u2003" ++ String.ofList (List.replicate 32 ['A', 'b']).flatten ++ "\n") =
      .ok ⟨List.replicate 32 0xab, rfl⟩ := by
  refine digest_text_faithful.1 _ _ (List.replicate 32 ['A', 'b']).flatten ?_ ?_
  · rw [toList_hex, Hex.Respelled]
    decide +kernel
  · refine ⟨['\u2003'], ['\n'], ?_, List.forall_mem_singleton.2 rfl, List.forall_mem_singleton.2 rfl⟩
    simp

end Digest

end DualSlot
