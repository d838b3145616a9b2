import DualSlot.Proofs.TextPieces
import DualSlot.Record

/-! The written form of a digest, which is read back as that digest wherever it stands. Nothing else is
read as the digest but the same digits in the upper case. -/

namespace DualSlot

namespace Hex

theorem digit_solid {value : Nat} (small : value < 16) : Text.isBlank (digit value) = false := by
  have all : ∀ v : Fin 16, Text.isBlank (digit v) = false := by decide
  exact all ⟨value, small⟩

theorem encode_solid {bytes : Bytes} : ∀ c ∈ encode bytes, Text.isBlank c = false := by
  intro c inside
  obtain ⟨byte, -, written⟩ := List.mem_flatMap.1 inside
  have high : byte.toNat / 16 < 16 := by have := byte.toNat_lt; omega
  have low : byte.toNat % 16 < 16 := Nat.mod_lt _ (by decide)
  simp only [List.mem_cons, List.not_mem_nil, or_false] at written
  obtain rfl | rfl := written
  · exact digit_solid high
  · exact digit_solid low

theorem length_encode (bytes : Bytes) : (encode bytes).length = 2 * bytes.length := by
  induction bytes with
  | nil => rfl
  | cons byte bytes ih =>
    have cut : encode (byte :: bytes) =
      digit (byte.toNat / 16) :: digit (byte.toNat % 16) :: encode bytes := rfl
    rw [cut, List.length_cons, List.length_cons, ih, List.length_cons]
    omega

theorem value?_of_ascii_le {c : Char} (beyond : 128 ≤ c.toNat) : value? c = none := by
  have outside {high : Char} (ascii : high.toNat < 128) : ¬ c ≤ high := by
    intro below
    have small : c.toNat ≤ high.toNat := below
    omega
  rw [value?, if_neg fun inside => outside (by decide) inside.2,
    if_neg fun inside => outside (by decide) inside.2, if_neg fun inside => outside (by decide) inside.2]

/-- What is read as a digit is the digit of its value, in either case. -/
theorem value?_eq_some_iff {c : Char} {value : Nat} :
    value? c = some value ↔ value < 16 ∧ c.toLower = digit value := by
  by_cases ascii : c.toNat < 128
  · obtain ⟨same, read⟩ : value? c.toLower = value? c ∧
        (value? c).all fun value => value < 16 ∧ c.toLower = digit value := Text.of_ascii ascii (by decide)
    constructor
    · intro found
      rw [found] at read
      exact of_decide_eq_true read
    · rintro ⟨small, lower⟩
      rw [← same, lower, value?_digit small]
  · have beyond : 128 ≤ c.toNat := Nat.le_of_not_lt ascii
    rw [value?_of_ascii_le beyond, Text.toLower_of_ascii_le beyond]
    refine iff_of_false nofun ?_
    rintro ⟨small, rfl⟩
    have printed := value?_digit small
    rw [value?_of_ascii_le beyond] at printed
    cases printed

theorem encode_cons (byte : UInt8) (bytes : Bytes) :
    encode (byte :: bytes) = digit (byte.toNat / 16) :: digit (byte.toNat % 16) :: encode bytes :=
  rfl

theorem byte_eq_iff {high low : Nat} (highSmall : high < 16) (lowSmall : low < 16) (byte : UInt8) :
    UInt8.ofNat (16 * high + low) = byte ↔ byte.toNat / 16 = high ∧ byte.toNat % 16 = low := by
  rw [← UInt8.toNat_inj, UInt8.toNat_ofNat']
  omega

theorem decodeFrom_eq_some_iff {found bytes : Bytes} {text : List Char} :
    decodeFrom found text = some bytes ↔
      ∃ read, bytes = found.reverse ++ read ∧ text.map Char.toLower = encode read := by
  fun_induction decodeFrom found text generalizing bytes with
  | case1 found =>
    constructor
    · rintro ⟨⟩
      exact ⟨[], by simp, rfl⟩
    · rintro ⟨read, rfl, written⟩
      cases read with
      | nil => simp
      | cons byte read => cases written
  | case2 found c =>
    refine iff_of_false nofun ?_
    rintro ⟨read, -, written⟩
    have even := congrArg List.length written
    rw [length_encode, List.length_map, List.length_singleton] at even
    omega
  | case3 found high low rest ih =>
    simp only [Option.bind_eq_bind, Option.bind_eq_some_iff, value?_eq_some_iff, ih]
    constructor
    · rintro ⟨upper, ⟨upperSmall, upperDigit⟩, lower, ⟨lowerSmall, lowerDigit⟩, read, rfl, written⟩
      obtain ⟨first, second⟩ := (byte_eq_iff upperSmall lowerSmall _).1 rfl
      refine ⟨UInt8.ofNat (16 * upper + lower) :: read, by simp, ?_⟩
      rw [encode_cons, first, second, List.map_cons, List.map_cons, upperDigit, lowerDigit, written]
    · rintro ⟨read, rfl, written⟩
      cases read with
      | nil => cases written
      | cons byte read =>
        rw [encode_cons, List.map_cons, List.map_cons, List.cons.injEq, List.cons.injEq] at written
        obtain ⟨upper, lower, rest⟩ := written
        have upperSmall : byte.toNat / 16 < 16 := by have := byte.toNat_lt; omega
        have lowerSmall : byte.toNat % 16 < 16 := Nat.mod_lt _ (by decide)
        refine ⟨_, ⟨upperSmall, upper⟩, _, ⟨lowerSmall, lower⟩, read, ?_, rest⟩
        rw [(byte_eq_iff upperSmall lowerSmall byte).2 ⟨rfl, rfl⟩]
        simp

theorem decode?_eq_some_iff {text : List Char} {bytes : Bytes} :
    decode? text = some bytes ↔ text.map Char.toLower = encode bytes := by
  rw [decode?, decodeFrom_eq_some_iff]
  simp

end Hex

namespace Digest

theorem toList_hex (digest : Digest) : digest.hex.toList = Hex.encode digest.bytes :=
  String.toList_ofList

theorem hex_solid (digest : Digest) : ∀ c ∈ digest.hex.toList, Text.isBlank c = false := by
  rw [toList_hex]
  exact Hex.encode_solid

theorem length_hex (digest : Digest) : digest.hex.toList.length = 64 := by
  rw [toList_hex, Hex.length_encode, digest.length_bytes]

theorem trimmed_hex (digest : Digest) : Text.trimmed digest.hex = digest.hex := by
  rw [Text.trimmed, Text.trim_eq_self digest.hex_solid, String.ofList_toList]

theorem parseChars_hex (digest : Digest) : parseChars digest.hex.toList = .ok digest := by
  have long := digest.length_hex
  rw [parseChars, Text.trim_eq_self digest.hex_solid]
  split
  · next empty => simp [empty] at long
  · rw [toList_hex, Hex.decode?_encode]
    exact ofBytes_bytes digest

/-- What is read as a digest is its written form, in either case. -/
theorem parseChars_eq_ok_iff {text : List Char} {digest : Digest} :
    parseChars text = .ok digest ↔ (Text.trim text).map Char.toLower = digest.hex.toList := by
  have long := digest.length_hex
  rw [parseChars]
  split
  next empty =>
    rw [empty]
    refine iff_of_false nofun fun same => ?_
    rw [← same] at long
    cases long
  next =>
    rw [toList_hex, ← Hex.decode?_eq_some_iff]
    cases Hex.decode? (Text.trim text) with
    | none => exact iff_of_false nofun nofun
    | some bytes =>
      dsimp only
      rw [Option.some_inj]
      constructor
      · intro parsed
        unfold ofBytes at parsed
        split at parsed
        · cases parsed
          rfl
        · cases parsed
      · rintro rfl
        exact digest.ofBytes_bytes

theorem parse_hex (digest : Digest) : parse digest.hex = .ok digest := digest.parseChars_hex

theorem parse?_eq_some {text : String} {digest : Digest} :
    parse? text = some digest ↔ parse text = .ok digest := by
  rw [parse?]
  cases parse text <;> simp [Except.toOption]

end Digest

theorem SlotRecord.digest?_hex (slot : Slot) (digest : Digest) (time : UInt64) :
    (SlotRecord.mk slot digest.hex time).digest? = some digest := by
  rw [SlotRecord.digest?, Digest.parse?, Digest.parse_hex]
  rfl

end DualSlot
