import DualSlot.Json.Parser
import DualSlot.Json.Printer
import DualSlot.Proofs.MenuFiles
import Mathlib.Data.List.TakeDrop
import Mathlib.Data.List.TakeWhile

/-! JSON that is read back as it was written: texts with all their characters, whole numbers, and objects
that hold nothing else, on one line or over several. -/

namespace DualSlot

namespace Bytes

/-- The bytes of a text that is given by its characters. -/
def ofChars (text : List Char) : Bytes := text.flatMap String.utf8EncodeChar

theorem ofString_eq (text : String) : ofString text = ofChars text.toList := by
  conv_lhs => rw [← String.ofList_toList (s := text)]
  rw [ofString, String.toUTF8_eq_toByteArray, String.toByteArray_ofList, List.utf8Encode]
  simp [ofChars]

theorem ofString_append (first second : String) : ofString (first ++ second) = ofString first ++ ofString second := by
  simp [ofString, String.toUTF8_eq_toByteArray]

@[simp] theorem ofChars_nil : ofChars [] = [] := rfl

@[simp] theorem ofChars_cons (c : Char) (text : List Char) :
    ofChars (c :: text) = String.utf8EncodeChar c ++ ofChars text := rfl

@[simp] theorem ofChars_append (first second : List Char) :
    ofChars (first ++ second) = ofChars first ++ ofChars second := List.flatMap_append

end Bytes

open Json in
theorem utf8EncodeChar_ascii {c : Char} (ascii : c.toNat < 0x80) : String.utf8EncodeChar c = [byte c] := by
  unfold String.utf8EncodeChar
  have small : c.val.toNat ≤ 127 := Nat.le_of_lt_succ ascii
  simp only [small, ite_true]
  rfl

theorem utf8EncodeChar_high {c : Char} (high : 0x80 ≤ c.toNat) :
    ∀ b ∈ String.utf8EncodeChar c, 0x80 ≤ b := by
  intro b inside
  have large : ¬ c.val.toNat ≤ 127 := Nat.not_le.2 high
  have big (n : Nat) (low : 0x80 ≤ n) (below : n < 256) : (0x80 : UInt8) ≤ UInt8.ofNat n := by
    rw [UInt8.le_iff_toNat_le, UInt8.toNat_ofNat', Nat.mod_eq_of_lt below]
    exact low
  unfold String.utf8EncodeChar at inside
  simp only [large, ite_false] at inside
  split at inside
  · simp only [List.mem_cons, List.not_mem_nil, or_false] at inside
    rcases inside with rfl | rfl <;> apply big <;> omega
  · split at inside
    · simp only [List.mem_cons, List.not_mem_nil, or_false] at inside
      rcases inside with rfl | rfl | rfl <;> apply big <;> omega
    · simp only [List.mem_cons, List.not_mem_nil, or_false] at inside
      rcases inside with rfl | rfl | rfl | rfl <;> apply big <;> omega

theorem Hex.toNat_digit_lt {value : Nat} (small : value < 16) : (Hex.digit value).toNat < 0x80 := by
  have all : ∀ v : Fin 16, (Hex.digit v).toNat < 0x80 := by decide
  exact all ⟨value, small⟩

theorem Bytes.ofChars_ascii {text : List Char} (ascii : ∀ c ∈ text, c.toNat < 0x80) :
    ofChars text = text.map Json.byte := by
  induction text with
  | nil => rfl
  | cons c text ih =>
    rw [ofChars_cons, utf8EncodeChar_ascii (ascii c List.mem_cons_self),
      ih fun d inside => ascii d (List.mem_cons_of_mem _ inside)]
    rfl

namespace Json

theorem toNat_byte {c : Char} (small : c.toNat < 256) : (byte c).toNat = c.toNat := by
  rw [byte, UInt8.toNat_ofNat', Nat.mod_eq_of_lt small]

theorem byte_inj {c d : Char} (small : c.toNat < 256) (other : d.toNat < 256) :
    byte c = byte d ↔ c = d := by
  refine ⟨fun same => ?_, congrArg byte⟩
  have same := congrArg UInt8.toNat same
  rw [toNat_byte small, toNat_byte other] at same
  exact Char.toNat_inj.1 same

/-- What a part of a string stands for. -/
def Piece.Stands (piece : Piece) (bytes : Bytes) : Prop :=
  ∀ found rest, joinFrom found (piece :: rest) = joinFrom (bytes :: found) rest

def isPlain (c : Char) : Bool := c != '"' && c != '\\' && 0x20 ≤ c.toNat

theorem escape_plain {c : Char} (plain : isPlain c = true) : escape c = [c] := by
  unfold escape
  split <;> first | rfl | (exfalso; revert plain; decide) | skip
  simp only [isPlain, Bool.and_eq_true, decide_eq_true_eq] at plain
  rw [if_neg (by omega)]

theorem plain_bytes {c : Char} (plain : isPlain c = true) :
    ∀ b ∈ String.utf8EncodeChar c, (b != byte '"' && b != byte '\\' && b ≥ 0x20) = true := by
  intro b inside
  simp only [isPlain, Bool.and_eq_true, decide_eq_true_eq, bne_iff_ne, ne_eq] at plain
  simp only [Bool.and_eq_true, decide_eq_true_eq, bne_iff_ne, ne_eq]
  by_cases ascii : c.toNat < 0x80
  · rw [utf8EncodeChar_ascii ascii, List.mem_singleton] at inside
    subst inside
    have small : c.toNat < 256 := by omega
    refine ⟨⟨?_, ?_⟩, ?_⟩
    · exact fun same => plain.1.1 ((byte_inj small (by decide)).1 same)
    · exact fun same => plain.1.2 ((byte_inj small (by decide)).1 same)
    · rw [ge_iff_le, UInt8.le_iff_toNat_le, toNat_byte small]
      exact plain.2
  · have high := utf8EncodeChar_high (Nat.not_lt.1 ascii) b inside
    refine ⟨⟨?_, ?_⟩, ?_⟩
    · rintro rfl; revert high; decide
    · rintro rfl; revert high; decide
    · exact UInt8.le_trans (show (0x20 : UInt8) ≤ 0x80 by decide) high

theorem span_append {p : UInt8 → Bool} {before : Bytes} {b : UInt8} (inside : ∀ x ∈ before, p x = true)
    (outside : p b = false) (rest : Bytes) : (before ++ b :: rest).span p = (before, b :: rest) := by
  rw [List.span_eq_takeWhile_dropWhile, List.takeWhile_append_of_pos inside,
    List.dropWhile_append_of_pos inside]
  simp [outside]

theorem stands_raw (bytes : Bytes) : (Piece.raw bytes).Stands bytes := fun _ _ => rfl

/-- A unit of a control character. -/
theorem stands_unit {c : Char} (control : c.toNat < 0x20) :
    (Piece.unit c.toNat).Stands (String.utf8EncodeChar c) := by
  intro found rest
  have high : isHighHalf c.toNat = false := by simp [isHighHalf]; omega
  have low : isLowHalf c.toNat = false := by simp [isLowHalf]; omega
  have same : encoded c.toNat = String.utf8EncodeChar c := by
    rw [encoded, Char.ofNat_toNat, Bytes.ofString_eq]
    simp
  rcases rest with _ | ⟨_ | _, _⟩ <;> simp [joinFrom, high, low, same]

theorem escape?_unit {c : Char} (control : c.toNat < 0x20) (rest : Bytes) :
    escape? (Bytes.ofChars ['u', '0', '0', Hex.digit (c.toNat / 16), Hex.digit (c.toNat % 16)] ++ rest) =
      some (.unit c.toNat, rest) := by
  have high : c.toNat / 16 < 16 := by omega
  have low : c.toNat % 16 < 16 := Nat.mod_lt _ (by decide)
  have ascii : ∀ d ∈ ['u', '0', '0', Hex.digit (c.toNat / 16), Hex.digit (c.toNat % 16)], d.toNat < 0x80 := by
    simp [Hex.toNat_digit_lt high, Hex.toNat_digit_lt low]
  have back {value : Nat} (small : value < 16) : Char.ofNat (byte (Hex.digit value)).toNat = Hex.digit value := by
    rw [toNat_byte (Nat.lt_trans (Hex.toNat_digit_lt small) (by decide)), Char.ofNat_toNat]
  have zero : Char.ofNat (byte '0').toNat = '0' := rfl
  rw [Bytes.ofChars_ascii ascii]
  simp only [List.map_cons, List.map_nil, List.cons_append, List.nil_append, escape?, if_true, zero, back high, back low,
    List.mapM_cons, List.mapM_nil, Hex.value?_digit high, Hex.value?_digit low, show Hex.value? '0' = some 0 from rfl,
    Option.bind_eq_bind, Option.bind_some, Option.pure_def, List.foldl_cons, List.foldl_nil]
  congr 3
  omega

/-- A character that does not stand for itself is escaped, and read back. -/
theorem escape_special {c : Char} (special : isPlain c = false) :
    ∃ tail piece, escape c = '\\' :: tail ∧ piece.Stands (String.utf8EncodeChar c) ∧
      ∀ rest, escape? (Bytes.ofChars tail ++ rest) = some (piece, rest) := by
  unfold escape
  split
  · exact ⟨['"'], .raw [byte '"'], rfl, stands_raw _, fun _ => rfl⟩
  · exact ⟨['\\'], .raw [byte '\\'], rfl, stands_raw _, fun _ => rfl⟩
  · exact ⟨['b'], .raw [8], rfl, stands_raw _, fun _ => rfl⟩
  · exact ⟨['f'], .raw [12], rfl, stands_raw _, fun _ => rfl⟩
  · exact ⟨['n'], .raw [10], rfl, stands_raw _, fun _ => rfl⟩
  · exact ⟨['r'], .raw [13], rfl, stands_raw _, fun _ => rfl⟩
  · exact ⟨['t'], .raw [9], rfl, stands_raw _, fun _ => rfl⟩
  · next quote slash _ _ _ _ _ =>
    have control : c.toNat < 0x20 := by
      simp only [isPlain, Bool.and_eq_false_iff, bne_eq_false_iff_eq, decide_eq_false_iff_not] at special
      rcases special with (rfl | rfl) | low
      · exact (quote rfl).elim
      · exact (slash rfl).elim
      · omega
    rw [if_pos control]
    exact ⟨_, .unit c.toNat, rfl, stands_unit control, escape?_unit control⟩

/-- The part of a string that is bytes as they stand, if there are any. -/
def plainPieces (bytes : Bytes) : List Piece := if bytes.isEmpty then [] else [.raw bytes]

theorem reverse_plainPieces (bytes : Bytes) (found : List Piece) :
    (if bytes.isEmpty then found else .raw bytes :: found) = (plainPieces bytes).reverse ++ found := by
  unfold plainPieces
  split <;> rfl

theorem joinFrom_plainPieces (bytes : Bytes) {tail : Bytes} {pieces : List Piece}
    (joins : ∀ earlier, joinFrom earlier pieces = some (earlier.reverse.flatten ++ tail)) (earlier : List Bytes) :
    joinFrom earlier (plainPieces bytes ++ pieces) = some (earlier.reverse.flatten ++ (bytes ++ tail)) := by
  unfold plainPieces
  split
  · next none => simp [joins, List.isEmpty_iff.1 none]
  · simp [joinFrom, joins]

/-- An escaped text is read up to its closing quote, and its parts come to the text. The induction is on
how many parts may still come, one of which is the run of plain characters in front. -/
theorem pieces?_escaped (text : List Char) {patience : Nat} (enough : text.length < patience)
    (found : List Piece) (rest : Bytes) :
    ∃ pieces, pieces? patience found (Bytes.ofChars (text.flatMap escape) ++ byte '"' :: rest) =
      some (found.reverse ++ pieces, rest) ∧
      ∀ earlier, joinFrom earlier pieces = some (earlier.reverse.flatten ++ Bytes.ofChars text) := by
  induction patience generalizing text found with
  | zero => exact (Nat.not_lt_zero _ enough).elim
  | succ patience ih =>
    let plain := text.takeWhile isPlain
    have plains : ∀ c ∈ plain, isPlain c = true := fun c inside =>
      List.all_eq_true.1 List.all_takeWhile c inside
    have same : plain.flatMap escape = plain := by
      rw [List.flatMap_congr fun c inside => escape_plain (plains c inside)]
      simp
    have bytes : ∀ b ∈ Bytes.ofChars plain, (b != byte '"' && b != byte '\\' && b ≥ 0x20) = true := by
      intro b inside
      obtain ⟨c, given, inside⟩ := List.mem_flatMap.1 inside
      exact plain_bytes (plains c given) b inside
    cases split : text.dropWhile isPlain with
    | nil =>
      have whole : text = plain := by
        rw [← List.takeWhile_append_dropWhile (p := isPlain) (l := text), split, List.append_nil]
      refine ⟨plainPieces (Bytes.ofChars plain), ?_, fun earlier => ?_⟩
      · rw [whole, same, pieces?, span_append bytes (by decide)]
        simp only [reverse_plainPieces, if_true, List.reverse_append, List.reverse_reverse]
      · have joins := joinFrom_plainPieces (Bytes.ofChars plain)
          (fun earlier => show joinFrom earlier [] = some (earlier.reverse.flatten ++ []) by simp [joinFrom]) earlier
        simpa [whole] using joins
    | cons c tail =>
      have whole : text = plain ++ c :: tail := by rw [← split, List.takeWhile_append_dropWhile]
      have special : isPlain c = false := by
        have := List.head_dropWhile_not isPlain (l := text) (by simp [split])
        simpa [split] using this
      obtain ⟨escaped, piece, shown, stands, reads⟩ := escape_special special
      have shorter : tail.length < patience := by
        have := congrArg List.length whole
        simp only [List.length_append, List.length_cons] at this
        omega
      obtain ⟨pieces, parsed, joins⟩ :=
        ih tail shorter (piece :: ((plainPieces (Bytes.ofChars plain)).reverse ++ found))
      refine ⟨plainPieces (Bytes.ofChars plain) ++ piece :: pieces, ?_, fun earlier => ?_⟩
      · have text : Bytes.ofChars (text.flatMap escape) ++ byte '"' :: rest = Bytes.ofChars plain ++
            byte '\\' :: (Bytes.ofChars escaped ++ (Bytes.ofChars (tail.flatMap escape) ++ byte '"' :: rest)) := by
          rw [whole, List.flatMap_append, List.flatMap_cons, same, shown]
          simp [utf8EncodeChar_ascii (c := '\\') (by decide)]
        rw [text, pieces?, span_append bytes (by decide)]
        simp only [reverse_plainPieces, show byte '\\' ≠ byte '"' by decide, if_false, if_true, reads,
          Option.bind_eq_bind, Option.bind_some, parsed]
        simp
      · rw [whole, Bytes.ofChars_append, Bytes.ofChars_cons]
        refine joinFrom_plainPieces _ (fun earlier => ?_) earlier
        rw [stands, joins]
        simp

/-- A quoted text is read back. -/
theorem string?_quoted (text : String) {patience : Nat} (enough : text.toList.length < patience) (rest : Bytes) :
    word? ['"'] (Bytes.ofString (quoted text) ++ rest) >>= string? patience = some (some text, rest) := by
  obtain ⟨pieces, parsed, joins⟩ := pieces?_escaped text.toList enough [] rest
  have shown : Bytes.ofString (quoted text) ++ rest =
      byte '"' :: (Bytes.ofChars (text.toList.flatMap escape) ++ byte '"' :: rest) := by
    rw [Bytes.ofString_eq, quoted, String.toList_ofList]
    simp [utf8EncodeChar_ascii (c := '"') (by decide)]
  simp only [shown, word?, if_true, Option.bind_eq_bind, Option.bind_some, string?, parsed, List.reverse_nil,
    List.nil_append, joins, List.flatten_nil]
  rw [← Bytes.ofString_eq, Bytes.text?_ofString]
  rfl

theorem isDigit_byte {c : Char} (digit : c.isDigit = true) : isDigit (byte c) = true := by
  simp only [Char.isDigit, Bool.and_eq_true, decide_eq_true_eq] at digit
  have low : 48 ≤ c.toNat := digit.1
  have high : c.toNat ≤ 57 := digit.2
  have same : (byte c).toNat = c.toNat := toNat_byte (by omega)
  simp only [isDigit, Bool.and_eq_true, decide_eq_true_eq, UInt8.le_iff_toNat_le, same]
  exact ⟨low, high⟩

theorem head?_toDigits {value : Nat} (positive : 0 < value) : (Nat.toDigits 10 value).head? ≠ some '0' := by
  induction value using Nat.strongRecOn with
  | ind value ih =>
    by_cases small : value < 10
    · rw [Nat.toDigits_of_lt_base small, List.head?_singleton, ne_eq, Option.some_inj, Nat.digitChar_eq_zero]
      exact Nat.ne_of_gt positive
    · rw [Nat.toDigits_of_base_le (by decide) (Nat.not_lt.1 small),
        List.head?_append_of_ne_nil _ Nat.toDigits_ne_nil]
      exact ih _ (by omega) (by omega)

/-- Bytes that may follow a number: the first of them could not belong to it. -/
def Ends (rest : Bytes) : Prop :=
  ∀ b ∈ rest.head?, isDigit b = false ∧ b ≠ byte '.' ∧ b ≠ byte 'e' ∧ b ≠ byte 'E'

theorem span_ends {digits rest : Bytes} (all : ∀ b ∈ digits, isDigit b = true) (ends : Ends rest) :
    (digits ++ rest).span isDigit = (digits, rest) := by
  cases rest with
  | nil => simp [List.span_eq_takeWhile_dropWhile, List.takeWhile_eq_self_iff.2 all,
      List.dropWhile_eq_nil_iff.2 all]
  | cons b rest => exact span_append all (ends b rfl).1 rest

theorem whole?_digits {digits rest : Bytes} (given : digits ≠ []) (all : ∀ b ∈ digits, isDigit b = true)
    (short : digits.length > 1 → digits.head? ≠ some (byte '0')) (ends : Ends rest) :
    whole? (digits ++ rest) = some (digits, rest) := by
  have found : digits? (digits ++ rest) = some (digits, rest) := by
    unfold digits?
    rw [span_ends all ends]
    cases digits with
    | nil => exact (given rfl).elim
    | cons b digits => rfl
  rw [whole?, found, Option.bind_eq_bind, Option.bind_some]
  dsimp only
  rw [if_neg fun leading => short leading.1 leading.2]

theorem fraction?_ends {rest : Bytes} (ends : Ends rest) : fraction? rest = some ([], rest) := by
  cases rest with
  | nil => rfl
  | cons b rest => simp [fraction?, (ends b rfl).2.1]

theorem exponent?_ends {rest : Bytes} (ends : Ends rest) : exponent? rest = some ([], rest) := by
  cases rest with
  | nil => rfl
  | cons b rest => simp [exponent?, (ends b rfl).2.2]

theorem number?_digits {digits rest : Bytes} (given : digits ≠ []) (all : ∀ b ∈ digits, isDigit b = true)
    (short : digits.length > 1 → digits.head? ≠ some (byte '0')) (ends : Ends rest) :
    number? (digits ++ rest) = some (.number (.ofList (digits.map fun b => Char.ofNat b.toNat)), rest) := by
  have whole := whole?_digits given all short ends
  cases digits with
  | nil => exact (given rfl).elim
  | cons b digits =>
    have unsigned : b ≠ byte '-' := by
      rintro rfl
      exact absurd (all (byte '-') List.mem_cons_self) (by decide)
    rw [List.cons_append] at whole ⊢
    simp [number?, unsigned, whole, fraction?_ends ends, exponent?_ends ends]

theorem toNat_lt_of_mem_toDigits {value : Nat} {c : Char} (inside : c ∈ Nat.toDigits 10 value) : c.toNat < 0x80 :=
  Nat.lt_of_le_of_lt (Text.toNat_of_mem_toDigits inside).2 (by decide)

theorem ofString_natural (value : Nat) :
    Bytes.ofString (toString value) = (Nat.toDigits 10 value).map byte := by
  rw [Bytes.ofString_eq, Nat.toString_eq_ofList_toDigits, String.toList_ofList]
  exact Bytes.ofChars_ascii fun c inside => toNat_lt_of_mem_toDigits inside

theorem natural_ne_nil (value : Nat) : Bytes.ofString (toString value) ≠ [] := by
  rw [ofString_natural, ne_eq, List.map_eq_nil_iff]
  exact Nat.toDigits_ne_nil

theorem isDigit_natural {value : Nat} {b : UInt8} (inside : b ∈ Bytes.ofString (toString value)) :
    isDigit b = true := by
  rw [ofString_natural] at inside
  obtain ⟨c, given, rfl⟩ := List.mem_map.1 inside
  exact isDigit_byte (Nat.isDigit_of_mem_toDigits (by decide) (by decide) given)

/-- A number is read back. -/
theorem number?_natural (value : Nat) {rest : Bytes} (ends : Ends rest) :
    number? (Bytes.ofString (toString value) ++ rest) = some (.natural value, rest) := by
  have back : ∀ c ∈ Nat.toDigits 10 value, Char.ofNat (byte c).toNat = c := fun c inside => by
    rw [toNat_byte (Nat.lt_trans (toNat_lt_of_mem_toDigits inside) (by decide)), Char.ofNat_toNat]
  have literal : String.ofList ((Bytes.ofString (toString value)).map fun b => Char.ofNat b.toNat) =
      toString value := by
    rw [ofString_natural, Nat.toString_eq_ofList_toDigits, List.map_map]
    exact congrArg String.ofList ((List.map_congr_left back).trans (List.map_id _))
  have short : (Bytes.ofString (toString value)).length > 1 →
      (Bytes.ofString (toString value)).head? ≠ some (byte '0') := by
    intro long zero
    have positive : 0 < value := by
      rcases Nat.eq_zero_or_pos value with rfl | positive
      · revert long
        decide
      · exact positive
    rw [ofString_natural, List.head?_map, Option.map_eq_some_iff] at zero
    obtain ⟨c, first, same⟩ := zero
    have small := toNat_lt_of_mem_toDigits (List.mem_of_mem_head? first)
    obtain rfl := (byte_inj (Nat.lt_trans small (by decide)) (by decide)).1 same
    exact head?_toDigits positive first
  rw [number?_digits (natural_ne_nil value) (fun b inside => isDigit_natural inside) short ends, literal]
  rfl

/-- A value without values in it. -/
inductive Scalar : Json → Prop where
  | text (value : String) : Scalar (.text value)
  | natural (value : Nat) : Scalar (.natural value)

theorem skipSpace_append {gap : Bytes} (blank : ∀ b ∈ gap, isSpace b = true) (bytes : Bytes) :
    skipSpace (gap ++ bytes) = skipSpace bytes :=
  List.dropWhile_append_of_pos blank

theorem skipSpace_cons {b : UInt8} (solid : isSpace b = false) (bytes : Bytes) :
    skipSpace (b :: bytes) = b :: bytes := by
  simp [skipSpace, solid]

theorem length_le_ofChars (text : List Char) : text.length ≤ (Bytes.ofChars text).length := by
  induction text with
  | nil => exact Nat.zero_le _
  | cons c text ih =>
    have positive := Char.utf8Size_pos c
    rw [Bytes.ofChars_cons, List.length_append, String.length_utf8EncodeChar, List.length_cons]
    omega

theorem length_lt_quoted (text : String) : text.toList.length < (Bytes.ofString (quoted text)).length := by
  have escaped (text : List Char) : text.length ≤ (text.flatMap escape).length := by
    induction text with
    | nil => exact Nat.zero_le _
    | cons c text ih =>
      have positive : 0 < (escape c).length := by
        unfold escape
        split <;> first | exact Nat.succ_pos _ | (split <;> exact Nat.succ_pos _)
      rw [List.flatMap_cons, List.length_append, List.length_cons]
      omega
  rw [Bytes.ofString_eq]
  refine Nat.lt_of_lt_of_le ?_ (length_le_ofChars _)
  rw [quoted, String.toList_ofList, List.length_cons, List.length_append]
  have := escaped text.toList
  omega

theorem exists_quoted (text : String) : ∃ body, Bytes.ofString (quoted text) = byte '"' :: body := by
  rw [Bytes.ofString_eq, quoted, String.toList_ofList]
  exact ⟨_, rfl⟩

/-- What a digit at the beginning of a value rules out. -/
theorem start?_digit {b : UInt8} (digit : isDigit b = true) (patience : Nat) (bytes : Bytes) :
    start? patience (b :: bytes) = (number? (b :: bytes)).map fun (literal, rest) => (.value literal, rest) := by
  have other {c : UInt8} (no : isDigit c = false) : b ≠ c := by
    rintro rfl
    rw [no] at digit
    cases digit
  have solid : isSpace b = false := by
    simp [isSpace, other (c := byte ' ') rfl, other (c := byte '\n') rfl, other (c := byte '\t') rfl,
      other (c := byte '\r') rfl]
  rw [start?, skipSpace_cons solid]
  simp only [other (c := byte '"') rfl, other (c := byte '[') rfl, other (c := byte '\x7b') rfl,
    other (c := byte 'n') rfl, other (c := byte 't') rfl, other (c := byte 'f') rfl, if_false]

theorem start?_skipSpace {gap : Bytes} (blank : ∀ b ∈ gap, isSpace b = true) (patience : Nat) (bytes : Bytes) :
    start? patience (gap ++ bytes) = start? patience bytes := by
  rw [start?, start?, skipSpace_append blank]

/-- A scalar is read back, whatever space there is in front of it. -/
theorem start?_scalar {value : Json} (scalar : Scalar value) {gap rest : Bytes}
    (blank : ∀ b ∈ gap, isSpace b = true) (ends : Ends rest) {patience : Nat}
    (enough : (Bytes.ofString value.compact).length ≤ patience) :
    start? patience (gap ++ (Bytes.ofString value.compact ++ rest)) = some (.value value, rest) := by
  rw [start?_skipSpace blank]
  cases scalar with
  | text value =>
    have reads := string?_quoted value (Nat.lt_of_lt_of_le (length_lt_quoted value) enough) rest
    obtain ⟨body, shown⟩ := exists_quoted value
    rw [shown, List.cons_append, word?, if_pos rfl] at reads
    change start? patience (Bytes.ofString (quoted value) ++ rest) = _
    rw [shown, List.cons_append, start?, skipSpace_cons (by decide)]
    simp only [if_true]
    rw [show string? patience (body ++ rest) = some (some value, rest) from reads]
    rfl
  | natural value =>
    have reads := number?_natural value ends
    change start? patience (Bytes.ofString (toString value) ++ rest) = _
    obtain ⟨b, more, shown, digit⟩ : ∃ b more, Bytes.ofString (toString value) = b :: more ∧ isDigit b = true := by
      cases shown : Bytes.ofString (toString value) with
      | nil => exact (natural_ne_nil value shown).elim
      | cons b more => exact ⟨b, more, rfl, isDigit_natural (shown ▸ List.mem_cons_self)⟩
    rw [shown] at reads ⊢
    rw [List.cons_append, start?_digit digit, ← List.cons_append, reads]
    rfl

theorem key?_quoted {key : String} {gap : Bytes} {patience : Nat} (blank : ∀ b ∈ gap, isSpace b = true)
    (enough : (Bytes.ofString (quoted key)).length ≤ patience) (rest : Bytes) :
    key? patience (gap ++ (Bytes.ofString (quoted key) ++ byte ':' :: rest)) = some (some key, rest) := by
  have reads := string?_quoted key (Nat.lt_of_lt_of_le (length_lt_quoted key) enough) (byte ':' :: rest)
  obtain ⟨inside, opened, parsed⟩ := Option.bind_eq_some_iff.1 reads
  have start : skipSpace (Bytes.ofString (quoted key) ++ byte ':' :: rest) =
      Bytes.ofString (quoted key) ++ byte ':' :: rest := by
    obtain ⟨body, quote⟩ := exists_quoted key
    rw [quote]
    exact skipSpace_cons (by decide) _
  rw [key?, skipSpace_append blank, start, opened]
  simp [parsed, skipSpace_cons (show isSpace (byte ':') = false by decide), word?]

/-- What is written after the key of a member and its colon, if there are more members. -/
def membersBytes (before after ending : Bytes) (value : Json) : List (String × Json) → Bytes
  | [] => after ++ (Bytes.ofString value.compact ++ (ending ++ [byte '\x7d']))
  | (key, next) :: members => after ++ (Bytes.ofString value.compact ++ byte ',' :: (before ++
      (Bytes.ofString (quoted key) ++ byte ':' :: membersBytes before after ending next members)))

theorem ends_of_solid {b : UInt8} (ends : isDigit b = false ∧ b ≠ byte '.' ∧ b ≠ byte 'e' ∧ b ≠ byte 'E')
    (bytes : Bytes) : Ends (b :: bytes) := by
  rintro _ ⟨⟩
  exact ends

theorem ends_ending {ending : Bytes} (blank : ∀ b ∈ ending, isSpace b = true) (rest : Bytes) :
    Ends (ending ++ byte '\x7d' :: rest) := by
  cases ending with
  | nil => exact ends_of_solid (by decide) _
  | cons b ending =>
    have space := blank b List.mem_cons_self
    refine ends_of_solid ?_ _
    simp only [isSpace, Bool.or_eq_true, beq_iff_eq] at space
    rcases space with ((rfl | rfl) | rfl) | rfl <;> decide

theorem compact_pos {value : Json} (scalar : Scalar value) : 0 < (Bytes.ofString value.compact).length := by
  cases scalar with
  | text value => exact Nat.zero_lt_of_lt (length_lt_quoted value)
  | natural value => exact List.length_pos_iff.2 (natural_ne_nil value)

/-- What an object's members are read as. -/
def memberList (members : List (String × Json)) : List (Option String × Json) :=
  members.map fun (key, value) => (some key, value)

/-- The members of an object are read one after the other, the last of them at its brace. -/
theorem finish?_members {before after ending : Bytes} (blankBefore : ∀ b ∈ before, isSpace b = true)
    (blankAfter : ∀ b ∈ after, isSpace b = true) (blankEnding : ∀ b ∈ ending, isSpace b = true)
    {key : String} {value : Json} {members : List (String × Json)} (scalar : Scalar value)
    (scalars : ∀ member ∈ members, Scalar member.2) {fuel : Nat}
    (enough : (membersBytes before after ending value members).length < fuel)
    (done : List (Option String × Json)) (rest : Bytes) :
    finish? fuel [] (.opened (.object done (some key))) (membersBytes before after ending value members ++ rest) =
      some (.object (done.reverse ++ memberList ((key, value) :: members)), rest) := by
  have given := compact_pos scalar
  induction members generalizing key value fuel done with
  | nil =>
    simp only [membersBytes, List.length_append, List.length_singleton] at enough
    obtain ⟨fuel, rfl⟩ : ∃ more, fuel = more + 3 := ⟨fuel - 3, by omega⟩
    have room : (Bytes.ofString value.compact).length ≤ fuel + 2 := by omega
    have reads := start?_scalar scalar blankAfter (ends_ending blankEnding rest) room
    have last : skipSpace (ending ++ byte '\x7d' :: rest) = byte '\x7d' :: rest := by
      rw [skipSpace_append blankEnding, skipSpace_cons (by decide)]
    simp only [membersBytes, List.append_assoc, List.singleton_append, finish?, reads, Option.bind_eq_bind,
      Option.bind_some, Frame.add?, last, show byte '\x7d' ≠ byte ',' by decide, if_false, if_true]
    simp [memberList]
  | cons member members ih =>
    obtain ⟨nextKey, next⟩ := member
    have nextScalar : Scalar next := scalars _ List.mem_cons_self
    simp only [membersBytes, List.length_append, List.length_cons] at enough
    obtain ⟨fuel, rfl⟩ : ∃ more, fuel = more + 2 := ⟨fuel - 2, by omega⟩
    have room : (Bytes.ofString value.compact).length ≤ fuel + 1 := by omega
    have nextRoom : (Bytes.ofString (quoted nextKey)).length ≤ fuel := by omega
    have reads (bytes : Bytes) := start?_scalar scalar blankAfter (ends_of_solid (b := byte ',') (by decide) bytes) room
    have keyed := key?_quoted blankBefore nextRoom
    simp only [membersBytes, List.append_assoc, List.cons_append, finish?, reads, Option.bind_eq_bind,
      Option.bind_some, Frame.add?, skipSpace_cons (show isSpace (byte ',') = false by decide), if_true, keyed,
      Option.map_some]
    rw [ih nextScalar (fun member inside => scalars member (List.mem_cons_of_mem _ inside)) (by omega) _
      (compact_pos nextScalar)]
    simp [memberList]

/-- An object of scalars is read back, wherever there is space in it and around it. -/
theorem parse?_object {gap before after ending trailing : Bytes} (blankGap : ∀ b ∈ gap, isSpace b = true)
    (blankBefore : ∀ b ∈ before, isSpace b = true) (blankAfter : ∀ b ∈ after, isSpace b = true)
    (blankEnding : ∀ b ∈ ending, isSpace b = true) (blankTrailing : ∀ b ∈ trailing, isSpace b = true)
    {key : String} {value : Json} {members : List (String × Json)} (scalar : Scalar value)
    (scalars : ∀ member ∈ members, Scalar member.2) :
    parse? (gap ++ byte '\x7b' :: (before ++ (Bytes.ofString (quoted key) ++ byte ':' ::
      (membersBytes before after ending value members ++ trailing)))) =
      some (.ofMembers ((key, value) :: members)) := by
  obtain ⟨patience, length⟩ : ∃ patience, patience = (gap ++ byte '\x7b' :: (before ++ (Bytes.ofString (quoted key) ++
    byte ':' :: (membersBytes before after ending value members ++ trailing)))).length + 1 := ⟨_, rfl⟩
  have room := length
  simp only [List.length_cons, List.length_append] at room
  have keyRoom : (Bytes.ofString (quoted key)).length ≤ patience := by omega
  have keyed := key?_quoted blankBefore keyRoom (membersBytes before after ending value members ++ trailing)
  obtain ⟨body, quote⟩ := exists_quoted key
  have begins : skipSpace (before ++ (Bytes.ofString (quoted key) ++ byte ':' ::
      (membersBytes before after ending value members ++ trailing))) = byte '"' :: (body ++ byte ':' ::
      (membersBytes before after ending value members ++ trailing)) := by
    rw [skipSpace_append blankBefore, quote, List.cons_append, skipSpace_cons (by decide)]
  have opened : start? patience (gap ++ byte '\x7b' :: (before ++ (Bytes.ofString (quoted key) ++ byte ':' ::
      (membersBytes before after ending value members ++ trailing)))) =
      some (.opened (.object [] (some key)), membersBytes before after ending value members ++ trailing) := by
    rw [start?_skipSpace blankGap, start?, skipSpace_cons (by decide)]
    simp only [show byte '\x7b' ≠ byte '"' by decide, show byte '\x7b' ≠ byte '[' by decide, if_false, if_true,
      begins, show byte '"' ≠ byte '\x7d' by decide, keyed, Option.map_some]
  have ended : skipSpace trailing = [] := List.dropWhile_eq_nil_iff.2 blankTrailing
  rw [parse?, ← length]
  simp only [opened, Option.bind_eq_bind, Option.bind_some, finish?_members blankBefore blankAfter blankEnding
    scalar scalars (show (membersBytes before after ending value members).length < patience by omega), ended,
    List.isEmpty_nil, if_true]
  rfl

/-- A scalar by itself is read back. -/
theorem parse?_scalar {value : Json} (scalar : Scalar value) : parse? (Bytes.ofString value.compact) = some value := by
  have ends : Ends [] := fun _ impossible => by cases impossible
  have reads := start?_scalar scalar (List.forall_mem_nil _) ends (Nat.le_succ _)
  rw [List.nil_append, List.append_nil] at reads
  rw [parse?]
  simp only [reads, Option.bind_eq_bind, Option.bind_some, finish?]
  rfl

/-- A member with what is written before and after its key. -/
def memberText (before after : String) (member : String × Json) : String :=
  before ++ quoted member.1 ++ ":" ++ after ++ compact member.2

theorem ofString_members (before after ending : String) (key : String) (value : Json)
    (members : List (String × Json)) :
    Bytes.ofString (String.intercalate "," (((key, value) :: members).map (memberText before after)) ++
      (ending ++ "\x7d")) = Bytes.ofString before ++ (Bytes.ofString (quoted key) ++ byte ':' ::
        membersBytes (Bytes.ofString before) (Bytes.ofString after) (Bytes.ofString ending) value members) := by
  have colon : Bytes.ofString ":" = [byte ':'] := by decide
  have comma : Bytes.ofString "," = [byte ','] := by decide
  have brace : Bytes.ofString "\x7d" = [byte '\x7d'] := by decide
  induction members generalizing key value with
  | nil =>
    simp [String.intercalate_singleton, memberText, Bytes.ofString_append, colon, brace, membersBytes]
  | cons member members ih =>
    obtain ⟨next, nextValue⟩ := member
    rw [List.map_cons, List.map_cons, String.intercalate_cons_cons, ← List.map_cons, String.append_assoc,
      Bytes.ofString_append, ih]
    simp [memberText, Bytes.ofString_append, colon, comma, membersBytes]

theorem compactMembers_memberList (members : List (String × Json)) :
    compactMembers (memberList members) = members.map (memberText "" "") := by
  induction members with
  | nil => rfl
  | cons member members ih =>
    rw [memberList, List.map_cons, compactMembers, ← memberList, ih, List.map_cons, memberText]
    simp

theorem pretty_scalar {value : Json} (scalar : Scalar value) (depth : Nat) : pretty depth value = compact value := by
  cases scalar <;> rfl

theorem prettyMembers_memberList {members : List (String × Json)} (scalars : ∀ member ∈ members, Scalar member.2)
    (depth : Nat) :
    prettyMembers depth (memberList members) = members.map (memberText (indentation depth) " ") := by
  induction members with
  | nil => rfl
  | cons member members ih =>
    rw [memberList, List.map_cons, prettyMembers, ← memberList,
      ih fun member inside => scalars member (List.mem_cons_of_mem _ inside), List.map_cons, memberText,
      pretty_scalar (scalars member List.mem_cons_self)]
    simp [String.append_assoc]

/-- An object of scalars that is written on one line is read back, also behind space. -/
theorem parse?_compact {gap : Bytes} (blank : ∀ b ∈ gap, isSpace b = true) {members : List (String × Json)}
    (given : members ≠ []) (scalars : ∀ member ∈ members, Scalar member.2) :
    parse? (gap ++ Bytes.ofString (compact (.ofMembers members))) = some (.ofMembers members) := by
  obtain _ | ⟨⟨key, value⟩, members⟩ := members
  · exact (given rfl).elim
  have shown : Bytes.ofString (compact (.ofMembers ((key, value) :: members))) =
      byte '\x7b' :: ([] ++ (Bytes.ofString (quoted key) ++ byte ':' :: (membersBytes [] [] [] value members ++ []))) := by
    rw [List.append_nil]
    calc Bytes.ofString (compact (.ofMembers ((key, value) :: members)))
        = Bytes.ofString ("\x7b" ++ (String.intercalate "," (((key, value) :: members).map (memberText "" "")) ++
            ("" ++ "\x7d"))) := by
          rw [← compactMembers_memberList]
          simp [ofMembers, compact, memberList, String.append_assoc]
      _ = _ := by
          rw [Bytes.ofString_append, ofString_members]
          rfl
  rw [shown]
  exact parse?_object blank (by simp) (by simp) (by simp) (by simp) (scalars _ List.mem_cons_self)
    fun member inside => scalars member (List.mem_cons_of_mem _ inside)

/-- An object of scalars that is written over several lines is read back. -/
theorem parse?_pretty {members : List (String × Json)} (given : members ≠ [])
    (scalars : ∀ member ∈ members, Scalar member.2) :
    parse? (Bytes.ofString (pretty 0 (.ofMembers members) ++ "\n")) = some (.ofMembers members) := by
  obtain _ | ⟨⟨key, value⟩, members⟩ := members
  · exact (given rfl).elim
  have shown : Bytes.ofString (pretty 0 (.ofMembers ((key, value) :: members)) ++ "\n") =
      byte '\x7b' :: (Bytes.ofString (indentation 1) ++ (Bytes.ofString (quoted key) ++ byte ':' ::
        (membersBytes (Bytes.ofString (indentation 1)) (Bytes.ofString " ") (Bytes.ofString (indentation 0)) value
          members ++ Bytes.ofString "\n"))) := by
    calc Bytes.ofString (pretty 0 (.ofMembers ((key, value) :: members)) ++ "\n")
        = Bytes.ofString ("\x7b" ++ (String.intercalate ","
            (((key, value) :: members).map (memberText (indentation 1) " ")) ++ (indentation 0 ++ "\x7d")) ++ "\n") := by
          rw [← prettyMembers_memberList scalars]
          simp [ofMembers, pretty, memberList, String.append_assoc]
      _ = _ := by
          rw [Bytes.ofString_append, Bytes.ofString_append, ofString_members]
          simp [show Bytes.ofString "\x7b" = [byte '\x7b'] by decide]
  rw [shown]
  exact parse?_object (List.forall_mem_nil _) (by decide +kernel) (by decide +kernel) (by decide +kernel) (by decide +kernel)
    (scalars _ List.mem_cons_self)
    fun member inside => scalars member (List.mem_cons_of_mem _ inside)

end Json

end DualSlot
