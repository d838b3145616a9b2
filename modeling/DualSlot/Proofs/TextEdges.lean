import DualSlot.Proofs.TextPieces
import Mathlib.Data.List.TakeDrop

/-! White space at the edges of a text and what is left without it, where a text is cut, and the texts that are
read as numbers. -/

namespace DualSlot

namespace Text

/-- White space may stand around the inner text. -/
def Padded (text inner : List Char) : Prop :=
  ∃ front back, text = front ++ inner ++ back ∧ (∀ c ∈ front, isBlank c = true) ∧ ∀ c ∈ back, isBlank c = true

/-- Decimal digits of the value, with or without a plus sign in front. -/
def Denotes (text : List Char) (value : Nat) : Prop :=
  ∃ digits, (text = digits ∨ text = '+' :: digits) ∧ digits ≠ [] ∧ (∀ c ∈ digits, c.isDigit = true) ∧
    digitsValue digits = value

theorem trim_cons {c : Char} (blank : isBlank c = true) (text : List Char) : trim (c :: text) = trim text := by
  rw [trim, trimStart, List.dropWhile_cons_of_pos blank]
  rfl

theorem trimEnd_concat {c : Char} (blank : isBlank c = true) (text : List Char) :
    trimEnd (text ++ [c]) = trimEnd text := by
  rw [trimEnd, List.reverse_append, List.reverse_singleton, List.singleton_append,
    List.dropWhile_cons_of_pos blank]
  rfl

theorem trim_concat {c : Char} (blank : isBlank c = true) (text : List Char) : trim (text ++ [c]) = trim text := by
  rw [trim, trim, trimStart, List.dropWhile_append]
  split
  next empty =>
    rw [List.isEmpty_iff] at empty
    rw [trimStart, empty, List.dropWhile_cons_of_pos blank, List.dropWhile_nil]
  next => exact trimEnd_concat blank _

theorem trim_blanks_append {blanks : List Char} (blank : ∀ c ∈ blanks, isBlank c = true) (text : List Char) :
    trim (blanks ++ text) = trim text := by
  induction blanks with
  | nil => rfl
  | cons c blanks ih =>
    rw [List.cons_append, trim_cons (blank c List.mem_cons_self),
      ih fun other inside => blank other (List.mem_cons_of_mem _ inside)]

theorem trim_append_blanks {blanks : List Char} (blank : ∀ c ∈ blanks, isBlank c = true) (text : List Char) :
    trim (text ++ blanks) = trim text := by
  induction blanks generalizing text with
  | nil => rw [List.append_nil]
  | cons c blanks ih =>
    rw [List.append_cons, ih fun other inside => blank other (List.mem_cons_of_mem _ inside),
      trim_concat (blank c List.mem_cons_self)]

theorem padded_trim (text : List Char) : Padded text (trim text) := by
  obtain ⟨back, blank, whole⟩ := exists_trimEnd (trimStart text)
  refine ⟨text.takeWhile isBlank, back, ?_, List.all_eq_true.1 List.all_takeWhile, blank⟩
  rw [List.append_assoc, trim, ← whole, trimStart, List.takeWhile_append_dropWhile]

theorem Padded.trim_eq {text inner : List Char} (padded : Padded text inner) : trim text = trim inner := by
  obtain ⟨front, back, rfl, before, after⟩ := padded
  rw [trim_append_blanks after, trim_blanks_append before]

/-- What stands before and after the first character with the property. -/
theorem cut_eq_some_iff {p : Char → Bool} {text before after : List Char} :
    cut p text = some (before, after) ↔
      ∃ c, text = before ++ c :: after ∧ p c = true ∧ ∀ other ∈ before, p other = false := by
  rw [cut, List.span_eq_takeWhile_dropWhile]
  constructor
  · intro found
    have parts := List.takeWhile_append_dropWhile (p := fun c => !p c) (l := text)
    have passed (other : Char) (inside : other ∈ text.takeWhile fun c => !p c) : p other = false := by
      simpa using List.all_eq_true.1 List.all_takeWhile other inside
    split at found
    next => cases found
    next first c rest same =>
      cases found
      obtain ⟨rfl, stop⟩ := Prod.mk.inj same
      have stopped := List.head?_dropWhile_not (fun c => !p c) text
      rw [stop] at stopped parts
      exact ⟨c, parts.symm, by simpa using stopped, passed⟩
  · rintro ⟨c, rfl, stops, passed⟩
    have goes (other : Char) (inside : other ∈ before) : (!p other) = true := by simp [passed other inside]
    rw [List.takeWhile_append_of_pos goes, List.dropWhile_append_of_pos goes,
      List.takeWhile_cons_of_neg (by simp [stops]), List.dropWhile_cons_of_neg (by simp [stops]), List.append_nil]

/-- No number is written with white space. -/
theorem Denotes.solid {text : List Char} {number : Nat} (denotes : Denotes text number) :
    ∀ c ∈ text, isBlank c = false := by
  obtain ⟨digits, shape, -, all, -⟩ := denotes
  have digit (c : Char) (inside : c ∈ digits) : isBlank c = false := by
    have ascii := all c inside
    simp only [Char.isDigit, Bool.and_eq_true, decide_eq_true_eq, ge_iff_le, UInt32.le_iff_toNat_le] at ascii
    have low : 48 ≤ c.toNat := ascii.1
    have high : c.toNat ≤ 57 := ascii.2
    simp only [isBlank, Bool.or_eq_false_iff, Bool.and_eq_false_iff, decide_eq_false_iff_not, beq_eq_false_iff_ne]
    omega
  rcases shape with rfl | rfl
  · exact digit
  · exact List.forall_mem_cons.2 ⟨by decide, digit⟩

theorem number?_eq_some_iff {bound value : Nat} {text : List Char} :
    number? bound text = some value ↔ Denotes text value ∧ value < bound := by
  have read (digits : List Char) :
      (if digits.isEmpty || !digits.all Char.isDigit then none else digitsBelow? bound digits) = some value ↔
        (digits ≠ [] ∧ (∀ c ∈ digits, c.isDigit = true) ∧ digitsValue digits = value) ∧ value < bound := by
    by_cases given : digits = []
    · simp [given]
    by_cases all : ∀ c ∈ digits, c.isDigit = true
    · have plain : (digits.isEmpty || !digits.all Char.isDigit) = false := by
        simpa [given] using all
      rw [plain, if_neg (by simp), digitsBelow?_eq_some_iff given]
      tauto
    · have odd : (digits.isEmpty || !digits.all Char.isDigit) = true := by
        simpa [given] using all
      rw [odd, if_pos rfl]
      simp [all]
  unfold number? Denotes
  split
  next rest =>
    rw [read]
    constructor
    · rintro ⟨parts, below⟩
      exact ⟨⟨rest, .inr rfl, parts⟩, below⟩
    · rintro ⟨⟨digits, same | same, parts⟩, below⟩
      · have digit := parts.2.1 '+' (same ▸ List.mem_cons_self)
        cases digit
      · cases same
        exact ⟨parts, below⟩
  next unsigned =>
    rw [read]
    constructor
    · rintro ⟨parts, below⟩
      exact ⟨⟨text, .inl rfl, parts⟩, below⟩
    · rintro ⟨⟨digits, same | same, parts⟩, below⟩
      · exact same ▸ ⟨parts, below⟩
      · exact (unsigned digits same).elim

end Text

end DualSlot
