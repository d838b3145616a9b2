import DualSlot.Text.Blank
import DualSlot.Text.Decimal
import DualSlot.Text.Lines

/-! How written text comes apart again: at its line feeds, at its white space, and into the digits of a
number. White space is the same in either case of the letters. -/

namespace DualSlot.Text

/-- What holds of all of ASCII holds of a character in it. -/
@[elab_as_elim]
theorem of_ascii {motive : Char → Prop} {c : Char} (ascii : c.toNat < 128)
    (all : ∀ code : Fin 128, motive (Char.ofNat code)) : motive c := by
  have holds := all ⟨c.toNat, ascii⟩
  rwa [Char.ofNat_toNat] at holds

theorem toLower_of_ascii_le {c : Char} (beyond : 128 ≤ c.toNat) : c.toLower = c := by
  have outside : ¬ (c.val ≥ 'A'.val ∧ c.val ≤ 'Z'.val) := by
    rintro ⟨-, upper⟩
    have small : c.toNat ≤ 90 := upper
    omega
  exact dif_neg outside

theorem isBlank_toLower (c : Char) : isBlank c.toLower = isBlank c := by
  by_cases ascii : c.toNat < 128
  · exact of_ascii ascii (by decide)
  · rw [toLower_of_ascii_le (Nat.le_of_not_lt ascii)]

theorem solid_of_lower {text other : List Char} (same : text.map Char.toLower = other)
    (solid : ∀ c ∈ other, isBlank c = false) : ∀ c ∈ text, isBlank c = false := by
  intro c inside
  rw [← isBlank_toLower]
  exact solid _ (same ▸ List.mem_map_of_mem inside)

theorem dropWhile_eq_self {p : Char → Bool} {text : List Char} (none : ∀ c ∈ text, p c = false) :
    text.dropWhile p = text := by
  cases text with
  | nil => rfl
  | cons c rest => simp [none c List.mem_cons_self]

theorem solid_of_all {text : List Char} (solid : text.all (!isBlank ·) = true) :
    ∀ c ∈ text, isBlank c = false :=
  fun c inside => by simpa using List.all_eq_true.1 solid c inside

theorem trim_eq_self {text : List Char} (solid : ∀ c ∈ text, isBlank c = false) :
    trim text = text := by
  have reversed : ∀ c ∈ text.reverse, isBlank c = false :=
    fun c inside => solid c (List.mem_reverse.1 inside)
  rw [trim, trimStart, dropWhile_eq_self solid, trimEnd, dropWhile_eq_self reversed,
    List.reverse_reverse]

theorem words_append_cons {c : Char} (blank : isBlank c = true) (before after : List Char) :
    words (before ++ c :: after) = words before ++ words after := by
  rw [words, List.splitOnP_append_cons before after blank, List.filter_append, words, words]

theorem words_solid {word : List Char} (given : word ≠ []) (solid : ∀ c ∈ word, isBlank c = false) :
    words word = [word] := by
  rw [words, List.splitOnP_eq_singleton solid]
  simp [given]

/-- A piece has only characters of the text, and none of those at which the text is split. -/
theorem subset_filter_of_mem_splitOnP {p : Char → Bool} {text piece : List Char}
    (inside : piece ∈ text.splitOnP p) : piece ⊆ text.filter fun c => !p c := by
  induction text generalizing piece with
  | nil =>
    rw [List.splitOnP_nil, List.mem_singleton] at inside
    subst inside
    exact List.nil_subset _
  | cons first text ih =>
    obtain ⟨head, pieces, cut⟩ := List.exists_cons_of_ne_nil (List.splitOnP_ne_nil p text)
    rw [cut] at ih
    rw [List.splitOnP_cons_eq_if_modifyHead, cut] at inside
    split at inside
    next stops =>
      rw [List.filter_cons_of_neg (by simp [stops])]
      rcases List.mem_cons.1 inside with rfl | later
      · exact List.nil_subset _
      · exact ih later
    next passed =>
      rw [List.filter_cons_of_pos (by simp [passed])]
      rw [List.modifyHead_cons] at inside
      rcases List.mem_cons.1 inside with rfl | later
      · exact List.cons_subset_cons _ (ih List.mem_cons_self)
      · exact List.subset_cons_of_subset _ (ih (List.mem_cons_of_mem _ later))

theorem subset_of_mem_splitOnP {p : Char → Bool} {text piece : List Char} (inside : piece ∈ text.splitOnP p) :
    piece ⊆ text :=
  fun _ found => (List.mem_filter.1 (subset_filter_of_mem_splitOnP inside found)).1

theorem solid_of_mem_splitOnP {p : Char → Bool} {text piece : List Char} (inside : piece ∈ text.splitOnP p) :
    ∀ c ∈ piece, p c = false := by
  intro c found
  simpa using (List.mem_filter.1 (subset_filter_of_mem_splitOnP inside found)).2

theorem solid_of_mem_words {text word : List Char} (inside : word ∈ words text) :
    ∀ c ∈ word, isBlank c = false :=
  solid_of_mem_splitOnP (List.mem_filter.1 inside).1

/-- White space at the end makes no further words. -/
theorem words_append_blanks {blanks : List Char} (blank : ∀ c ∈ blanks, isBlank c = true)
    (text : List Char) : words (text ++ blanks) = words text := by
  induction blanks generalizing text with
  | nil => rw [List.append_nil]
  | cons c blanks ih =>
    have later := ih (fun other inside => blank other (List.mem_cons_of_mem _ inside)) []
    rw [words_append_cons (blank c List.mem_cons_self), ← List.nil_append blanks, later]
    simp [words]

/-- A line that has ended is read apart from the lines after it. -/
theorem lines_append_cons {line : List Char} (whole : '\n' ∉ line) (rest : List Char) :
    lines (line ++ '\n' :: rest) = dropReturn line :: lines rest := by
  have pieces : (line ++ '\n' :: rest).splitOn '\n' = line :: rest.splitOn '\n' := by
    rw [List.splitOn_append_cons_self, List.splitOn_eq_singleton whole, List.singleton_append]
  obtain ⟨first, more, cut⟩ := List.exists_cons_of_ne_nil (List.splitOn_ne_nil '\n' rest)
  rw [lines, lines, pieces, cut]
  simp only [List.dropLast_cons_cons, List.map_cons, List.getLast?_cons_cons]
  split <;> simp

theorem lines_flatMap {texts : List (List Char)} (whole : ∀ text ∈ texts, '\n' ∉ text ∧ dropReturn text = text) :
    lines (texts.flatMap (· ++ ['\n'])) = texts := by
  induction texts with
  | nil => rfl
  | cons text texts ih =>
    obtain ⟨noFeed, kept⟩ := whole text List.mem_cons_self
    have rest := ih fun other inside => whole other (List.mem_cons_of_mem _ inside)
    rw [List.flatMap_cons, List.append_assoc, List.singleton_append, lines_append_cons noFeed, kept, rest]

theorem exists_dropReturn (line : List Char) :
    ∃ blanks, (∀ c ∈ blanks, isBlank c = true) ∧ line = dropReturn line ++ blanks := by
  unfold dropReturn
  split
  next ended =>
    obtain ⟨before, rfl⟩ := List.getLast?_eq_some_iff.1 ended
    refine ⟨['\r'], fun c inside => ?_, by simp⟩
    obtain rfl := List.mem_singleton.1 inside
    rfl
  next => exact ⟨[], by simp, by simp⟩

theorem exists_trimEnd (text : List Char) :
    ∃ blanks, (∀ c ∈ blanks, isBlank c = true) ∧ text = trimEnd text ++ blanks := by
  refine ⟨(text.reverse.takeWhile isBlank).reverse, fun c inside => ?_, ?_⟩
  · exact List.all_eq_true.1 List.all_takeWhile c (List.mem_reverse.1 inside)
  · rw [trimEnd, ← List.reverse_append, List.takeWhile_append_dropWhile, List.reverse_reverse]

/-- Reading a line that does not begin with white space loses only white space at its end. -/
theorem exists_trim_dropReturn {c : Char} (solid : isBlank c = false) (rest : List Char) :
    ∃ kept blanks, (∀ c ∈ blanks, isBlank c = true) ∧ trim (dropReturn (c :: rest)) = c :: kept ∧
      rest = kept ++ blanks := by
  obtain ⟨ended, endedBlank, endedEq⟩ := exists_dropReturn (c :: rest)
  cases shown : dropReturn (c :: rest) with
  | nil =>
    rw [shown, List.nil_append] at endedEq
    have blank := endedBlank c (endedEq ▸ List.mem_cons_self)
    rw [solid] at blank
    cases blank
  | cons first more =>
    rw [shown, List.cons_append] at endedEq
    obtain ⟨rfl, restEq⟩ := List.cons.inj endedEq
    have started : trimStart (c :: more) = c :: more := by simp [trimStart, solid]
    obtain ⟨blanks, blank, trimmedEq⟩ := exists_trimEnd (c :: more)
    rw [trim, started]
    cases trimmed : trimEnd (c :: more) with
    | nil =>
      rw [trimmed, List.nil_append] at trimmedEq
      have impossible := blank c (trimmedEq ▸ List.mem_cons_self)
      rw [solid] at impossible
      cases impossible
    | cons first kept =>
      rw [trimmed, List.cons_append] at trimmedEq
      obtain ⟨rfl, moreEq⟩ := List.cons.inj trimmedEq
      refine ⟨kept, blanks ++ ended, ?_, rfl, ?_⟩
      · intro other inside
        exact (List.mem_append.1 inside).elim (blank other) (endedBlank other)
      · rw [restEq, moreEq, List.append_assoc]

theorem digitsValue_toDigits (value : Nat) : digitsValue (Nat.toDigits 10 value) = value :=
  (Nat.ofDigitChars_eq_foldl.symm.trans (Nat.ofDigitChars_toDigits (by decide) (by decide)))

theorem number?_toDigits {bound value : Nat} (below : value < bound) :
    number? bound (Nat.toDigits 10 value) = some value := by
  have digits : ∀ c ∈ Nat.toDigits 10 value, c.isDigit = true :=
    fun c inside => Nat.isDigit_of_mem_toDigits (by decide) (by decide) inside
  have given : Nat.toDigits 10 value ≠ [] := Nat.toDigits_ne_nil
  have read := (digitsBelow?_eq_some_iff given).2 ⟨digitsValue_toDigits value, below⟩
  unfold number?
  dsimp only
  split
  next rest signed =>
    have plus := digits '+' (signed ▸ List.mem_cons_self)
    cases plus
  next => simp [given, read, List.all_eq_true.2 digits]

theorem word32?_toDigits (value : UInt32) : word32? (Nat.toDigits 10 value.toNat) = some value := by
  rw [word32?, number?_toDigits value.toNat_lt]
  simp

theorem toNat_of_mem_toDigits {value : Nat} {c : Char} (inside : c ∈ Nat.toDigits 10 value) :
    0x30 ≤ c.toNat ∧ c.toNat ≤ 0x39 := by
  have digit := Nat.isDigit_of_mem_toDigits (by decide) (by decide) inside
  simp only [Char.isDigit, Bool.and_eq_true, decide_eq_true_eq] at digit
  exact digit

theorem toDigits_solid (value : Nat) : ∀ c ∈ Nat.toDigits 10 value, isBlank c = false := by
  intro c inside
  obtain ⟨low, high⟩ := toNat_of_mem_toDigits inside
  simp only [isBlank, Bool.or_eq_false_iff, Bool.and_eq_false_iff, decide_eq_false_iff_not,
    beq_eq_false_iff_ne]
  omega

end DualSlot.Text
