import DualSlot.Proofs.DigestText
import DualSlot.Proofs.TextEdges
import DualSlot.Sidecar
import Mathlib.Data.List.Basic

/-! What the lines of a description of a hash tree state: keys and values, without the white space around them, the
case of the keys, and the lines for the reader only. What is read of the description depends on nothing else. -/

namespace DualSlot

namespace Metadata

open Text

/-- The line has the key, in any case and with white space around it, before its colon. -/
def HasKey (line : List Char) (key : Key) (rest : List Char) : Prop :=
  ∃ label name, line = label ++ ':' :: rest ∧ Padded label name ∧ lower name = key.name.toList

/-- The line gives a value to the key. -/
def Gives (line : List Char) (key : Key) (value : List Char) : Prop :=
  ∃ rest, HasKey line key rest ∧ Padded rest value

/-! Letters in either case. -/

theorem trim_lower (text : List Char) : trim (lower text) = lower (trim text) := by
  have same : isBlank ∘ Char.toLower = isBlank := funext isBlank_toLower
  rw [lower, lower, trim, trim, trimStart, trimStart, trimEnd, trimEnd, List.dropWhile_map, same,
    ← List.map_reverse, List.dropWhile_map, same, List.map_reverse]

/-! What a line states. -/

theorem Key.trim_name (key : Key) : trim key.name.toList = key.name.toList := by cases key <;> decide

theorem Key.name_whole (key : Key) : ':' ∉ key.name.toList := by cases key <;> decide

theorem Key.parse?_eq_some_iff {text : List Char} {key : Key} :
    Key.parse? text = some key ↔ lower (trim text) = key.name.toList := by
  constructor
  · intro found
    exact (of_decide_eq_true (List.find?_some (p := fun key : Key => key.name.toList = lower (trim text)) found)).symm
  · intro named
    rw [Key.parse?, named]
    cases key <;> decide

theorem hasKey_iff {line rest : List Char} {key : Key} :
    HasKey line key rest ↔ ∃ label, cut (· = ':') line = some (label, rest) ∧ Key.parse? label = some key := by
  simp only [Key.parse?_eq_some_iff, cut_eq_some_iff, decide_eq_true_eq, decide_eq_false_iff_not]
  constructor
  · rintro ⟨label, name, rfl, padded, named⟩
    refine ⟨label, ⟨':', rfl, rfl, fun c inside colon => ?_⟩, ?_⟩
    · obtain ⟨front, back, rfl, before, after⟩ := padded
      subst colon
      rcases List.mem_append.1 inside with inside | inside
      · rcases List.mem_append.1 inside with inside | inside
        · cases before _ inside
        · exact key.name_whole (named ▸ List.mem_map_of_mem (f := Char.toLower) inside)
      · cases after _ inside
    · rw [padded.trim_eq, ← trim_lower, named, key.trim_name]
  · rintro ⟨label, ⟨_, rfl, rfl, -⟩, named⟩
    exact ⟨label, trim label, rfl, padded_trim label, named⟩

/-- The key of the line and the value that it gives, unless it is for the reader only. -/
def statement? (line : List Char) : Option (Key × List Char) :=
  (cut (· = ':') line).bind fun (label, rest) => (Key.parse? label).map fun key => (key, trim rest)

theorem statement?_eq_some_iff {line value : List Char} {key : Key} :
    statement? line = some (key, value) ↔ ∃ rest, HasKey line key rest ∧ trim rest = value := by
  simp only [statement?, Option.bind_eq_some_iff, Option.map_eq_some_iff, hasKey_iff, Prod.exists, Prod.mk.injEq]
  constructor
  · rintro ⟨label, rest, found, _, named, rfl, rfl⟩
    exact ⟨rest, ⟨label, found, named⟩, rfl⟩
  · rintro ⟨rest, ⟨label, found, named⟩, rfl⟩
    exact ⟨label, rest, found, key, named, rfl, rfl⟩

theorem statement?_nil : statement? [] = none := rfl

/-- White space in front of a line makes no difference to what it states. -/
theorem statement?_cons {c : Char} (blank : isBlank c = true) (line : List Char) :
    statement? (c :: line) = statement? line := by
  have notColon : c ≠ ':' := by
    rintro rfl
    cases blank
  ext ⟨key, value⟩
  simp only [statement?_eq_some_iff, hasKey_iff, cut_eq_some_iff, Key.parse?_eq_some_iff, decide_eq_true_eq,
    decide_eq_false_iff_not]
  constructor
  · rintro ⟨rest, ⟨label, ⟨_, whole, rfl, clean⟩, named⟩, given⟩
    cases label with
    | nil => exact (notColon (List.cons.inj whole).1).elim
    | cons first label =>
      obtain ⟨rfl, rfl⟩ := List.cons.inj whole
      rw [trim_cons blank] at named
      exact ⟨rest, ⟨label, ⟨_, rfl, rfl, fun other inside => clean other (List.mem_cons_of_mem _ inside)⟩, named⟩,
        given⟩
  · rintro ⟨rest, ⟨label, ⟨_, rfl, rfl, clean⟩, named⟩, given⟩
    refine ⟨rest, ⟨c :: label, ⟨_, rfl, rfl, List.forall_mem_cons.2 ⟨notColon, clean⟩⟩, ?_⟩, given⟩
    rwa [trim_cons blank]

/-- Nor does white space behind it. -/
theorem statement?_concat {c : Char} (blank : isBlank c = true) (line : List Char) :
    statement? (line ++ [c]) = statement? line := by
  have notColon : c ≠ ':' := by
    rintro rfl
    cases blank
  ext ⟨key, value⟩
  simp only [statement?_eq_some_iff, hasKey_iff, cut_eq_some_iff, decide_eq_true_eq]
  constructor
  · rintro ⟨rest, ⟨label, ⟨_, whole, rfl, clean⟩, named⟩, given⟩
    rcases List.eq_nil_or_concat rest with rfl | ⟨rest, last, rfl⟩
    · have ends := (List.append_inj' whole rfl).2
      exact (notColon (List.cons.inj ends).1).elim
    · rw [List.concat_eq_append, ← List.cons_append, ← List.append_assoc] at whole
      obtain ⟨rfl, ends⟩ := List.append_inj' whole rfl
      obtain ⟨rfl, -⟩ := List.cons.inj ends
      rw [List.concat_eq_append, trim_concat blank] at given
      exact ⟨rest, ⟨label, ⟨_, rfl, rfl, clean⟩, named⟩, given⟩
  · rintro ⟨rest, ⟨label, ⟨_, rfl, rfl, clean⟩, named⟩, given⟩
    refine ⟨rest ++ [c], ⟨label, ⟨_, by simp, rfl, clean⟩, named⟩, ?_⟩
    rwa [trim_concat blank]

theorem statement?_append_blanks {blanks : List Char} (blank : ∀ c ∈ blanks, isBlank c = true) (line : List Char) :
    statement? (line ++ blanks) = statement? line := by
  induction blanks generalizing line with
  | nil => rw [List.append_nil]
  | cons c blanks ih =>
    rw [List.append_cons, ih fun other inside => blank other (List.mem_cons_of_mem _ inside),
      statement?_concat (blank c List.mem_cons_self)]

theorem statement?_dropReturn (line : List Char) : statement? (dropReturn line) = statement? line := by
  obtain ⟨blanks, blank, whole⟩ := exists_dropReturn line
  conv_rhs => rw [whole]
  exact (statement?_append_blanks blank _).symm

/-- What the lines of a text state, in order. -/
def statements (text : List Char) : List (Key × List Char) := (text.splitOn '\n').filterMap statement?

theorem statements_lines (text : List Char) : (lines text).filterMap statement? = statements text := by
  obtain ⟨before, last, pieces⟩ := List.eq_nil_or_concat (text.splitOn '\n') |>.resolve_left
    (List.splitOn_ne_nil '\n' text)
  have ended : (before.map dropReturn).filterMap statement? = before.filterMap statement? := by
    rw [List.filterMap_map]
    exact List.filterMap_congr fun line _ => statement?_dropReturn line
  rw [statements, lines, pieces, List.concat_eq_append]
  simp only [List.dropLast_concat, List.getLast?_concat]
  cases last with
  | nil => rw [ended, List.filterMap_append]; simp [statement?_nil]
  | cons c rest => rw [List.filterMap_append, ended, List.filterMap_append]

theorem statements_cons {c : Char} (blank : isBlank c = true) (text : List Char) :
    statements (c :: text) = statements text := by
  rw [statements, List.splitOn_cons_eq_if_modifyHead]
  split
  next => rw [List.filterMap_cons_none statement?_nil, statements]
  next =>
    obtain ⟨line, more, pieces⟩ := List.exists_cons_of_ne_nil (List.splitOn_ne_nil '\n' text)
    rw [statements, pieces, List.modifyHead_cons, List.filterMap_cons, List.filterMap_cons, statement?_cons blank]

/-- The last line of a text goes on with what is added to the text. -/
theorem exists_splitOn_append {more : List Char} (whole : '\n' ∉ more) (text : List Char) :
    ∃ before last, text.splitOn '\n' = before ++ [last] ∧ (text ++ more).splitOn '\n' = before ++ [last ++ more] := by
  induction text with
  | nil => exact ⟨[], [], rfl, List.splitOn_eq_singleton whole⟩
  | cons c text ih =>
    obtain ⟨before, last, pieces, longer⟩ := ih
    rw [List.cons_append, List.splitOn_cons_eq_if_modifyHead, List.splitOn_cons_eq_if_modifyHead, pieces, longer]
    split
    next => exact ⟨[] :: before, last, rfl, rfl⟩
    next =>
      cases before with
      | nil => exact ⟨[], c :: last, rfl, rfl⟩
      | cons first before => exact ⟨(c :: first) :: before, last, rfl, rfl⟩

theorem statements_concat {c : Char} (blank : isBlank c = true) (text : List Char) :
    statements (text ++ [c]) = statements text := by
  by_cases feed : c = '\n'
  · subst feed
    rw [statements, List.splitOn_append_cons_self, List.filterMap_append]
    exact List.append_nil _
  · obtain ⟨before, last, pieces, longer⟩ := exists_splitOn_append (show '\n' ∉ [c] by simpa using Ne.symm feed) text
    rw [statements, statements, pieces, longer, List.filterMap_append, List.filterMap_append, List.filterMap_cons,
      List.filterMap_cons, statement?_concat blank]

/-- White space around a text makes no difference to what it states. -/
theorem statements_trim (text : List Char) : statements (trim text) = statements text := by
  obtain ⟨front, back, whole, before, after⟩ := padded_trim text
  generalize trim text = inner at whole
  subst whole
  have behind (back : List Char) (after : ∀ c ∈ back, isBlank c = true) (text : List Char) :
      statements (text ++ back) = statements text := by
    induction back generalizing text with
    | nil => rw [List.append_nil]
    | cons c back ih =>
      rw [List.append_cons, ih fun other inside => after other (List.mem_cons_of_mem _ inside),
        statements_concat (after c List.mem_cons_self)]
  rw [behind back after]
  induction front with
  | nil => rfl
  | cons c front ih =>
    rw [List.cons_append, statements_cons (before c List.mem_cons_self)]
    exact ih fun other inside => before other (List.mem_cons_of_mem _ inside)

/-! What is read of a text. -/

/-- The fields with a value that a line gives to a key, if it is one for the key. -/
def Fields.take? (fields : Fields) : Key × List Char → Option Fields
  | (.rootHash, value) => (Digest.parseChars value).toOption.map fun digest => { fields with rootHash := some digest }
  | (.salt, value) =>
    if value = ['-'] then some fields else (Hex.decode? value).map fun salt => { fields with salt }
  | (.dataBlockSize, value) =>
    (number? UInt64.size value).map fun size => { fields with dataBlockSize := some size }
  | (.hashBlockSize, value) =>
    (number? UInt64.size value).map fun size => { fields with hashBlockSize := some size }
  | (.dataBlocks, value) => (number? UInt64.size value).map fun count => { fields with dataBlocks := some count }
  | (.algorithm, value) => if lower value = "sha256".toList then some fields else none
  | (.type, value) => if value = ['1'] then some fields else none

/-- Of a line no more than its statement counts, if it is read without an error. -/
theorem Fields.toOption_readLine (fields : Fields) (line : List Char) :
    (fields.readLine line).toOption = ((statement? line).elim (some fields) fields.take?) := by
  rw [readLine, statement?]
  cases cut (· = ':') line with
  | none => rfl
  | some parts =>
    obtain ⟨label, rest⟩ := parts
    cases named : Key.parse? label with
    | none => simp [named, Except.toOption]
    | some key =>
      simp only [Option.bind_some, named, Option.map_some, Option.elim_some]
      cases key with
      | rootHash =>
        simp only [take?]
        cases Digest.parseChars (trim rest) <;> rfl
      | salt =>
        simp only [take?]
        split
        next => rfl
        next => cases Hex.decode? (trim rest) <;> rfl
      | dataBlockSize | hashBlockSize | dataBlocks =>
        simp only [take?, number]
        cases number? UInt64.size (trim rest) <;> rfl
      | algorithm | type =>
        simp only [take?]
        split <;> rfl

theorem toOption_foldlM_readLine (lines : List (List Char)) (fields : Fields) :
    (lines.foldlM Fields.readLine fields).toOption = (lines.filterMap statement?).foldlM Fields.take? fields := by
  induction lines generalizing fields with
  | nil => rfl
  | cons line lines ih =>
    have first := fields.toOption_readLine line
    rw [List.foldlM_cons, List.filterMap_cons]
    cases read : fields.readLine line with
    | error cause =>
      rw [read] at first
      cases stated : statement? line with
      | none => rw [stated] at first; cases first
      | some statement =>
        rw [stated] at first
        rw [List.foldlM_cons, show fields.take? statement = none from first.symm]
        rfl
    | ok after =>
      rw [read] at first
      change (lines.foldlM Fields.readLine after).toOption = _
      rw [ih]
      cases stated : statement? line with
      | none =>
        rw [stated] at first
        rw [Option.some_inj.1 first]
      | some statement =>
        rw [stated] at first
        rw [List.foldlM_cons, show fields.take? statement = some after from first.symm]
        rfl

end Metadata

end DualSlot
