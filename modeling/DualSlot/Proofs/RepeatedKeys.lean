import DualSlot.Proofs.MetadataFormat

/-! Keys that occur more than once in a description of a hash tree. The last line of a key replaces the ones before
it, with one exception: a dash for the salt replaces nothing, and may as well not be there. -/

namespace DualSlot.Metadata

open Text

variable {fields after : Fields} {key other : Key} {value : List Char} {metadata : Metadata}

/-- The line is one for the key, whatever its value is. -/
def IsFor (key : Key) (line : List Char) : Prop := ∃ rest, HasKey line key rest

theorem isFor_iff {line : List Char} : IsFor key line ↔ (statement? line).map Prod.fst = some key := by
  rw [Option.map_eq_some_iff]
  constructor
  · rintro ⟨rest, hasKey⟩
    exact ⟨(key, trim rest), statement?_eq_some_iff.2 ⟨rest, hasKey, rfl⟩, rfl⟩
  · rintro ⟨⟨_, value⟩, stated, rfl⟩
    obtain ⟨rest, hasKey, -⟩ := statement?_eq_some_iff.1 stated
    exact ⟨rest, hasKey⟩

instance (key : Key) (line : List Char) : Decidable (IsFor key line) := decidable_of_iff' _ isFor_iff

/-- The text of some lines. -/
def ofLines (lines : List (List Char)) : String := .ofList (List.intercalate ['\n'] lines)

/-- A text of some lines of another one states what these do. -/
theorem statements_ofLines {text : List Char} {kept : List (List Char)} (among : kept.Sublist (text.splitOn '\n'))
    (some : kept ≠ []) : statements (ofLines kept).toList = kept.filterMap statement? := by
  have whole : ∀ line ∈ kept, '\n' ∉ line := by
    intro line inside feed
    cases solid_of_mem_splitOnP (among.subset inside) '\n' feed
  rw [ofLines, String.toList_ofList, statements, List.splitOn_intercalate '\n' whole some]

theorem filterMap_statement?_filter (key : Key) (lines : List (List Char)) :
    (lines.filter (¬ IsFor key ·)).filterMap statement? = (lines.filterMap statement?).filter (·.1 ≠ key) := by
  induction lines with
  | nil => rfl
  | cons line lines ih =>
    cases stated : statement? line with
    | none =>
      have kept : ¬ IsFor key line := by simp [isFor_iff, stated]
      rw [List.filterMap_cons_none stated, List.filter_cons_of_pos (by simpa using kept),
        List.filterMap_cons_none stated, ih]
    | some statement =>
      rw [List.filterMap_cons_some stated]
      by_cases same : statement.1 = key
      · have dropped : IsFor key line := isFor_iff.2 (by rw [stated, Option.map_some, same])
        rw [List.filter_cons_of_neg (by simpa using dropped), List.filter_cons_of_neg (by simpa using same), ih]
      · have kept : ¬ IsFor key line := by simpa [isFor_iff, stated] using same
        rw [List.filter_cons_of_pos (by simpa using kept), List.filter_cons_of_pos (by simpa using same),
          List.filterMap_cons_some stated, ih]

/-- A text is read if all its statements are taken and there is a root hash among them. -/
theorem parse_of_statements {text : String} (taken : (statements text.toList).foldlM Fields.take? .blank = some fields)
    (made : fields.metadata = .ok metadata) : parse text = .ok metadata := by
  have listed : ':' ∈ trim text.toList := by
    by_contra plain
    rw [← statements_trim, statements_eq_nil plain] at taken
    obtain rfl := Option.some_inj.1 taken
    cases made
  apply Except.eq_ok_of_toOption
  rw [toOption_parse fun bare => bare.1 listed, taken, Option.bind_some, made]
  rfl

theorem exists_fields_of_parse {text : String} (read : parse text = .ok metadata)
    (listed : ':' ∈ trim text.toList ∨ '\n' ∈ trim text.toList) :
    ∃ fields : Fields, (statements text.toList).foldlM Fields.take? .blank = some fields ∧
      fields.metadata = .ok metadata := by
  have form : ¬ (':' ∉ trim text.toList ∧ '\n' ∉ trim text.toList) := by tauto
  have found := toOption_parse form
  rw [read] at found
  obtain ⟨fields, taken, made⟩ := Option.bind_eq_some_iff.1 found.symm
  exact ⟨fields, taken, Except.eq_ok_of_toOption made⟩

namespace Fields

/-- The fields as if no line so far had been one for the key. -/
def forget (fields : Fields) : Key → Fields
  | .rootHash => { fields with rootHash := none }
  | .salt => { fields with salt := [] }
  | .dataBlockSize => { fields with dataBlockSize := none }
  | .hashBlockSize => { fields with hashBlockSize := none }
  | .dataBlocks => { fields with dataBlocks := none }
  | .algorithm | .type => fields

theorem forget_blank (key : Key) : blank.forget key = blank := by
  cases key <;> rfl

theorem forget_of_take? (taken : fields.take? (key, value) = some after) : after.forget key = fields.forget key := by
  cases key with
  | rootHash | dataBlockSize | hashBlockSize | dataBlocks =>
    obtain ⟨_, -, rfl⟩ := Option.map_eq_some_iff.1 taken
    rfl
  | salt =>
    rw [take?] at taken
    split at taken
    next => exact congrArg (forget · .salt) (Option.some_inj.1 taken).symm
    next =>
      obtain ⟨_, -, rfl⟩ := Option.map_eq_some_iff.1 taken
      rfl
  | algorithm | type =>
    rw [take?] at taken
    split at taken
    next => exact (Option.some_inj.1 taken).symm
    next => cases taken

/-- What is forgotten of one key makes no difference to the lines of the others. -/
theorem take?_forget (different : other ≠ key) (fields : Fields) (value : List Char) :
    (fields.forget key).take? (other, value) = (fields.take? (other, value)).map (forget · key) := by
  cases other with
  | rootHash =>
    simp only [take?, Option.map_map]
    cases key <;> first | rfl | exact (different rfl).elim
  | salt =>
    simp only [take?]
    split
    next => rfl
    next =>
      simp only [Option.map_map]
      cases key <;> first | rfl | exact (different rfl).elim
  | dataBlockSize | hashBlockSize | dataBlocks =>
    simp only [take?, Option.map_map]
    cases key <;> first | rfl | exact (different rfl).elim
  | algorithm | type =>
    simp only [take?]
    split <;> rfl

/-- Nor does it to a later line of the same key, except for a dash. -/
theorem take?_forget_self (given : ¬ (key = .salt ∧ value = ['-'])) (fields : Fields) :
    (fields.forget key).take? (key, value) = fields.take? (key, value) := by
  cases key with
  | salt =>
    have noDash : value ≠ ['-'] := fun dash => given ⟨rfl, dash⟩
    rw [take?, take?, if_neg noDash, if_neg noDash]
    rfl
  | _ => rfl

/-- Without the lines of a key, all else is read as it was. -/
theorem foldlM_take?_forget {given : List (Key × List Char)} (taken : given.foldlM take? fields = some after) :
    (given.filter (·.1 ≠ key)).foldlM take? (fields.forget key) = some (after.forget key) := by
  induction given generalizing fields with
  | nil => exact congrArg (Option.map (forget · key)) taken
  | cons statement given ih =>
    obtain ⟨label, value⟩ := statement
    rw [List.foldlM_cons] at taken
    obtain ⟨next, first, later⟩ := Option.bind_eq_some_iff.1 taken
    by_cases same : label = key
    · subst same
      rw [List.filter_cons_of_neg (by simp), ← forget_of_take? first]
      exact ih later
    · rw [List.filter_cons_of_pos (by simpa using same), List.foldlM_cons, take?_forget same, first]
      exact ih later

/-- With its last line alone a key comes to what it does with all of them, but a dash for the salt to nothing. -/
theorem foldlM_take?_last {before later : List (Key × List Char)}
    (taken : (before ++ (key, value) :: later).foldlM take? blank = some after)
    (last : later.filter (·.1 ≠ key) = later) :
    (before.filter (·.1 ≠ key) ++ (key, value) :: later).foldlM take? blank =
      some (if key = .salt ∧ value = ['-'] then after.forget .salt else after) := by
  rw [List.foldlM_append] at taken
  obtain ⟨first, early, taken⟩ := Option.bind_eq_some_iff.1 taken
  rw [List.foldlM_cons] at taken
  obtain ⟨second, given, late⟩ := Option.bind_eq_some_iff.1 taken
  have earlier : (before.filter (·.1 ≠ key)).foldlM take? blank = some (first.forget key) :=
    forget_blank key ▸ foldlM_take?_forget early
  rw [List.foldlM_append, earlier]
  change List.foldlM take? (first.forget key) (_ :: _) = _
  rw [List.foldlM_cons]
  split
  next dash =>
    obtain ⟨rfl, rfl⟩ := dash
    -- The dash leaves the fields alone, so what was forgotten before it stays forgotten.
    obtain rfl : first = second := Option.some_inj.1 given
    rw [← last]
    exact foldlM_take?_forget late
  next counts =>
    rw [take?_forget_self counts, given]
    exact late

theorem metadata_forget_salt (made : fields.metadata = .ok metadata) :
    (fields.forget .salt).metadata = .ok { metadata with salt := [] } := by
  obtain ⟨_ | rootHash, salt, dataBlockSize, hashBlockSize, dataBlocks⟩ := fields
  · cases made
  · obtain rfl := Except.ok.inj made
    rfl

end Fields

/-- A line with a dash for the salt changes nothing that is read. -/
theorem parse_without_dash {text : String} (read : parse text = .ok metadata)
    (listed : ':' ∈ trim text.toList ∨ '\n' ∈ trim text.toList) {before later : List (List Char)}
    {line : List Char} (lines : text.toList.splitOn '\n' = before ++ line :: later)
    (dash : statement? line = some (.salt, ['-'])) : parse (ofLines (before ++ later)) = .ok metadata := by
  obtain ⟨fields, taken, made⟩ := exists_fields_of_parse read listed
  have among : (before ++ later).Sublist (text.toList.splitOn '\n') := by
    rw [lines]
    exact (List.sublist_cons_self line later).append_left before
  have stated : statements text.toList = before.filterMap statement? ++ (.salt, ['-']) :: later.filterMap statement? := by
    rw [statements, lines, List.filterMap_append, List.filterMap_cons_some dash]
  have same : (before.filterMap statement? ++ later.filterMap statement?).foldlM Fields.take? .blank = some fields := by
    rw [stated, List.foldlM_append] at taken
    rw [List.foldlM_append]
    exact taken
  have some : before ++ later ≠ [] := by
    intro none
    rw [List.append_eq_nil_iff] at none
    obtain ⟨rfl, rfl⟩ := none
    obtain rfl := Option.some_inj.1 same
    cases made
  refine parse_of_statements ?_ made
  rw [statements_ofLines among some, List.filterMap_append]
  exact same

/-- Of the lines of a key only the last one counts: without the others a text is read as it was. The exception
is a dash on the last line for the salt. By itself it stands for the empty salt, but behind other lines for the
salt it leaves theirs, as if it were not there. -/
theorem last_line_counts {text : String} (read : parse text = .ok metadata)
    (listed : ':' ∈ trim text.toList ∨ '\n' ∈ trim text.toList) {before later : List (List Char)}
    {line rest : List Char} (lines : text.toList.splitOn '\n' = before ++ line :: later)
    (hasKey : HasKey line key rest) (last : ∀ other ∈ later, ¬ IsFor key other) :
    parse (ofLines (before.filter (¬ IsFor key ·) ++ line :: later)) =
      .ok (if key = .salt ∧ trim rest = ['-'] then { metadata with salt := [] } else metadata) ∧
    (key = .salt → trim rest = ['-'] → parse (ofLines (before ++ later)) = .ok metadata) := by
  have states : statement? line = some (key, trim rest) := statement?_eq_some_iff.2 ⟨rest, hasKey, rfl⟩
  refine ⟨?_, fun salt dash => parse_without_dash read listed lines (by rw [states, salt, dash])⟩
  obtain ⟨fields, taken, made⟩ := exists_fields_of_parse read listed
  have among : (before.filter (¬ IsFor key ·) ++ line :: later).Sublist (text.toList.splitOn '\n') := by
    rw [lines]
    exact List.filter_sublist.append_right (line :: later)
  have stated : statements text.toList =
      before.filterMap statement? ++ (key, trim rest) :: later.filterMap statement? := by
    rw [statements, lines, List.filterMap_append, List.filterMap_cons_some states]
  have others : (later.filterMap statement?).filter (·.1 ≠ key) = later.filterMap statement? := by
    rw [← filterMap_statement?_filter, List.filter_eq_self.2 (by simpa using last)]
  rw [stated] at taken
  have reduced := Fields.foldlM_take?_last taken others
  rw [← filterMap_statement?_filter, ← List.filterMap_cons_some states, ← List.filterMap_append,
    ← statements_ofLines among (by simp)] at reduced
  apply parse_of_statements reduced
  split
  next => exact Fields.metadata_forget_salt made
  next => exact made

/-- A salt that a later dash does not take back, and a root hash that a later one replaces. -/
def repetitiveLines : List (List Char) :=
  ["Salt: c0ffee", "Root hash: " ++ Digest.zero.hex, "salt: -", "Root hash: " ++
    "eeeeeeeeeeeeeeeeeeeeeeeeeeeeeeeeeeeeeeeeeeeeeeeeeeeeeeeeeeeeeeee"].map String.toList

def repetitive : Metadata := { ofRootHash ⟨List.replicate 32 238, rfl⟩ with salt := [0xc0, 0xff, 0xee] }

private theorem parse_repetitive : (parse (ofLines repetitiveLines)).toOption = some repetitive := by
  decide +kernel

/-- Without the first root hash all is read as it was; with the last of the two lines for the salt alone the salt is
empty, and with the first alone it is what it was. -/
theorem last_line_counts_dashed :
    parse (ofLines repetitiveLines) = .ok repetitive ∧
    parse (ofLines (repetitiveLines.eraseIdx 1)) = .ok repetitive ∧
    parse (ofLines (repetitiveLines.eraseIdx 0)) = .ok { repetitive with salt := [] } ∧
    parse (ofLines (repetitiveLines.eraseIdx 2)) = .ok repetitive := by
  have read := Except.eq_ok_of_toOption parse_repetitive
  have lines : (ofLines repetitiveLines).toList.splitOn '\n' = repetitiveLines := by
    rw [ofLines, String.toList_ofList, List.splitOn_intercalate '\n' (by decide) (by decide)]
  have listed : ':' ∈ trim (ofLines repetitiveLines).toList := by
    rw [ofLines, String.toList_ofList]
    decide
  have counts {line value : List Char} (before later : List (List Char)) (key : Key)
      (split : repetitiveLines = before ++ line :: later) (states : statement? line = some (key, value))
      (last : ∀ other ∈ later, ¬ IsFor key other) :
      parse (ofLines (before.filter (¬ IsFor key ·) ++ line :: later)) =
        .ok (if key = .salt ∧ value = ['-'] then { repetitive with salt := [] } else repetitive) ∧
      (key = .salt → value = ['-'] → parse (ofLines (before ++ later)) = .ok repetitive) := by
    obtain ⟨rest, hasKey, rfl⟩ := statement?_eq_some_iff.1 states
    exact last_line_counts read (.inl listed) (lines.trans split) hasKey last
  have root := counts (repetitiveLines.take 3) [] .rootHash rfl rfl (by decide)
  have salt := counts (repetitiveLines.take 2) (repetitiveLines.drop 3) .salt rfl rfl (by decide)
  exact ⟨read, root.1, salt.1, salt.2 rfl rfl⟩

end DualSlot.Metadata
