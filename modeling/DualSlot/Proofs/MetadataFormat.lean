import DualSlot.Proofs.MetadataText
import DualSlot.Proofs.Results

/-! The format of a description of a hash tree. Every text in the format is read as the metadata that it describes,
and a text that is read at all is a bare root hash, or gives a root hash and no key a value out of the format. -/

namespace DualSlot.Metadata

open Text

/-- The text is one for what the metadata have under the key. -/
def Shows (metadata : Metadata) : Key → List Char → Prop
  | .rootHash, text => lower text = metadata.rootHash.hex.toList
  | .salt, text => lower text = Hex.encode metadata.salt ∨ text = ['-'] ∧ metadata.salt = []
  | .dataBlockSize, text => ∃ size < UInt64.size, metadata.dataBlockSize = some size ∧ Denotes text size
  | .hashBlockSize, text => ∃ size < UInt64.size, metadata.hashBlockSize = some size ∧ Denotes text size
  | .dataBlocks, text => ∃ count < UInt64.size, metadata.dataBlocks = some count ∧ Denotes text count
  | .algorithm, text => lower text = "sha256".toList
  | .type, text => text = ['1']

/-- The keys that a description of the metadata cannot do without. -/
def Needs (metadata : Metadata) : Key → Prop
  | .rootHash => True
  | .salt => metadata.salt ≠ []
  | .dataBlockSize => metadata.dataBlockSize ≠ none
  | .hashBlockSize => metadata.hashBlockSize ≠ none
  | .dataBlocks => metadata.dataBlocks ≠ none
  | .algorithm | .type => False

/-- Lines that give values to keys, in this order, among lines that have no key with a meaning. -/
inductive Lists : List (List Char) → List (Key × List Char) → Prop
  | nil : Lists [] []
  | reader {line lines given} (foreign : ∀ key rest, ¬ HasKey line key rest) (others : Lists lines given) :
      Lists (line :: lines) given
  | gives {line lines given key value} (here : Gives line key value) (others : Lists lines given) :
      Lists (line :: lines) ((key, value) :: given)

/-- The text describes the metadata: its lines give a value to all keys that are needed, in any order, and only
values that the metadata have. The carriage return of a line that ends with one is white space. -/
structure Describes (text : String) (metadata : Metadata) (lines : List (List Char))
    (given : List (Key × List Char)) : Prop where
  text : text.toList = List.intercalate ['\n'] lines
  whole : ∀ line ∈ lines, '\n' ∉ line
  lists : Lists lines given
  shows : ∀ key value, (key, value) ∈ given → metadata.Shows key value
  needs : ∀ key, metadata.Needs key → ∃ value, (key, value) ∈ given

variable {metadata : Metadata} {key : Key} {value : List Char}

/-- No value is written with white space. -/
theorem Shows.solid (shows : metadata.Shows key value) : ∀ c ∈ value, isBlank c = false := by
  cases key with
  | rootHash => exact solid_of_lower shows metadata.rootHash.hex_solid
  | salt =>
    rcases shows with salt | ⟨rfl, -⟩
    · exact solid_of_lower salt Hex.encode_solid
    · exact solid_of_all (by decide)
  | dataBlockSize | hashBlockSize | dataBlocks =>
    obtain ⟨_, -, -, denotes⟩ := shows
    exact denotes.solid
  | algorithm => exact solid_of_lower shows (solid_of_all (by decide))
  | type => exact shows ▸ solid_of_all (by decide)

theorem Gives.statement?_eq {line : List Char} (gives : Gives line key value)
    (solid : ∀ c ∈ value, isBlank c = false) : statement? line = some (key, value) := by
  obtain ⟨rest, hasKey, padded⟩ := gives
  exact statement?_eq_some_iff.2 ⟨rest, hasKey, padded.trim_eq.trans (trim_eq_self solid)⟩

theorem statement?_eq_none {line : List Char} (foreign : ∀ key rest, ¬ HasKey line key rest) :
    statement? line = none := by
  cases stated : statement? line with
  | none => rfl
  | some statement =>
    obtain ⟨rest, hasKey, -⟩ := statement?_eq_some_iff.1 stated
    exact (foreign _ _ hasKey).elim

theorem Lists.filterMap_eq {lines : List (List Char)} {given : List (Key × List Char)} (lists : Lists lines given)
    (shows : ∀ key value, (key, value) ∈ given → metadata.Shows key value) :
    lines.filterMap statement? = given := by
  induction lists with
  | nil => rfl
  | reader foreign _ ih => rw [List.filterMap_cons_none (statement?_eq_none foreign), ih shows]
  | gives here _ ih =>
    rw [List.filterMap_cons_some (here.statement?_eq (shows _ _ List.mem_cons_self).solid),
      ih fun key value inside => shows key value (List.mem_cons_of_mem _ inside)]

theorem Describes.statements_eq {text : String} {lines : List (List Char)} {given : List (Key × List Char)}
    (describes : Describes text metadata lines given) : statements text.toList = given := by
  obtain ⟨value, inside⟩ := describes.needs .rootHash trivial
  have some : lines ≠ [] := by
    rintro rfl
    cases describes.lists
    cases inside
  rw [statements, describes.text, List.splitOn_intercalate '\n' describes.whole some]
  exact describes.lists.filterMap_eq describes.shows

/-! The metadata come together from the statements, whatever their order. -/

/-- What is known of the metadata from some of the keys. -/
def known (metadata : Metadata) (keys : List Key) : Fields where
  rootHash := if .rootHash ∈ keys then some metadata.rootHash else none
  salt := if .salt ∈ keys then metadata.salt else []
  dataBlockSize := if .dataBlockSize ∈ keys then metadata.dataBlockSize else none
  hashBlockSize := if .hashBlockSize ∈ keys then metadata.hashBlockSize else none
  dataBlocks := if .dataBlocks ∈ keys then metadata.dataBlocks else none

theorem Shows.take?_known (shows : metadata.Shows key value) (keys : List Key) :
    (metadata.known keys).take? (key, value) = some (metadata.known (key :: keys)) := by
  cases key with
  | rootHash =>
    have parsed : Digest.parseChars value = .ok metadata.rootHash := by
      rw [Digest.parseChars_eq_ok_iff, trim_eq_self shows.solid]
      exact shows
    simp [Fields.take?, parsed, known, Except.toOption]
  | salt =>
    rcases shows with written | ⟨rfl, none⟩
    · have decoded : Hex.decode? value = some metadata.salt := Hex.decode?_eq_some_iff.2 written
      have noDash : value ≠ ['-'] := by
        rintro rfl
        cases decoded
      simp [Fields.take?, noDash, decoded, known]
    · simp [Fields.take?, known, none]
  | dataBlockSize | hashBlockSize | dataBlocks =>
    obtain ⟨number, small, same, denotes⟩ := shows
    have read : number? UInt64.size value = some number := number?_eq_some_iff.2 ⟨denotes, small⟩
    simp [Fields.take?, read, known, same]
  | algorithm | type => simp [Fields.take?, show _ = _ from shows, known]

theorem foldlM_take?_known {given : List (Key × List Char)}
    (shows : ∀ key value, (key, value) ∈ given → metadata.Shows key value) (keys : List Key) :
    given.foldlM Fields.take? (metadata.known keys) =
      some (metadata.known ((given.map Prod.fst).reverse ++ keys)) := by
  induction given generalizing keys with
  | nil => rfl
  | cons statement given ih =>
    rw [List.foldlM_cons, (shows _ _ List.mem_cons_self).take?_known]
    change given.foldlM Fields.take? _ = _
    rw [ih fun key value inside => shows key value (List.mem_cons_of_mem _ inside)]
    simp

/-- A value that is taken is one that some metadata have. -/
theorem exists_shows_of_take? {fields after : Fields} (taken : fields.take? (key, trim value) = some after) :
    ∃ shown : Metadata, shown.Shows key (trim value) := by
  have plain := ofRootHash Digest.zero
  have trimmed : trim (trim value) = trim value := (padded_trim value).trim_eq.symm
  cases key with
  | rootHash =>
    cases parsed : Digest.parseChars (trim value) with
    | error cause => simp [Fields.take?, parsed, Except.toOption] at taken
    | ok digest =>
      refine ⟨ofRootHash digest, ?_⟩
      rw [Digest.parseChars_eq_ok_iff, trimmed] at parsed
      exact parsed
  | salt =>
    by_cases dash : trim value = ['-']
    · exact ⟨ofRootHash Digest.zero, .inr ⟨dash, rfl⟩⟩
    · cases decoded : Hex.decode? (trim value) with
      | none => simp [Fields.take?, dash, decoded] at taken
      | some salt => exact ⟨{ plain with salt }, .inl (Hex.decode?_eq_some_iff.1 decoded)⟩
  | dataBlockSize =>
    obtain ⟨size, read, -⟩ := Option.map_eq_some_iff.1 taken
    obtain ⟨denotes, small⟩ := number?_eq_some_iff.1 read
    exact ⟨{ plain with dataBlockSize := some size }, size, small, rfl, denotes⟩
  | hashBlockSize =>
    obtain ⟨size, read, -⟩ := Option.map_eq_some_iff.1 taken
    obtain ⟨denotes, small⟩ := number?_eq_some_iff.1 read
    exact ⟨{ plain with hashBlockSize := some size }, size, small, rfl, denotes⟩
  | dataBlocks =>
    obtain ⟨count, read, -⟩ := Option.map_eq_some_iff.1 taken
    obtain ⟨denotes, small⟩ := number?_eq_some_iff.1 read
    exact ⟨{ plain with dataBlocks := some count }, count, small, rfl, denotes⟩
  | algorithm =>
    by_cases same : lower (trim value) = "sha256".toList
    · exact ⟨plain, same⟩
    · rw [Fields.take?, if_neg same] at taken
      cases taken
  | type =>
    by_cases same : trim value = ['1']
    · exact ⟨plain, same⟩
    · rw [Fields.take?, if_neg same] at taken
      cases taken

/-! What is read of a whole text. -/

theorem statements_eq_nil {text : List Char} (plain : ':' ∉ text) : statements text = [] := by
  refine List.filterMap_eq_nil_iff.2 fun line inside => statement?_eq_none ?_
  rintro key rest ⟨label, _, rfl, -⟩
  exact plain (subset_of_mem_splitOnP inside (List.mem_append_right _ List.mem_cons_self))

/-- A text that is not a bare root hash is read through its statements. -/
theorem toOption_parse {text : String} (listed : ¬ (':' ∉ trim text.toList ∧ '\n' ∉ trim text.toList)) :
    (parse text).toOption =
      ((statements text.toList).foldlM Fields.take? Fields.blank).bind fun fields => fields.metadata.toOption := by
  rw [← statements_trim, ← statements_lines, ← toOption_foldlM_readLine, parse, if_neg listed]
  cases (lines (trim text.toList)).foldlM Fields.readLine Fields.blank <;> rfl

theorem known_nil (metadata : Metadata) : metadata.known [] = Fields.blank := by simp [known, Fields.blank]

/-- Keys that nothing is needed of can be left out. -/
theorem metadata_known {keys : List Key} (needs : ∀ key, metadata.Needs key → key ∈ keys) :
    (metadata.known keys).metadata = .ok metadata := by
  have orElse {α : Type} (key : Key) (value blank : α) (need : value ≠ blank → metadata.Needs key) :
      (if key ∈ keys then value else blank) = value := by
    split
    next => rfl
    next absent => exact (not_imp_comm.1 (fun given => needs key (need given)) absent).symm
  have rootHash := needs .rootHash trivial
  simp only [known, Fields.metadata, if_pos rootHash]
  rw [orElse .salt _ _ id, orElse .dataBlockSize _ _ id, orElse .hashBlockSize _ _ id, orElse .dataBlocks _ _ id]

theorem Describes.parse_eq {text : String} {lines : List (List Char)} {given : List (Key × List Char)}
    (describes : Describes text metadata lines given) : parse text = .ok metadata := by
  obtain ⟨value, inside⟩ := describes.needs .rootHash trivial
  have listed : ':' ∈ trim text.toList := by
    by_contra plain
    rw [← describes.statements_eq, ← statements_trim, statements_eq_nil plain] at inside
    cases inside
  apply Except.eq_ok_of_toOption
  rw [toOption_parse fun bare => bare.1 listed, describes.statements_eq, ← known_nil metadata,
    foldlM_take?_known describes.shows, Option.bind_some, List.append_nil, metadata_known]
  · rfl
  · intro key need
    obtain ⟨value, inside⟩ := describes.needs key need
    exact List.mem_reverse.2 (List.mem_map_of_mem (f := Prod.fst) inside)

/-- Every statement of a text that is read was taken. -/
theorem exists_take?_of_foldlM {given : List (Key × List Char)} {fields after : Fields}
    (read : given.foldlM Fields.take? fields = some after) {statement : Key × List Char} (inside : statement ∈ given) :
    ∃ before next : Fields, before.take? statement = some next := by
  induction given generalizing fields with
  | nil => cases inside
  | cons first given ih =>
    rw [List.foldlM_cons] at read
    obtain ⟨next, taken, later⟩ := Option.bind_eq_some_iff.1 read
    rcases List.mem_cons.1 inside with rfl | inside
    · exact ⟨fields, next, taken⟩
    · exact ih later inside

theorem Fields.rootHash_of_take? {fields after : Fields} (other : key ≠ .rootHash)
    (taken : fields.take? (key, value) = some after) : after.rootHash = fields.rootHash := by
  cases key with
  | rootHash => exact (other rfl).elim
  | salt =>
    rw [take?] at taken
    split at taken
    next => exact congrArg rootHash (Option.some_inj.1 taken).symm
    next =>
      obtain ⟨salt, -, rfl⟩ := Option.map_eq_some_iff.1 taken
      rfl
  | dataBlockSize | hashBlockSize | dataBlocks =>
    obtain ⟨number, -, rfl⟩ := Option.map_eq_some_iff.1 taken
    rfl
  | algorithm | type =>
    rw [take?] at taken
    split at taken
    next => exact congrArg rootHash (Option.some_inj.1 taken).symm
    next => cases taken

theorem Fields.rootHash_of_foldlM {given : List (Key × List Char)} {fields after : Fields}
    (other : ∀ value, (Key.rootHash, value) ∉ given) (read : given.foldlM take? fields = some after) :
    after.rootHash = fields.rootHash := by
  induction given generalizing fields with
  | nil => exact congrArg rootHash (Option.some_inj.1 read).symm
  | cons first given ih =>
    rw [List.foldlM_cons] at read
    obtain ⟨next, taken, later⟩ := Option.bind_eq_some_iff.1 read
    have notRoot : first.1 ≠ .rootHash := by
      rintro same
      exact other first.2 (same ▸ List.mem_cons_self)
    rw [ih (fun value inside => other value (List.mem_cons_of_mem _ inside)) later,
      rootHash_of_take? notRoot taken]

/-- What a text that is read has in its lines. -/
theorem exists_statement_of_parse {text : String} (read : parse text = .ok metadata)
    (listed : ¬ (':' ∉ trim text.toList ∧ '\n' ∉ trim text.toList)) :
    (∃ value, (Key.rootHash, value) ∈ statements text.toList) ∧
      ∀ statement ∈ statements text.toList, ∃ before next : Fields, before.take? statement = some next := by
  have found := toOption_parse listed
  rw [read] at found
  obtain ⟨fields, taken, made⟩ := Option.bind_eq_some_iff.1 found.symm
  refine ⟨?_, fun statement inside => exists_take?_of_foldlM taken inside⟩
  by_contra none
  have blank := Fields.rootHash_of_foldlM (not_exists.1 none) taken
  rw [Fields.metadata, blank] at made
  cases made

/-- Every text in the format is read as what it describes. A text that is read is a bare root hash, or it has a line
with the root hash, and no line of it gives a value out of the format to a key. -/
theorem parse_follows_format :
    (∀ text metadata lines given, Describes text metadata lines given → parse text = .ok metadata) ∧
      ∀ text metadata, parse text = .ok metadata →
        (lower (trim text.toList) = metadata.rootHash.hex.toList ∧ metadata = ofRootHash metadata.rootHash) ∨
          (∃ line ∈ text.toList.splitOn '\n', ∃ rest, HasKey line .rootHash rest) ∧
            ∀ line ∈ text.toList.splitOn '\n', ∀ key rest, HasKey line key rest →
              ∃ value, Padded rest value ∧ ∃ shown : Metadata, shown.Shows key value := by
  refine ⟨fun text metadata lines given describes => describes.parse_eq, fun text metadata read => ?_⟩
  by_cases bare : ':' ∉ trim text.toList ∧ '\n' ∉ trim text.toList
  · left
    rw [parse, if_pos bare] at read
    cases parsed : Digest.parseChars (trim text.toList) with
    | error cause =>
      rw [parsed] at read
      cases read
    | ok digest =>
      rw [parsed] at read
      cases read
      rw [Digest.parseChars_eq_ok_iff, ← (padded_trim text.toList).trim_eq] at parsed
      exact ⟨parsed, rfl⟩
  · right
    obtain ⟨⟨value, root⟩, taken⟩ := exists_statement_of_parse read bare
    constructor
    · obtain ⟨line, inside, stated⟩ := List.mem_filterMap.1 root
      obtain ⟨rest, hasKey, -⟩ := statement?_eq_some_iff.1 stated
      exact ⟨line, inside, rest, hasKey⟩
    · intro line inside key rest hasKey
      have stated : (key, trim rest) ∈ statements text.toList :=
        List.mem_filterMap.2 ⟨line, inside, statement?_eq_some_iff.2 ⟨rest, hasKey, rfl⟩⟩
      obtain ⟨before, next, took⟩ := taken _ stated
      exact ⟨trim rest, padded_trim rest, exists_shows_of_take? took⟩

/-- Lines that end in either way, with a title, keys in odd letters and order, and a number with a sign and zeros. -/
def sampleLines : List (List Char) :=
  ["VERITY header information\r", "Data Blocks:\t +007 \r", "UUID: none", " rOOT hASH : " ++ "fFfFfFfF" ++
    "FFFFFFFFFFFFFFFFFFFFFFFFFFFFFFFFFFFFFFFFFFFFFFFFFFFFFFFF\r", "SALT:-", "hash algorithm: SHA256\r", ""].map
    String.toList

def sampleGiven : List (Key × List Char) :=
  [(.dataBlocks, "+007".toList),
    (.rootHash, "fFfFfFfFFFFFFFFFFFFFFFFFFFFFFFFFFFFFFFFFFFFFFFFFFFFFFFFFFFFFFFFF".toList), (.salt, ['-']),
    (.algorithm, "SHA256".toList)]

def sample : Metadata := { ofRootHash ⟨List.replicate 32 255, rfl⟩ with dataBlocks := some 7 }

theorem lists_of_statement? {lines : List (List Char)} : Lists lines (lines.filterMap statement?) := by
  induction lines with
  | nil => exact .nil
  | cons line lines ih =>
    cases stated : statement? line with
    | none =>
      rw [List.filterMap_cons_none stated]
      refine .reader (fun key rest hasKey => ?_) ih
      rw [statement?_eq_some_iff.2 ⟨rest, hasKey, rfl⟩] at stated
      cases stated
    | some statement =>
      rw [List.filterMap_cons_some stated]
      obtain ⟨rest, hasKey, padded⟩ := statement?_eq_some_iff.1 stated
      exact .gives ⟨rest, hasKey, padded ▸ padded_trim rest⟩ ih

theorem describes_sample :
    Describes (.ofList (List.intercalate ['\n'] sampleLines)) sample sampleLines sampleGiven where
  text := String.toList_ofList
  whole := by decide
  lists := by
    have stated : sampleLines.filterMap statement? = sampleGiven := by decide
    exact stated ▸ lists_of_statement?
  shows := by
    have plain : "007".toList.all Char.isDigit = true := by decide +kernel
    have digits : Denotes "+007".toList 7 :=
      ⟨"007".toList, .inr rfl, by decide, List.all_eq_true.1 plain, by decide +kernel⟩
    simp only [sampleGiven, List.mem_cons, List.not_mem_nil, or_false, Prod.mk.injEq]
    rintro _ _ (⟨rfl, rfl⟩ | ⟨rfl, rfl⟩ | ⟨rfl, rfl⟩ | ⟨rfl, rfl⟩)
    · exact ⟨7, by decide, rfl, digits⟩
    · exact show lower _ = _ by decide
    · exact .inr ⟨rfl, rfl⟩
    · exact show lower _ = _ by decide
  needs := by
    rintro key need
    cases key with
    | rootHash => exact ⟨_, .tail _ (.head _)⟩
    | dataBlocks => exact ⟨_, .head _⟩
    | salt => exact (need rfl).elim
    | dataBlockSize | hashBlockSize => exact (need rfl).elim
    | algorithm | type => exact need.elim

theorem parse_follows_format_sample :
    parse (.ofList (List.intercalate ['\n'] sampleLines)) = .ok sample ∧
      ∀ line ∈ (List.intercalate ['\n'] sampleLines).splitOn '\n', ∀ key rest, HasKey line key rest →
        ∃ value, Padded rest value ∧ ∃ shown : Metadata, shown.Shows key value := by
  have read := parse_follows_format.1 _ _ _ _ describes_sample
  refine ⟨read, ?_⟩
  rcases parse_follows_format.2 _ _ read with ⟨bare, -⟩ | ⟨-, valued⟩
  · exact absurd bare (by decide +kernel)
  · rwa [String.toList_ofList] at valued

end DualSlot.Metadata
