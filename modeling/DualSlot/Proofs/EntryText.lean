import DualSlot.BootEntry
import DualSlot.Proofs.DigestText
import Mathlib.Data.List.Basic

/-! Boot entries and the loader's configuration are read back as they were written, if the templates
keep to their lines and do not name the fields that entries are read by. -/

namespace DualSlot

/-- Whatever is written as an entry is read back as it was. -/
def BootTemplates.Legible (templates : BootTemplates) : Prop :=
  ∀ entry, BootEntry.parse entry.slot (templates.renderEntry entry) = .ok entry

/-- The names that the options of an entry are read by. -/
def BootEntry.fieldNames : List String := ["slot", "verity_hash", "tries", "tries-left"]

/-- Templates that keep to their lines, with no field among the words of the root. -/
structure BootTemplates.Plain (templates : BootTemplates) : Prop where
  title : ∀ slot : Slot, '\n' ∉ (slot.expand templates.title).toList
  kernel : ∀ slot : Slot, '\n' ∉ (slot.expand templates.kernel).toList
  initrd : ∀ slot : Slot, '\n' ∉ (slot.expand templates.initrd).toList
  root : ∀ slot : Slot, '\n' ∉ (slot.expand templates.root).toList
  words : ∀ (slot : Slot), ∀ name ∈ BootEntry.fieldNames,
    ∀ word ∈ Text.words ("root=".toList ++ (slot.expand templates.root).toList),
      Text.after? (name.toList ++ ['=']) word = none

namespace Text

/-- Words before the first gap are read apart from what follows it. -/
theorem words_field {word : List Char} (given : word ≠ []) (solid : ∀ c ∈ word, isBlank c = false)
    (rest : List Char) : words (word ++ ' ' :: rest) = word :: words rest := by
  rw [words_append_cons (by decide), words_solid given solid, List.singleton_append]

end Text

namespace BootTemplates

variable (templates : BootTemplates) (entry : BootEntry)

def rootWords : List Char := "root=".toList ++ (entry.slot.expand templates.root).toList

/-- The fields that are read back, in the order in which they are written. -/
def fields : List Char :=
  "ro".toList ++ ' ' :: (("slot=".toList ++ entry.slot.name.toList) ++
    ' ' :: (("verity_hash=".toList ++ entry.rootHash.hex.toList) ++
    ' ' :: (("tries=".toList ++ Nat.toDigits 10 entry.tries.toNat) ++
    ' ' :: ("tries-left=".toList ++ Nat.toDigits 10 entry.triesLeft.toNat))))

def optionText : List Char := templates.rootWords entry ++ ' ' :: fields entry

/-- The lines of a written entry. What the operator's own options add comes last. -/
theorem toList_renderEntry :
    ∃ extra : List Char, (extra = [] ∨ ∃ more, extra = ' ' :: more) ∧
      (templates.renderEntry entry).toList =
        ("title ".toList ++ (entry.slot.expand templates.title).toList ++ " (".toList ++
          entry.slot.name.toList ++ ")".toList) ++ '\n' ::
        (("version ".toList ++ entry.rootHash.hex.toList.take 12) ++ '\n' ::
        (("linux ".toList ++ (entry.slot.expand templates.kernel).toList) ++ '\n' ::
        (("initrd ".toList ++ (entry.slot.expand templates.initrd).toList) ++ '\n' ::
        ("options ".toList ++ (templates.optionText entry ++ (extra ++ ['\n'])))))) := by
  by_cases none : (Text.trimmed (entry.slot.expand templates.options)).isEmpty
  · refine ⟨[], .inl rfl, ?_⟩
    simp [renderEntry, none, optionText, rootWords, fields, toString]
  · refine ⟨' ' :: (Text.trimmed (entry.slot.expand templates.options)).toList, .inr ⟨_, rfl⟩, ?_⟩
    simp [renderEntry, none, optionText, rootWords, fields, toString]

/-- The words of the fields stand right after those of the root. -/
theorem words_optionText {extra : List Char} (apart : extra = [] ∨ ∃ more, extra = ' ' :: more) :
    ∃ more, Text.words (templates.optionText entry ++ extra) =
      Text.words (templates.rootWords entry) ++ ("ro".toList ::
        ("slot=".toList ++ entry.slot.name.toList) ::
        ("verity_hash=".toList ++ entry.rootHash.hex.toList) ::
        ("tries=".toList ++ Nat.toDigits 10 entry.tries.toNat) ::
        ("tries-left=".toList ++ Nat.toDigits 10 entry.triesLeft.toNat) :: more) := by
  have slot : ∀ c ∈ "slot=".toList ++ entry.slot.name.toList, Text.isBlank c = false := by
    cases entry.slot <;> exact Text.solid_of_all (by decide)
  have field (name : String) (value : List Char) (named : ∀ c ∈ name.toList, Text.isBlank c = false)
      (given : ∀ c ∈ value, Text.isBlank c = false) :
      ∀ c ∈ name.toList ++ value, Text.isBlank c = false :=
    fun c inside => (List.mem_append.1 inside).elim (named c) (given c)
  have hash := field "verity_hash=" _ (Text.solid_of_all (by decide)) entry.rootHash.hex_solid
  have number (name : String) (value : Nat) (named : ∀ c ∈ name.toList, Text.isBlank c = false) :=
    field name _ named (Text.toDigits_solid value)
  have last : ∃ more, Text.words (("tries-left=".toList ++ Nat.toDigits 10 entry.triesLeft.toNat) ++
      extra) = ("tries-left=".toList ++ Nat.toDigits 10 entry.triesLeft.toNat) :: more := by
    obtain rfl | ⟨more, rfl⟩ := apart
    · refine ⟨[], ?_⟩
      rw [List.append_nil, Text.words_solid (by simp) (number _ _ (Text.solid_of_all (by decide)))]
    · exact ⟨Text.words more,
        Text.words_field (by simp) (number _ _ (Text.solid_of_all (by decide))) more⟩
  obtain ⟨more, last⟩ := last
  refine ⟨more, ?_⟩
  rw [optionText, fields, List.append_assoc, List.cons_append, Text.words_append_cons (by decide)]
  simp only [List.append_assoc, List.cons_append]
  simp only [← List.append_assoc "slot=".toList, ← List.append_assoc "verity_hash=".toList,
    ← List.append_assoc "tries=".toList, ← List.append_assoc "tries-left=".toList]
  rw [Text.words_field (by decide) (Text.solid_of_all (by decide)),
    Text.words_field (by simp) slot,
    Text.words_field (by simp) hash,
    Text.words_field (by simp) (number _ _ (Text.solid_of_all (by decide))), last]

variable {templates entry}

theorem after?_other {c : Char} (solid : Text.isBlank c = false) (other : c ≠ 'o') (rest : List Char) :
    Text.after? "options ".toList (Text.trim (Text.dropReturn (c :: rest))) = none := by
  obtain ⟨kept, blanks, -, trimmed, -⟩ := Text.exists_trim_dropReturn solid rest
  rw [trimmed]
  exact if_neg other.symm

theorem findSome?_other {c : Char} (solid : Text.isBlank c = false) (other : c ≠ 'o') (rest : List Char)
    (lines : List (List Char)) :
    (Text.dropReturn (c :: rest) :: lines).findSome?
        (fun line => Text.after? "options ".toList (Text.trim line)) =
      lines.findSome? fun line => Text.after? "options ".toList (Text.trim line) := by
  rw [List.findSome?_cons, after?_other solid other]

/-- The line of the options is read but for white space at its end. -/
theorem after?_options (rest : List Char) :
    ∃ kept blanks, (∀ c ∈ blanks, Text.isBlank c = true) ∧ rest = kept ++ blanks ∧
      Text.after? "options ".toList (Text.trim (Text.dropReturn ("options ".toList ++ 'r' :: rest))) =
        some ('r' :: kept) := by
  obtain ⟨kept, blanks, blank, trimmed, cut⟩ :=
    Text.exists_trim_dropReturn (c := 'o') (by decide) ("ptions r".toList ++ rest)
  obtain ⟨more, keptEq, restEq⟩ | ⟨more, nameEq, blanksEq⟩ := List.append_eq_append_iff.1 cut
  · refine ⟨more, blanks, blank, restEq, ?_⟩
    rw [Text.after?_eq_some_iff]
    exact trimmed.trans (congrArg (List.cons 'o') keptEq)
  · cases more with
    | nil =>
      refine ⟨[], blanks, blank, blanksEq.symm, ?_⟩
      rw [Text.after?_eq_some_iff]
      exact trimmed.trans (congrArg (List.cons 'o') ((List.append_nil _).symm.trans nameEq.symm))
    | cons c more =>
      have last : (c :: more).getLast? = some 'r' := by
        rw [← List.getLast?_append_cons kept, ← nameEq]
        rfl
      have impossible := blank 'r' (blanksEq ▸ List.mem_append_left rest (List.mem_of_getLast? last))
      cases impossible

theorem noFeed_of_solid {text : List Char} (solid : ∀ c ∈ text, Text.isBlank c = false) :
    '\n' ∉ text := by
  intro inside
  cases solid '\n' inside

theorem noFeed_optionText (plain : templates.Plain) : '\n' ∉ templates.optionText entry := by
  have root := plain.root entry.slot
  have slot : '\n' ∉ entry.slot.name.toList := by cases entry.slot <;> decide
  have hash := noFeed_of_solid entry.rootHash.hex_solid
  have tries := noFeed_of_solid (Text.toDigits_solid entry.tries.toNat)
  have triesLeft := noFeed_of_solid (Text.toDigits_solid entry.triesLeft.toNat)
  simp [optionText, rootWords, fields, root, slot, hash, tries, triesLeft]

/-- What follows the fields on their line, and the lines after it. -/
theorem exists_tail {extra : List Char} (apart : extra = [] ∨ ∃ more, extra = ' ' :: more) :
    ∃ tail rest, extra ++ ['\n'] = tail ++ '\n' :: rest ∧ '\n' ∉ tail ∧
      (tail = [] ∨ ∃ more, tail = ' ' :: more) := by
  have ends : '\n' ∈ extra ++ ['\n'] := by simp
  obtain ⟨tail, rest, cut, whole⟩ := List.eq_append_cons_of_mem ends
  refine ⟨tail, rest, cut, whole, ?_⟩
  cases tail with
  | nil => exact .inl rfl
  | cons c more =>
    obtain rfl | ⟨others, rfl⟩ := apart
    · obtain ⟨rfl, -⟩ := List.cons.inj cut
      exact absurd List.mem_cons_self whole
    · obtain ⟨rfl, -⟩ := List.cons.inj cut
      exact .inr ⟨more, rfl⟩

/-- The options of a written entry are found, and their first words are its fields. -/
theorem findSome?_options (entry : BootEntry) (plain : templates.Plain) :
    ∃ options more,
      (Text.lines (templates.renderEntry entry).toList).findSome?
        (fun line => Text.after? "options ".toList (Text.trim line)) = some options ∧
      Text.words options =
        Text.words (templates.rootWords entry) ++ ("ro".toList ::
          ("slot=".toList ++ entry.slot.name.toList) ::
          ("verity_hash=".toList ++ entry.rootHash.hex.toList) ::
          ("tries=".toList ++ Nat.toDigits 10 entry.tries.toNat) ::
          ("tries-left=".toList ++ Nat.toDigits 10 entry.triesLeft.toNat) :: more) := by
  obtain ⟨extra, apart, text⟩ := templates.toList_renderEntry entry
  obtain ⟨tail, others, cut, tailWhole, tailApart⟩ := exists_tail apart
  have slotWhole : '\n' ∉ entry.slot.name.toList := by cases entry.slot <;> decide
  have hashWhole : '\n' ∉ entry.rootHash.hex.toList.take 12 :=
    fun inside => noFeed_of_solid entry.rootHash.hex_solid (List.mem_of_mem_take inside)
  have optionsWhole : '\n' ∉ "options ".toList ++ (templates.optionText entry ++ tail) := by
    simp [noFeed_optionText plain, tailWhole]
  obtain ⟨kept, blanks, blank, keptEq, found⟩ := after?_options
    (("oot=".toList ++ (entry.slot.expand templates.root).toList ++ ' ' :: fields entry) ++ tail)
  have whole : templates.optionText entry ++ tail = 'r' :: (kept ++ blanks) :=
    congrArg (List.cons 'r') keptEq
  have optionsFound : Text.after? "options ".toList (Text.trim (Text.dropReturn
      ("options ".toList ++ (templates.optionText entry ++ tail)))) = some ('r' :: kept) := by
    rw [whole, ← keptEq]
    exact found
  obtain ⟨more, words⟩ := templates.words_optionText entry tailApart
  refine ⟨'r' :: kept, more, ?_, ?_⟩
  · rw [text, cut, ← List.append_assoc (templates.optionText entry), ← List.append_assoc "options ".toList,
      Text.lines_append_cons (by simp [plain.title entry.slot, slotWhole]),
      Text.lines_append_cons (by simp [hashWhole]),
      Text.lines_append_cons (by simp [plain.kernel entry.slot]),
      Text.lines_append_cons (by simp [plain.initrd entry.slot]),
      Text.lines_append_cons optionsWhole]
    refine (findSome?_other (c := 't') (by decide) (by decide) _ _).trans ?_
    refine (findSome?_other (c := 'v') (by decide) (by decide) _ _).trans ?_
    refine (findSome?_other (c := 'l') (by decide) (by decide) _ _).trans ?_
    refine (findSome?_other (c := 'i') (by decide) (by decide) _ _).trans ?_
    rw [List.findSome?_cons, optionsFound]
  · rw [← words, whole, ← List.cons_append, Text.words_append_blanks blank]

/-- Plain templates are legible: no field is found among the words of the root, and each is then found
where it was written. -/
theorem Plain.legible (plain : templates.Plain) : templates.Legible := by
  intro entry
  obtain ⟨options, more, found, words⟩ := findSome?_options entry plain
  have rootWords (name : String) (field : name ∈ BootEntry.fieldNames) :
      (Text.words (templates.rootWords entry)).findSome? (Text.after? (name.toList ++ ['='])) = none :=
    List.findSome?_eq_none_iff.2 (plain.words entry.slot name field)
  have slot : assigned? "slot" (Text.words options) = some entry.slot.name.toList := by
    rw [assigned?, words, List.findSome?_append, rootWords _ (by decide)]
    rfl
  have hash : assigned? "verity_hash" (Text.words options) = some entry.rootHash.hex.toList := by
    rw [assigned?, words, List.findSome?_append, rootWords _ (by decide)]
    rfl
  have tries : assigned? "tries" (Text.words options) = some (Nat.toDigits 10 entry.tries.toNat) := by
    rw [assigned?, words, List.findSome?_append, rootWords _ (by decide)]
    rfl
  have triesLeft : assigned? "tries-left" (Text.words options) =
      some (Nat.toDigits 10 entry.triesLeft.toNat) := by
    rw [assigned?, words, List.findSome?_append, rootWords _ (by decide)]
    rfl
  have named : Slot.parseChars? entry.slot.name.toList = some entry.slot := by
    cases entry.slot <;> decide
  unfold BootEntry.parse
  simp only [found, slot, hash, tries, triesLeft, named, Option.bind_some, Digest.parseChars_hex,
    Text.word32?_toDigits]
  rw [if_neg (not_not.2 rfl)]
  rfl

end BootTemplates

theorem Slot.toList_entryFile (slot : Slot) :
    slot.entryFile.toList = "twinboot-".toList ++ slot.lower.toList ++ ".conf".toList := by
  simp [entryFile, toString]

theorem Slot.entryFile_solid (slot : Slot) : ∀ c ∈ slot.entryFile.toList, Text.isBlank c = false := by
  rw [toList_entryFile]
  cases slot <;> exact Text.solid_of_all (by decide)

theorem Slot.entryFile_inj {first second : Slot} (same : first.entryFile = second.entryFile) :
    first = second := by
  have texts := congrArg String.toList same
  rw [toList_entryFile, toList_entryFile] at texts
  revert texts
  cases first <;> cases second <;> decide

theorem loaderDefault?_renderLoader (templates : BootTemplates) (slot : Slot) :
    loaderDefault? (templates.renderLoader slot.entryFile) = some slot.entryFile := by
  have text : (templates.renderLoader slot.entryFile).toList =
      "# Managed by twinboot-ctrl.".toList ++ '\n' :: (("default ".toList ++ slot.entryFile.toList) ++
        '\n' :: ("timeout ".toList ++ (Nat.toDigits 10 templates.timeout.toNat ++ ['\n']))) := by
    have first : "# Managed by twinboot-ctrl.\ndefault ".toList =
      "# Managed by twinboot-ctrl.".toList ++ '\n' :: "default ".toList := by decide
    have last : "\ntimeout ".toList = '\n' :: "timeout ".toList := by decide
    have number : "\n".toList = ['\n'] := by decide
    change ("# Managed by twinboot-ctrl.\ndefault " ++ slot.entryFile ++ "\ntimeout " ++
      Nat.repr templates.timeout.toNat ++ "\n").toList = _
    rw [String.toList_append, String.toList_append, String.toList_append, String.toList_append, first,
      last, number, Nat.toList_repr]
    simp only [List.append_assoc, List.cons_append]
  have whole : '\n' ∉ "default ".toList ++ slot.entryFile.toList := by
    rw [List.mem_append]
    exact fun inside => inside.elim (by decide) (BootTemplates.noFeed_of_solid slot.entryFile_solid)
  have shown : Text.cut Text.isBlank (Text.trim (Text.dropReturn
      ("default ".toList ++ slot.entryFile.toList))) =
        some ("default".toList, slot.entryFile.toList) := by
    rw [Slot.toList_entryFile]
    cases slot <;> decide
  have comment : Text.cut Text.isBlank (Text.trim (Text.dropReturn
      "# Managed by twinboot-ctrl.".toList)) = some (['#'], "Managed by twinboot-ctrl.".toList) := by
    decide
  rw [loaderDefault?, text, Text.lines_append_cons (by decide), Text.lines_append_cons whole,
    List.findSome?_cons, comment]
  dsimp only
  rw [if_neg (by decide), List.findSome?_cons, shown]
  dsimp only
  rw [if_pos rfl, Text.trim_eq_self slot.entryFile_solid, String.ofList_toList]

/-- The loader's configuration names the slot that it was written for. -/
theorem defaultSlot?_renderLoader (templates : BootTemplates) (slot : Slot) :
    defaultSlot? (templates.renderLoader slot.entryFile) = some slot := by
  rw [defaultSlot?, loaderDefault?_renderLoader, Option.bind_some]
  cases slot with
  | a => simp [Slot.all]
  | b =>
    have different : Slot.a.entryFile ≠ Slot.b.entryFile := fun same => by cases Slot.entryFile_inj same
    simp [Slot.all, different]

end DualSlot
