import DualSlot.Proofs.RecordText
import DualSlot.Proofs.TextPieces
import DualSlot.Store.Directory

/-! The history as a text with a line for each entry, and how the entries are read from it again. -/

namespace DualSlot

namespace Text

open Json

theorem begin?_ascii {c : Char} (ascii : c.toNat < 0x80) : begin? (byte c) = .error c := by
  have back : (byte c).toNat = c.toNat := toNat_byte (Nat.lt_trans ascii (by decide))
  have small : byte c < 0x80 := UInt8.lt_iff_toNat_lt.2 (by rwa [back])
  rw [begin?, if_pos small, back, Char.ofNat_toNat]

theorem foldl_step_ascii {text : List Char} (ascii : ∀ c ∈ text, c.toNat < 0x80) (read : List Char) :
    (Bytes.ofChars text).foldl Decoding.step ⟨read, none⟩ = ⟨text.reverse ++ read, none⟩ := by
  induction text generalizing read with
  | nil => rfl
  | cons c text ih =>
    have step : Decoding.step ⟨read, none⟩ (byte c) = ⟨c :: read, none⟩ := by
      simp only [Decoding.step, Decoding.start, begin?_ascii (ascii c List.mem_cons_self)]
    rw [Bytes.ofChars_cons, utf8EncodeChar_ascii (ascii c List.mem_cons_self), List.singleton_append, List.foldl_cons,
      step, ih fun other inside => ascii other (List.mem_cons_of_mem _ inside)]
    simp

/-- Text without other characters is decoded as it is. -/
theorem lossy_ascii {text : List Char} (ascii : ∀ c ∈ text, c.toNat < 0x80) : lossy (Bytes.ofChars text) = text := by
  rw [lossy, foldl_step_ascii ascii]
  simp

end Text

/-- Neither control characters nor any beyond ASCII. -/
abbrev Visible (text : List Char) : Prop := ∀ c ∈ text, 0x20 ≤ c.toNat ∧ c.toNat < 0x80

theorem visible_of_all {text : List Char} (all : text.all (fun c => 0x20 ≤ c.toNat && c.toNat < 0x80) = true) :
    Visible text := by
  simpa using all

theorem visible_toDigits (value : Nat) : Visible (Nat.toDigits 10 value) := by
  intro c inside
  have bounds := Text.toNat_of_mem_toDigits inside
  omega

namespace HistoryEntry

/-- What stands behind the time of an entry. -/
def lineEnd (outcome : Outcome) (slot : Slot) : String :=
  ",\"outcome\":\"" ++ outcome.name ++ "\",\"active_slot\":\"" ++ slot.name ++ "\"\x7d"

theorem quoted_outcome (outcome : Outcome) : Json.quoted outcome.name = "\"" ++ outcome.name ++ "\"" := by
  cases outcome <;> rfl

theorem quoted_slot (slot : Slot) : Json.quoted slot.name = "\"" ++ slot.name ++ "\"" := by
  cases slot <;> rfl

theorem toList_line (entry : HistoryEntry) :
    (JsonRecord.line entry).toList = "\x7b\"timestamp\":".toList ++
      (Nat.toDigits 10 entry.timestamp.toNat ++ (lineEnd entry.outcome entry.activeSlot).toList) := by
  have time : Json.quoted "timestamp" = "\"timestamp\"" := rfl
  have outcome : Json.quoted "outcome" = "\"outcome\"" := rfl
  have slot : Json.quoted "active_slot" = "\"active_slot\"" := rfl
  simp [JsonRecord.line, JsonRecord.json, Json.ofMembers, Json.compact, Json.compactMembers, Json.natural, Json.text,
    Outcome.json, Slot.json, time, outcome, slot, quoted_outcome, quoted_slot, lineEnd]

theorem visible_lineEnd (outcome : Outcome) (slot : Slot) : Visible (lineEnd outcome slot).toList := by
  cases outcome <;> cases slot <;> exact visible_of_all rfl

theorem visible_line (entry : HistoryEntry) : Visible (JsonRecord.line entry).toList := by
  rw [toList_line]
  intro c inside
  obtain beginning | later := List.mem_append.1 inside
  · exact visible_of_all rfl c beginning
  · exact (List.mem_append.1 later).elim (visible_toDigits _ c) (visible_lineEnd _ _ c)

theorem dropReturn_line (entry : HistoryEntry) :
    Text.dropReturn (JsonRecord.line entry).toList = (JsonRecord.line entry).toList := by
  refine if_neg fun ended => ?_
  exact absurd (visible_line entry _ (List.mem_of_mem_getLast? ended)).1 (by decide)

/-- The history as it is kept in a file. -/
def file (entries : List HistoryEntry) : Bytes :=
  entries.flatMap fun entry => Bytes.ofString (JsonRecord.line entry) ++ Bytes.ofString "\n"

theorem file_concat (entries : List HistoryEntry) (entry : HistoryEntry) :
    file (entries ++ [entry]) = file entries ++ Bytes.ofString (JsonRecord.line entry) ++ Bytes.ofString "\n" := by
  simp [file]

theorem eq_nil_of_file {entries : List HistoryEntry} (empty : file entries = []) : entries = [] := by
  cases entries with
  | nil => rfl
  | cons entry entries =>
    have ended : Bytes.ofString "\n" = [] :=
      (List.append_eq_nil_iff.1 (List.append_eq_nil_iff.1 empty).1).2
    rw [Bytes.ofString_eq] at ended
    exact absurd ended (by decide)

theorem file_eq (entries : List HistoryEntry) :
    file entries = Bytes.ofChars ((entries.map fun entry => (JsonRecord.line entry).toList).flatMap (· ++ ['\n'])) := by
  induction entries with
  | nil => rfl
  | cons entry entries ih =>
    rw [file, List.flatMap_cons, ← file, ih]
    simp [Bytes.ofString_eq]

/-- The lines of the file are those of the entries. -/
theorem lines_file (entries : List HistoryEntry) :
    Text.lines (Text.lossy (file entries)) = entries.map fun entry => (JsonRecord.line entry).toList := by
  rw [file_eq, Text.lossy_ascii, Text.lines_flatMap]
  · intro line inside
    obtain ⟨entry, -, rfl⟩ := List.mem_map.1 inside
    refine ⟨fun feed => ?_, dropReturn_line entry⟩
    exact absurd (visible_line entry _ feed).1 (by decide)
  · intro c inside
    obtain ⟨line, given, inside⟩ := List.mem_flatMap.1 inside
    obtain ⟨entry, -, rfl⟩ := List.mem_map.1 given
    obtain written | ended := List.mem_append.1 inside
    · exact (visible_line entry c written).2
    · obtain rfl := List.mem_singleton.1 ended
      decide

end HistoryEntry

namespace DirectoryStore

/-- A line that was written is read as its entry. -/
theorem readEntry_line (entry : HistoryEntry) : readEntry (JsonRecord.line entry).toList = pure (some entry) := by
  have given : (Text.trim (JsonRecord.line entry).toList).isEmpty = false := by
    obtain ⟨rest, shown⟩ : ∃ rest, (JsonRecord.line entry).toList = '\x7b' :: rest := by
      rw [HistoryEntry.toList_line]
      exact ⟨_, rfl⟩
    have same := HistoryEntry.dropReturn_line entry
    rw [shown] at same ⊢
    obtain ⟨kept, -, -, trimmed, -⟩ := Text.exists_trim_dropReturn (show Text.isBlank '\x7b' = false by decide) rest
    rw [← same, trimmed]
    rfl
  rw [readEntry, given, String.ofList_toList, JsonRecord.read?_line]
  rfl

theorem filterMapM_readEntry (entries : List HistoryEntry) :
    ((entries.map fun entry => (JsonRecord.line entry).toList).filterMapM fun line => readEntry line : StoreTask _) =
      pure entries := by
  induction entries with
  | nil => rfl
  | cons entry entries ih =>
    rw [List.map_cons, List.filterMapM_cons, ih, readEntry_line]
    rfl

end DirectoryStore

end DualSlot
