import DualSlot.Proofs.LastLine
import DualSlot.Proofs.StoreAgreement

/-! What a history holds after an entry was added to whatever its file held before. The entry is written behind
the last line, also behind one that has not ended, and is lost with it unless that line is nothing but space. -/

namespace DualSlot

open Json Simulation

namespace HistoryEntry

/-- The entry on a line, if it holds one. -/
def ofLine? (line : List Char) : Option HistoryEntry :=
  if (Text.trim line).isEmpty then none else JsonRecord.read? (Bytes.ofString (.ofList line))

/-- The entries in a text, in the order of their lines. -/
def listed (text : List Char) : List HistoryEntry := (Text.lines text).filterMap ofLine?

/-- Text that may stand in front of a value. -/
def Spaced (text : List Char) : Prop := ∀ b ∈ Bytes.ofChars text, isSpace b = true

instance (text : List Char) : Decidable (Spaced text) := inferInstanceAs (Decidable (∀ b ∈ _, _))

theorem listed_ended_append (text rest : List Char) :
    listed (Text.ended text ++ rest) = listed (Text.ended text) ++ listed rest := by
  rw [listed, Text.lines_ended_append, List.filterMap_append, listed, listed]

theorem listed_parts (text : List Char) :
    listed text = listed (Text.ended text) ++ listed (Text.unended text) := by
  rw [← listed_ended_append, Text.ended_append_unended]

theorem closes_digit {c : Char} {value : Nat} (inside : c ∈ Nat.toDigits 10 value) : closes (byte c) = false := by
  have bounds := Text.toNat_of_mem_toDigits inside
  have other {d : Char} (high : 0x39 < d.toNat) (small : d.toNat < 256) : byte c ≠ byte d := fun same => by
    rw [(byte_inj (by omega) small).1 same] at bounds
    omega
  simp [closes, other (d := ']') (by decide) (by decide), other (d := '\x7d') (by decide) (by decide)]

theorem ofString_line (entry : HistoryEntry) :
    Bytes.ofString (JsonRecord.line entry) = (JsonRecord.line entry).toList.map byte := by
  rw [Bytes.ofString_eq, Bytes.ofChars_ascii fun c inside => (visible_line entry c inside).2]

theorem getLast?_line (entry : HistoryEntry) : (JsonRecord.line entry).toList.getLast? = some '\x7d' := by
  have ending : (lineEnd entry.outcome entry.activeSlot).toList.getLast? = some '\x7d' := by
    cases entry.outcome <;> cases entry.activeSlot <;> rfl
  have given : (lineEnd entry.outcome entry.activeSlot).toList ≠ [] := fun none => by
    rw [none] at ending
    cases ending
  rw [toList_line, ← List.append_assoc, List.getLast?_append_of_ne_nil _ given, ending]

theorem closers_line (entry : HistoryEntry) : closers ((JsonRecord.line entry).toList.map byte) = 1 := by
  have digits : ((Nat.toDigits 10 entry.timestamp.toNat).map byte).countP closes = 0 := by
    rw [List.countP_eq_zero]
    intro b inside
    obtain ⟨c, digit, rfl⟩ := List.mem_map.1 inside
    simp [closes_digit digit]
  have ending : ((lineEnd entry.outcome entry.activeSlot).toList.map byte).countP closes = 1 := by
    cases entry.outcome <;> cases entry.activeSlot <;> rfl
  calc closers ((JsonRecord.line entry).toList.map byte)
      = ("\x7b\"timestamp\":".toList.map byte).countP closes + (0 + 1) := by
        rw [toList_line, closers, List.map_append, List.map_append, List.countP_append, List.countP_append, digits,
          ending]
    _ = 1 := rfl

theorem exists_keyed (entry : HistoryEntry) : ∃ more,
    Bytes.ofString (JsonRecord.line entry) = keyed (byte 't') more ∧ closers (keyed (byte 't') more) = 1 := by
  have text := ofString_line entry
  have single := closers_line entry
  rw [toList_line, List.map_append] at text single
  exact ⟨_, text, single⟩

/-- What a line comes to when an entry is written behind what it holds. -/
theorem ofLine?_joined (front : List Char) (entry : HistoryEntry) :
    ofLine? (front ++ (JsonRecord.line entry).toList) = if Spaced front then some entry else none := by
  obtain ⟨more, shown, single⟩ := exists_keyed entry
  have given : (Text.trim (front ++ (JsonRecord.line entry).toList)).isEmpty = false := by
    rw [Bool.eq_false_iff]
    intro empty
    have blank := Text.blank_of_trim empty '\x7b' (by simp [toList_line])
    cases blank
  have bytes : Bytes.ofString (.ofList (front ++ (JsonRecord.line entry).toList)) =
      Bytes.ofChars front ++ Bytes.ofString (JsonRecord.line entry) := by
    rw [Bytes.ofString_eq, Bytes.ofString_eq, String.toList_ofList, Bytes.ofChars_append]
  rw [ofLine?, given, if_neg (by decide), bytes]
  split
  · next spaced => exact JsonRecord.read?_spaced spaced entry
  · next solid =>
    have foreign : Foreign (byte 't') := by decide
    rw [JsonRecord.read?, shown, parse?_before_object foreign single.le solid, Option.bind_none]

theorem listed_spaced {line : List Char} (whole : '\n' ∉ line) (spaced : Spaced line) : listed line = [] := by
  by_cases empty : line = []
  · rw [empty]
    rfl
  have unread : parse? (Bytes.ofChars line) = none := by
    have nothing : skipSpace (Bytes.ofChars line) = [] := List.dropWhile_eq_nil_iff.2 spaced
    rw [parse?, start?, nothing]
    rfl
  have none : ofLine? line = none := by
    rw [ofLine?, Bytes.ofString_eq, String.toList_ofList, JsonRecord.read?, unread, Option.bind_none, ite_self]
  rw [listed, Text.lines_unbroken empty whole, List.filterMap_cons_none none, List.filterMap_nil]

theorem lossy_line (contents : Bytes) (entry : HistoryEntry) :
    Text.lossy (contents ++ Bytes.ofString (JsonRecord.line entry) ++ Bytes.ofString "\n") =
      Text.lossy contents ++ (JsonRecord.line entry).toList ++ ['\n'] := by
  have feed : Bytes.ofString "\n" = Bytes.ofChars ['\n'] := Bytes.ofString_eq "\n"
  have ascii : ∀ c ∈ ['\n'], c.toNat < 0x80 := fun c inside => by
    obtain rfl := List.mem_singleton.1 inside
    decide
  rw [feed, Bytes.ofString_eq, Text.lossy_append_ascii _ ascii,
    Text.lossy_append_ascii _ fun c inside => (visible_line entry c inside).2]

theorem listed_joined (text : List Char) (entry : HistoryEntry) :
    listed (text ++ (JsonRecord.line entry).toList ++ ['\n']) =
      if Spaced (Text.unended text) then listed text ++ [entry] else listed (Text.ended text) := by
  have whole : '\n' ∉ (JsonRecord.line entry).toList := fun inside => absurd (visible_line entry _ inside).1 (by decide)
  have given : (JsonRecord.line entry).toList ≠ [] := by simp [toList_line]
  have kept : Text.dropReturn (Text.unended text ++ (JsonRecord.line entry).toList) =
      Text.unended text ++ (JsonRecord.line entry).toList := by
    rw [Text.dropReturn, List.getLast?_append_of_ne_nil _ given, getLast?_line, if_neg (by decide)]
  rw [listed, Text.lines_joined text whole, kept, List.filterMap_append, ← listed]
  split
  · next spaced =>
    have joined := (ofLine?_joined (Text.unended text) entry).trans (if_pos spaced)
    rw [listed_parts text, listed_spaced (Text.feed_not_mem_unended text) spaced, List.append_nil,
      List.filterMap_cons_some joined, List.filterMap_nil]
  · next solid =>
    have joined := (ofLine?_joined (Text.unended text) entry).trans (if_neg solid)
    rw [List.filterMap_cons_none joined, List.filterMap_nil, List.append_nil]

theorem ofLine?_line (entry : HistoryEntry) : ofLine? (JsonRecord.line entry).toList = some entry := by
  have joined := ofLine?_joined [] entry
  have spaced : Spaced [] := List.forall_mem_nil _
  rwa [List.nil_append, if_pos spaced] at joined

theorem listed_file (entries : List HistoryEntry) : listed (Text.lossy (file entries)) = entries := by
  unfold listed
  rw [lines_file]
  induction entries with
  | nil => rfl
  | cons entry entries ih => rw [List.map_cons, List.filterMap_cons_some (ofLine?_line entry), ih]

theorem lossy_file (entries : List HistoryEntry) (entry : HistoryEntry) :
    Text.lossy (file (entries ++ [entry])) = Text.lossy (file entries) ++ (JsonRecord.line entry).toList ++ ['\n'] := by
  rw [file_concat, lossy_line]

theorem ended_file (entries : List HistoryEntry) :
    Text.ended (Text.lossy (file entries)) = Text.lossy (file entries) := by
  induction entries using List.reverseRecOn with
  | nil => rfl
  | append_singleton entries entry _ =>
    rw [lossy_file, Text.ended, List.rdropWhile_concat_neg _ _ _ (by decide)]

theorem exists_brace {last : HistoryEntry} {part : List Char} (cut : part <+: (JsonRecord.line last).toList)
    (given : part ≠ []) : ∃ rest, part = '\x7b' :: rest := by
  obtain ⟨c, rest, rfl⟩ := List.exists_cons_of_ne_nil given
  obtain ⟨more, text⟩ := cut
  rw [toList_line] at text
  obtain ⟨rfl, -⟩ := List.cons.inj text
  exact ⟨rest, rfl⟩

theorem ofLine?_cut {last : HistoryEntry} {part : List Char} (cut : part <+: (JsonRecord.line last).toList)
    (short : part ≠ (JsonRecord.line last).toList) : ofLine? part = none := by
  by_cases given : part = []
  · rw [given]
    rfl
  obtain ⟨rest, rfl⟩ := exists_brace cut given
  obtain ⟨more, text⟩ := cut
  have missing : more ≠ [] := by
    rintro rfl
    exact short (by rw [← text, List.append_nil])
  have brace : '\x7d' ∈ more := by
    apply List.mem_of_mem_getLast?
    rw [Option.mem_def, ← List.getLast?_append_of_ne_nil _ missing, text, getLast?_line]
  have ascii : ∀ c ∈ '\x7b' :: rest, c.toNat < 0x80 := fun c inside =>
    (visible_line last c (text ▸ List.mem_append_left _ inside)).2
  have bytes : Bytes.ofString (.ofList ('\x7b' :: rest)) = byte '\x7b' :: rest.map byte := by
    rw [Bytes.ofString_eq, String.toList_ofList, Bytes.ofChars_ascii ascii, List.map_cons]
  -- The one brace that closes anything is in the part that is missing.
  have none : closers (rest.map byte) = 0 := by
    have single := closers_line last
    have later : 0 < closers (more.map byte) := List.countP_pos_iff.2 ⟨_, List.mem_map_of_mem brace, by decide⟩
    rw [← text, closers, List.map_append, List.map_cons, List.countP_append,
      List.countP_cons_of_neg (by decide), ← closers, ← closers] at single
    omega
  rw [ofLine?, bytes, JsonRecord.read?, parse?_unclosed none, Option.bind_none, ite_self]

/-- An addition that ended before its line feed: the entry is there if its line is whole, and whatever is there
of the line, the next entry is lost and takes it along. -/
theorem listed_cut (entries : List HistoryEntry) (last entry : HistoryEntry) {part : List Char}
    (cut : part <+: (JsonRecord.line last).toList) (given : part ≠ []) :
    listed (Text.lossy (file entries ++ Bytes.ofChars part)) =
        entries ++ (if part = (JsonRecord.line last).toList then [last] else []) ∧
      listed (Text.lossy (file entries ++ Bytes.ofChars part ++ Bytes.ofString (JsonRecord.line entry) ++
        Bytes.ofString "\n")) = entries := by
  have visible : Visible part := fun c inside => visible_line last c (cut.subset inside)
  have whole : '\n' ∉ part := fun inside => absurd (visible '\n' inside).1 (by decide)
  have text : Text.lossy (file entries ++ Bytes.ofChars part) = Text.lossy (file entries) ++ part :=
    Text.lossy_append_ascii _ fun c inside => (visible c inside).2
  have ended : Text.ended (Text.lossy (file entries ++ Bytes.ofChars part)) = Text.lossy (file entries) := by
    rw [text, Text.ended_append whole, ended_file]
  have unended : Text.unended (Text.lossy (file entries ++ Bytes.ofChars part)) = part := by
    rw [text, Text.unended_append whole (ended_file entries)]
  constructor
  · rw [listed_parts, ended, unended, listed_file]
    congr 1
    have same := Text.lines_unbroken given whole
    by_cases all : part = (JsonRecord.line last).toList
    · rw [listed, same, List.filterMap_cons_some (all ▸ ofLine?_line last), List.filterMap_nil, if_pos all]
    · rw [listed, same, List.filterMap_cons_none (ofLine?_cut cut all), List.filterMap_nil, if_neg all]
  · have solid : ¬ Spaced part := by
      obtain ⟨rest, rfl⟩ := exists_brace cut given
      exact fun spaced => absurd (spaced (byte '\x7b') List.mem_cons_self) (by decide)
    rw [lossy_line, listed_joined, unended, if_neg solid, ended, listed_file]

end HistoryEntry

namespace Simulation.World

variable {world after : World}

theorem run_readEntry (world : World) (line : List Char) :
    ∃ notices, world.run (DirectoryStore.readEntry line) = (HistoryEntry.ofLine? line, { world with notices }) := by
  unfold DirectoryStore.readEntry HistoryEntry.ofLine?
  split
  · exact ⟨_, rfl⟩
  · cases JsonRecord.read? (α := HistoryEntry) (Bytes.ofString (.ofList line)) with
    | some entry => exact ⟨_, rfl⟩
    | none =>
      change ∃ notices, (none, if world.filter.admits .records .warn then world.print .notices _ else world) = _
      split
      · exact ⟨_, rfl⟩
      · exact ⟨world.notices, rfl⟩

theorem run_readLines (world : World) (lines : List (List Char)) :
    ∃ notices, world.run ((lines.filterMapM fun line => DirectoryStore.readEntry line : DirectoryStore.StoreTask _)).run =
      (.ok (lines.filterMap HistoryEntry.ofLine?), { world with notices }) := by
  induction lines generalizing world with
  | nil => exact ⟨_, rfl⟩
  | cons line lines ih =>
    obtain ⟨noted, reads⟩ := run_readEntry world line
    obtain ⟨notices, rest⟩ := ih { world with notices := noted }
    refine ⟨notices, ?_⟩
    rw [List.filterMapM_cons, run_lift_bind, reads]
    cases found : HistoryEntry.ofLine? line with
    | none =>
      rw [List.filterMap_cons_none found]
      exact rest
    | some entry =>
      rw [List.filterMap_cons_some found]
      exact run_bind_ok rest

/-- Whatever a file holds, its entries are read, and nothing but notices comes of it. -/
theorem run_readHistory_listed {store : DirectoryStore} {contents? : Option Bytes}
    (reads : world.run (Durable.read? store.historyFile).run = (.ok contents?, after)) :
    ∃ later, world.run store.readHistory.run =
        (.ok (HistoryEntry.listed (Text.lossy (contents?.getD []))), later) ∧
      later.tree = after.tree ∧ after.Keeps later := by
  unfold DirectoryStore.readHistory
  rw [run_bind_ok (run_adapt_ok reads _)]
  cases contents? with
  | none => exact ⟨after, rfl, rfl, .refl after⟩
  | some contents =>
    obtain ⟨notices, lines⟩ := run_readLines after (Text.lines (Text.lossy contents))
    exact ⟨_, lines, rfl, rfl, rfl, Nat.le_refl _, Nat.le_refl _⟩

end Simulation.World

namespace DirectoryStore

open HistoryEntry

variable {stateDir : Path} {base : Location} {files : NamedFiles} {world : World}

theorem serve_readHistory (drawer : Drawer stateDir base "twinboot" world.workingDir files world.tree)
    (roomy : Roomy stateDir) (guarded : world.Guarded) :
    ∃ after, (within stateDir).serve .readHistory world =
        (.ok (listed (Text.lossy (((files "history.jsonl").map Prod.snd).getD []))), after) ∧
      Drawer stateDir base "twinboot" after.workingDir files after.tree ∧ after.Guarded := by
  obtain ⟨opened, reads, tree, kept⟩ := drawer.run_read? guarded roomy.fits_label
    (roomy.fits (show "history.jsonl" ∈ _ by decide))
  obtain ⟨after, lists, same, keeps⟩ := World.run_readHistory_listed reads
  refine ⟨after, lists, ?_, (kept.trans keeps).guarded guarded⟩
  rw [same, tree, (kept.trans keeps).workingDir]
  exact drawer

theorem serve_appendHistory (drawer : Drawer stateDir base "twinboot" world.workingDir files world.tree)
    (roomy : Roomy stateDir) (guarded : world.Guarded) (entry : HistoryEntry) :
    ∃ number after, (within stateDir).serve (.appendHistory entry) world = (.ok (), after) ∧
      Drawer stateDir base "twinboot" after.workingDir (Function.update files "history.jsonl" (some (number,
        ((files "history.jsonl").map Prod.snd).getD [] ++ Bytes.ofString (JsonRecord.line entry) ++
          Bytes.ofString "\n"))) after.tree ∧ after.Guarded := by
  obtain ⟨number, after, appends, drawer, keeps⟩ := drawer.run_append guarded roomy.fits_label
    (roomy.fits (show "history.jsonl" ∈ _ by decide)) (JsonRecord.line entry)
  exact ⟨number, after, World.run_adapt_ok appends _, drawer, keeps.guarded guarded⟩

/-- What is read as the history, and what is read again after an entry was added: the same with the entry behind
it if nothing but space stands behind the last line feed of the file, and otherwise the entries of the lines that
had ended, without the new one and without one that the last line may have held. -/
theorem history_after_append (drawer : Drawer stateDir base "twinboot" world.workingDir files world.tree)
    (roomy : Roomy stateDir) (guarded : world.Guarded) {contents : Bytes}
    (held : ((files "history.jsonl").map Prod.snd).getD [] = contents) (entry : HistoryEntry) :
    ∃ (before : List HistoryEntry) (read appended again : World),
      (within stateDir).serve .readHistory world = (.ok before, read) ∧
      (within stateDir).serve (.appendHistory entry) read = (.ok (), appended) ∧
      (within stateDir).serve .readHistory appended =
        (.ok (if Spaced (Text.unended (Text.lossy contents)) then before ++ [entry]
          else listed (Text.ended (Text.lossy contents))), again) ∧
      before = listed (Text.ended (Text.lossy contents)) ++ listed (Text.unended (Text.lossy contents)) := by
  obtain ⟨read, first, drawer, guarded⟩ := serve_readHistory drawer roomy guarded
  obtain ⟨number, appended, appends, grown, guarded⟩ := serve_appendHistory drawer roomy guarded entry
  obtain ⟨again, second, -⟩ := serve_readHistory grown roomy guarded
  rw [held] at first
  rw [held, Function.update_self, Option.map_some, Option.getD_some, lossy_line, listed_joined] at second
  exact ⟨_, read, appended, again, first, appends, second, listed_parts _⟩

/-- A system with a store whose history file has these contents, and with no other file. -/
def keeping (contents : Bytes) : World :=
  { World.fresh 0 with
    tree := (((World.fresh 0).tree.setNode ["twinboot", "work"] .directory).addFile
      ["history.jsonl", "twinboot", "work"]).2.setData 0 contents }

theorem drawer_keeping (contents : Bytes) : Drawer ⟨"/work"⟩ ["work"] "twinboot" (keeping contents).workingDir
    (Function.update (fun _ => none) "history.jsonl" (some (0, contents))) (keeping contents).tree := by
  have made := vacant_fresh.alike.drawer.make (by decide)
  have kept := (made.add (by decide) "history.jsonl").setData (Function.update_self ..) contents
  rwa [Function.update_idem] at kept

/-- The line feed of the only entry is missing. The next entry is added, and both are lost. -/
theorem history_after_append_cut : ∃ read appended again : World,
    (within ⟨"/work"⟩).serve .readHistory
        (keeping (Bytes.ofString (JsonRecord.line (⟨1, .success, .a⟩ : HistoryEntry)))) =
          (.ok [⟨1, .success, .a⟩], read) ∧
      (within ⟨"/work"⟩).serve (.appendHistory ⟨2, .rollback, .b⟩) read = (.ok (), appended) ∧
      (within ⟨"/work"⟩).serve .readHistory appended = (.ok [], again) := by
  generalize same : Bytes.ofString (JsonRecord.line (⟨1, .success, .a⟩ : HistoryEntry)) = contents
  have whole : Text.ended (Text.lossy contents) = [] := by rw [← same]; decide +kernel
  have solid : ¬ Spaced (Text.unended (Text.lossy contents)) := by rw [← same]; decide +kernel
  have last : listed (Text.unended (Text.lossy contents)) = [⟨1, .success, .a⟩] := by rw [← same]; decide +kernel
  have held : (((Function.update (fun _ => none) "history.jsonl" (some (0, contents)) : NamedFiles)
      "history.jsonl").map Prod.snd).getD [] = contents := by rw [Function.update_self]; rfl
  obtain ⟨before, read, appended, again, first, appends, second, parts⟩ :=
    history_after_append (drawer_keeping contents) (by rfl) nofun held ⟨2, .rollback, .b⟩
  have nothing : listed [] = [] := rfl
  rw [whole, last, nothing, List.nil_append] at parts
  rw [if_neg solid, whole, nothing] at second
  exact ⟨read, appended, again, parts ▸ first, appends, second⟩

end DirectoryStore

end DualSlot
