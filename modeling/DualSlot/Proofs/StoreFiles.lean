import DualSlot.Proofs.DurableFiles
import DualSlot.Proofs.HistoryText

/-! The files of a store in a directory: the names and paths they have, and what each request to the store
comes to on a system where its files have only what the store wrote to them. -/

namespace DualSlot

open Simulation

namespace DirectoryStore

def recordName (slot : Slot) : String := s!"verity-{slot.lower}.json"

/-- The names of the files that there may be, with those of their drafts. -/
def names : List String :=
  ["boot-state.json", "boot-state.json.new", recordName .a, recordName .a ++ ".new", recordName .b,
    recordName .b ++ ".new", "history.jsonl", "update.lock"]

/-- The paths of all files of the store are short enough to be looked up. -/
def Roomy (stateDir : Path) : Prop :=
  checkPath (Durable.draft (within stateDir).bootStateFile) = .ok ()

end DirectoryStore

namespace Simulation

instance (name : String) : Decidable (IsName name) :=
  decidable_of_iff ('/' ∉ name.toList ∧ Path.isIdle name.toList = false ∧ name.toList ≠ ['.', '.'])
    ⟨fun ⟨whole, busy, notUp⟩ => ⟨whole, busy, notUp⟩, fun ⟨whole, busy, notUp⟩ => ⟨whole, busy, notUp⟩⟩

end Simulation

namespace DirectoryStore

variable {stateDir : Path} {name : String}

theorem isName_label : IsName "twinboot" := by decide

theorem names_plain : ∀ name ∈ names, IsName name ∧ '\x00' ∉ name.toList ∧
    name.utf8ByteSize ≤ "boot-state.json.new".utf8ByteSize := by decide

theorem isName_of_mem (inside : name ∈ names) : IsName name := (names_plain name inside).1

theorem Roomy.root (roomy : Roomy stateDir) : '\x00' ∉ (within stateDir).root.text.toList ∧
    (within stateDir).root.text.utf8ByteSize + "/boot-state.json.new".utf8ByteSize < pathLimit := by
  have longest : Durable.draft (within stateDir).bootStateFile =
      ⟨(within stateDir).root.text ++ "/" ++ "boot-state.json.new"⟩ := by
    rw [bootStateFile, within, Path.draft_join isName_label (isName_of_mem (by decide)),
      Path.join_join isName_label (isName_of_mem (by decide))]
    rfl
  have sound := checkPath_eq_ok_iff.1 roomy
  rw [longest] at sound
  obtain ⟨clean, -, short⟩ := sound
  refine ⟨fun inside => clean (by simp [inside]), ?_⟩
  rwa [String.utf8ByteSize_append, String.utf8ByteSize_append, Nat.add_assoc] at short

theorem Roomy.fits_label (roomy : Roomy stateDir) : Fits stateDir "twinboot" := by
  obtain ⟨clean, short⟩ := roomy.root
  have shorter := Nat.lt_of_le_of_lt (Nat.le_add_right ..) short
  refine ⟨isName_label, by decide, checkPath_eq_ok_iff.2 ⟨clean, ?_, shorter⟩⟩
  intro empty
  obtain ⟨c, last, -⟩ := Path.exists_getLast?_join isName_label stateDir
  rw [empty] at last
  cases last

theorem Roomy.fits (roomy : Roomy stateDir) (inside : name ∈ names) : Fits (stateDir.join "twinboot") name := by
  obtain ⟨isName, clean, short⟩ := names_plain name inside
  obtain ⟨rootClean, room⟩ := roomy.root
  have text : ((stateDir.join "twinboot").join name).text = (within stateDir).root.text ++ "/" ++ name :=
    congrArg Path.text (Path.join_join isName_label isName)
  have shorter : name.utf8ByteSize ≤ nameLimit := Nat.le_trans short (by decide)
  refine ⟨isName, shorter, checkPath_eq_ok_iff.2 ?_⟩
  rw [text]
  refine ⟨by simp [rootClean, clean], fun empty => ?_, ?_⟩
  · have size := congrArg String.utf8ByteSize empty
    simp [String.utf8ByteSize_append] at size
  · rw [String.utf8ByteSize_append, String.utf8ByteSize_append]
    have slash : "/boot-state.json.new".utf8ByteSize = "/".utf8ByteSize + "boot-state.json.new".utf8ByteSize := rfl
    omega

end DirectoryStore

theorem JsonRecord.file_not_space {α : Type} [JsonRecord α] [FlatRecord α] (record : α) :
    (file record).all DirectoryStore.isAsciiSpace = false := by
  obtain ⟨members, given, -, shape⟩ := FlatRecord.flat record
  obtain ⟨member, more, rfl⟩ := List.exists_cons_of_ne_nil given
  have begins : Json.byte '\x7b' ∈ file record := by
    rw [file, shape]
    have brace : String.utf8EncodeChar '\x7b' = [Json.byte '\x7b'] := utf8EncodeChar_ascii (by decide)
    simp [Json.ofMembers, Json.pretty, Bytes.ofString_eq, brace]
  rw [Bool.eq_false_iff]
  intro blank
  exact absurd (List.all_eq_true.1 blank _ begins) (by decide)

namespace Simulation

namespace World

variable {world after : World} {α ε δ : Type}

theorem run_adapt {task : ExceptT ε Hosted α} {result : Except ε α} (done : world.run task.run = (result, after))
    (change : ε → δ) : world.run (task.adapt change).run = (result.mapError change, after) := by
  have parts : world.run (task.adapt change).run = _ := Program.run_bind (I := calls) answer task.run _ world
  rw [parts, show Program.run answer task.run world = _ from done]
  rfl

theorem run_adapt_ok {task : ExceptT ε Hosted α} {value : α} (done : world.run task.run = (.ok value, after))
    (change : ε → δ) : world.run (task.adapt change).run = (.ok value, after) :=
  run_adapt done change

theorem run_readFrom [JsonRecord α] [FlatRecord α] {path : Path} {record? : Option α}
    (reads : world.run (Durable.read? path).run = (.ok (record?.map JsonRecord.file), after)) :
    world.run (DirectoryStore.readFrom α path).run = (.ok record?, after) := by
  unfold DirectoryStore.readFrom
  refine (run_bind_ok (run_adapt_ok reads _)).trans ?_
  cases record? with
  | none => rfl
  | some record =>
    simp only [Option.map_some, JsonRecord.file_not_space, JsonRecord.read?_file]
    rfl

theorem run_readRecord {store : DirectoryStore} {slot : Slot} {record? : Option SlotRecord}
    (reads : world.run (Durable.read? (store.recordFile slot)).run = (.ok (record?.map JsonRecord.file), after))
    (named : ∀ record, record? = some record → record.slot = slot) :
    world.run (store.readRecord slot).run = (.ok record?, after) := by
  unfold DirectoryStore.readRecord
  rw [run_bind_ok (run_readFrom reads)]
  cases record? with
  | none => rfl
  | some record =>
    simp only [named record rfl, if_true]
    rfl

theorem run_readHistory {store : DirectoryStore} {contents? : Option Bytes} {entries : List HistoryEntry}
    (reads : world.run (Durable.read? store.historyFile).run = (.ok contents?, after))
    (kept : contents?.getD [] = HistoryEntry.file entries) :
    world.run store.readHistory.run = (.ok entries, after) := by
  unfold DirectoryStore.readHistory
  rw [run_bind_ok (run_adapt_ok reads _)]
  cases contents? with
  | none =>
    obtain rfl := HistoryEntry.eq_nil_of_file kept.symm
    rfl
  | some contents =>
    obtain rfl : contents = HistoryEntry.file entries := kept
    simp only [HistoryEntry.lines_file, DirectoryStore.filterMapM_readEntry]
    rfl

end World

namespace Drawer

variable {stateDir : Path} {base : Location} {files : NamedFiles} {world : World}

/-- The lock file is there and open, and is the one that was there. -/
theorem run_openLock (drawer : Drawer stateDir base "twinboot" world.workingDir files world.tree)
    (roomy : DirectoryStore.Roomy stateDir) :
    ∃ middle number after, world.run (Durable.makeDirs (stateDir.join "twinboot")).run = (.ok (), middle) ∧
      middle.run (FileTask.openFile ((stateDir.join "twinboot").join "update.lock") .hold).run =
        (.ok middle.nextHandle, after) ∧
      Drawer stateDir base "twinboot" after.workingDir
        (Function.update files "update.lock" (some (number, ((files "update.lock").map Prod.snd).getD []))) after.tree ∧
      after.openFiles.lookup middle.nextHandle = some (.file number (some 0)) ∧ world.Keeps middle ∧
      middle.Keeps after ∧ middle.nextHandle < after.nextHandle ∧
      ((files "update.lock").map Prod.fst).getD middle.tree.nextId = number := by
  obtain ⟨middle, makes, drawer, there, kept⟩ := drawer.run_makeDirs roomy.fits_label
  obtain ⟨number, after, opens, drawer, held, keeps, newer, same⟩ :=
    drawer.exists_openOrMake roomy.fits_label there (roomy.fits (show "update.lock" ∈ _ by decide)) (some 0)
  replace opens : middle.openFile ((stateDir.join "twinboot").join "update.lock") .hold =
    .ok (middle.nextHandle, after) := opens
  exact ⟨middle, number, after, makes, World.run_openFile_ok opens, drawer, held, kept, keeps, newer, same⟩

theorem run_lock_free (drawer : Drawer stateDir base "twinboot" world.workingDir files world.tree)
    (roomy : DirectoryStore.Roomy stateDir) (guarded : world.Guarded)
    (free : ∀ number, (files "update.lock").map Prod.fst = some number → ∀ lock ∈ world.locks, lock.1 ≠ number) :
    ∃ number handle bytes after,
      world.run (DirectoryStore.within stateDir).lock.run = (.ok (.file handle), after) ∧
      Drawer stateDir base "twinboot" after.workingDir
        (Function.update files "update.lock" (some (number, bytes))) after.tree ∧
      after.Guarded ∧ after.locks = (number, handle) :: world.locks ∧ ∀ lock ∈ world.locks, lock.1 ≠ number := by
  obtain ⟨middle, number, opened, makes, opens, drawer, held, kept, keeps, newer, same⟩ := drawer.run_openLock roomy
  have untaken : ∀ lock ∈ world.locks, lock.1 ≠ number := by
    cases file : files "update.lock" with
    | none =>
      rw [file] at same
      intro lock inside
      exact Nat.ne_of_lt (Nat.lt_of_lt_of_le (guarded lock inside).1 (same ▸ kept.ids))
    | some pair =>
      rw [file] at same
      exact free number (by rw [file]; exact congrArg some same)
  have locks : opened.locks = world.locks := keeps.locks.trans kept.locks
  have older : number < opened.tree.nextId := (drawer.holds _ _ _ (Function.update_self ..)).2
  have none : opened.locks.lookup number = none := by
    rw [List.lookup_eq_none_iff]
    intro lock inside
    rw [locks] at inside
    simpa using (untaken lock inside).symm
  have locking : opened.run (Call.perform (.lock middle.nextHandle)) =
      (.ok true, { opened with locks := (number, middle.nextHandle) :: opened.locks }) := by
    change World.settle opened (opened.lock middle.nextHandle) = _
    simp [World.lock, held, none, World.settle]
  refine ⟨number, middle.nextHandle, _, { opened with locks := (number, middle.nextHandle) :: opened.locks },
    ?_, drawer, ?_, by rw [locks], untaken⟩
  · unfold DirectoryStore.lock
    refine (World.run_bind_ok (World.run_adapt_ok makes _)).trans ?_
    refine (World.run_bind_ok (World.run_adapt_ok opens _)).trans ?_
    rw [World.run_lift_bind, locking]
    rfl
  · intro lock inside
    obtain rfl | earlier := List.mem_cons.1 inside
    · exact ⟨older, newer⟩
    · exact (keeps.guarded (kept.guarded guarded)) lock earlier

theorem run_lock_taken {number : FileId} {bytes : Bytes} {holder : Handle}
    (drawer : Drawer stateDir base "twinboot" world.workingDir files world.tree)
    (roomy : DirectoryStore.Roomy stateDir) (guarded : world.Guarded)
    (file : files "update.lock" = some (number, bytes)) (locked : (number, holder) ∈ world.locks) :
    ∃ after, world.run (DirectoryStore.within stateDir).lock.run = (.error .locked, after) ∧
      Drawer stateDir base "twinboot" after.workingDir files after.tree ∧ world.Keeps after := by
  have unchanged : Function.update files "update.lock" (some (number,
      ((files "update.lock").map Prod.snd).getD [])) = files := by
    rw [file, Option.map_some, Option.getD_some, ← file, Function.update_eq_self]
  obtain ⟨middle, found, opened, makes, opens, drawer, held, kept, keeps, -, same⟩ := drawer.run_openLock roomy
  rw [file] at same
  obtain rfl : number = found := same
  rw [unchanged] at drawer
  have locks : opened.locks = world.locks := keeps.locks.trans kept.locks
  obtain ⟨other, found, inside⟩ : ∃ other, opened.locks.lookup number = some other ∧
      (number, other) ∈ world.locks := by
    rw [locks]
    cases found : world.locks.lookup number with
    | none => exact absurd (List.lookup_eq_none_iff.1 found _ locked) (by simp)
    | some other =>
      obtain ⟨before, after, parts, -⟩ := List.lookup_eq_some_iff.1 found
      exact ⟨other, rfl, by simp [parts]⟩
  have older : other ≠ middle.nextHandle :=
    Nat.ne_of_lt (Nat.lt_of_lt_of_le (guarded _ inside).2 kept.handles)
  have locking : opened.run (Call.perform (.lock middle.nextHandle)) = (.ok false, opened) := by
    change World.settle opened (opened.lock middle.nextHandle) = _
    simp [World.lock, held, found, World.settle, older]
  have released := keeps.release (kept.guarded guarded) (Nat.le_refl _)
  refine ⟨opened.release middle.nextHandle, ?_, drawer, kept.trans released⟩
  unfold DirectoryStore.lock
  refine (World.run_bind_ok (World.run_adapt_ok makes _)).trans ?_
  refine (World.run_bind_ok (World.run_adapt_ok opens _)).trans ?_
  rw [World.run_lift_bind, locking]
  rfl

end Drawer

end Simulation

end DualSlot
