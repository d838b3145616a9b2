import DualSlot.Proofs.StoreFiles
import DualSlot.Store.Memory

/-! A store in a directory gives the results that one in memory gives, whatever is done with them. -/

namespace DualSlot

open Simulation

/-- Whether a request is about records, and not about the lock. -/
def StoreRequest.isRecord : StoreRequest → Bool
  | .lock | .unlock _ => false
  | _ => true

/-- What can be done with a store by someone who keeps the guard of its lock until it is given back. -/
inductive StoreUse where
  | ask (request : StoreRequest) (ofRecords : request.isRecord = true)
  | take
  | release

namespace StoreUse

variable {σ : Type}

abbrev Result : StoreUse → Type
  | ask request _ => request.Reply
  | take => Except StoreError Unit
  | release => Unit

/-- The result of a use, and the store and the guard after it. -/
def on (answer : (request : StoreRequest) → σ → request.Reply × σ) :
    (use : StoreUse) → σ → Option Guard → use.Result × σ × Option Guard
  | ask request _, store, guard => ((answer request store).1, (answer request store).2, guard)
  | take, store, guard =>
    match answer .lock store with
    | (.ok taken, store) => (.ok (), store, some taken)
    | (.error refusal, store) => (.error refusal, store, guard)
  | release, store, some guard => ((), (answer (.unlock guard) store).2, none)
  | release, store, none => ((), store, none)

/-- The results of uses that follow each other. -/
def results (answer : (request : StoreRequest) → σ → request.Reply × σ) :
    List StoreUse → σ → Option Guard → List (Σ use : StoreUse, use.Result)
  | [], _, _ => []
  | use :: uses, store, guard =>
    let (result, store, guard) := use.on answer store guard
    ⟨use, result⟩ :: results answer uses store guard

end StoreUse

/-- How the store replies on a system. -/
def DirectoryStore.serve (store : DirectoryStore) (request : StoreRequest) (world : World) :
    request.Reply × World :=
  world.run (store.realise request)

open DirectoryStore (recordName)

/-- The records in memory are the ones in the files with these contents. -/
structure SameRecords (contents : String → Option Bytes) (memory : MemoryStore) : Prop where
  bootState : contents "boot-state.json" = memory.bootState.map JsonRecord.file
  record : ∀ slot, contents (recordName slot) = (memory.record slot).map JsonRecord.file
  named : ∀ slot record, memory.record slot = some record → record.slot = slot
  history : (contents "history.jsonl").getD [] = HistoryEntry.file memory.history

namespace SameRecords

variable {contents : String → Option Bytes} {memory : MemoryStore}

theorem empty : SameRecords (fun _ => none) .empty where
  bootState := rfl
  record slot := by cases slot <;> rfl
  named slot record known := by cases slot <;> cases known
  history := rfl

theorem recordName_ne {name : String} (apart : name ≠ recordName .a ∧ name ≠ recordName .b) (slot : Slot) :
    recordName slot ≠ name := by
  cases slot
  · exact apart.1.symm
  · exact apart.2.symm

theorem recordName_inj {first second : Slot} (same : recordName first = recordName second) : first = second := by
  cases first <;> cases second <;> first | rfl | exact absurd same (by decide)

theorem writeBootState (same : SameRecords contents memory) (state : BootState) :
    SameRecords (Function.update contents "boot-state.json" (some (JsonRecord.file state)))
      { memory with bootState := some state } where
  bootState := Function.update_self ..
  record slot := by
    rw [Function.update_of_ne (recordName_ne (by decide) slot)]
    exact same.record slot
  named := same.named
  history := by rw [Function.update_of_ne (by decide), same.history]

theorem setRecord (same : SameRecords contents memory) (slot : Slot) (record? : Option SlotRecord)
    (named : ∀ record, record? = some record → record.slot = slot) :
    SameRecords (Function.update contents (recordName slot) (record?.map JsonRecord.file))
      (memory.setRecord slot record?) where
  bootState := by
    rw [Function.update_of_ne (recordName_ne (by decide) slot).symm, same.bootState]
    cases slot <;> rfl
  record other := by
    obtain rfl | rfl := Slot.eq_or_eq_other other slot
    · rw [Function.update_self, MemoryStore.record_setRecord_same]
    · have apart : recordName slot.other ≠ recordName slot := fun names =>
        Slot.other_ne slot (recordName_inj names)
      rw [Function.update_of_ne apart, MemoryStore.record_setRecord_other, same.record]
  named other record known := by
    obtain rfl | rfl := Slot.eq_or_eq_other other slot
    · rw [MemoryStore.record_setRecord_same] at known
      exact named record known
    · rw [MemoryStore.record_setRecord_other] at known
      exact same.named _ record known
  history := by
    rw [Function.update_of_ne (recordName_ne (by decide) slot).symm, same.history]
    cases slot <;> rfl

/-- A file that is not looked at. -/
theorem update (same : SameRecords contents memory) {name : String}
    (ignored : name ≠ "boot-state.json" ∧ name ≠ "history.jsonl" ∧ name ≠ recordName .a ∧ name ≠ recordName .b)
    (bytes? : Option Bytes) : SameRecords (Function.update contents name bytes?) memory where
  bootState := by rw [Function.update_of_ne ignored.1.symm, same.bootState]
  record slot := by rw [Function.update_of_ne (recordName_ne ignored.2.2 slot), same.record]
  named := same.named
  history := by rw [Function.update_of_ne ignored.2.1.symm, same.history]

theorem appendHistory (same : SameRecords contents memory) (entry : HistoryEntry) :
    SameRecords (Function.update contents "history.jsonl" (some ((contents "history.jsonl").getD [] ++
      Bytes.ofString (JsonRecord.line entry) ++ Bytes.ofString "\n")))
      { memory with history := memory.history ++ [entry] } where
  bootState := by rw [Function.update_of_ne (by decide), same.bootState]
  record slot := by
    rw [Function.update_of_ne (recordName_ne (by decide) slot)]
    exact same.record slot
  named := same.named
  history := by rw [Function.update_self, same.history, Option.getD_some, HistoryEntry.file_concat]

end SameRecords

/-- The lock file is locked through the handle if there is one, and then the flag in memory is set. -/
structure SameLock (lockFile : Option FileId) (locks : List (FileId × Handle)) (locked : Bool)
    (holder : Option Handle) : Prop where
  flag : locked = holder.isSome
  made : holder.isSome → lockFile.isSome
  locks : ∀ number, lockFile = some number → ∀ handle, (number, handle) ∈ locks ↔ holder = some handle

namespace SameLock

variable {lockFile : Option FileId} {locks : List (FileId × Handle)} {locked : Bool} {number : FileId}
  {handle : Handle}

theorem untaken (locks : List (FileId × Handle)) : SameLock none locks false none :=
  ⟨rfl, nofun, nofun⟩

theorem take (free : ∀ lock ∈ locks, lock.1 ≠ number) (handle : Handle) :
    SameLock (some number) ((number, handle) :: locks) true (some handle) := by
  refine ⟨rfl, fun _ => rfl, ?_⟩
  rintro number ⟨⟩ other
  constructor
  · intro inside
    obtain same | earlier := List.mem_cons.1 inside
    · rw [(Prod.mk.inj same).2]
    · exact (free _ earlier rfl).elim
  · rintro ⟨⟩
    exact List.mem_cons_self

theorem release (same : SameLock lockFile locks locked (some handle)) :
    SameLock lockFile (locks.filter fun (_, holder) => holder ≠ handle) false none := by
  refine ⟨rfl, nofun, fun number file other => ?_⟩
  constructor
  · intro inside
    obtain ⟨left, different⟩ := List.mem_filter.1 inside
    obtain rfl := Option.some_inj.1 ((same.locks number file other).1 left)
    simp at different
  · nofun

end SameLock

/-- The two stores hold the same. -/
structure Alike (stateDir : Path) (base : Location) (files : NamedFiles) (world : World) (memory : MemoryStore)
    (holder : Option Handle) : Prop where
  drawer : Drawer stateDir base "twinboot" world.workingDir files world.tree
  guarded : world.Guarded
  accepting : memory.rejecting = false
  records : SameRecords (Option.map Prod.snd ∘ files) memory
  lock : SameLock ((files "update.lock").map Prod.fst) world.locks memory.locked holder

namespace Alike

variable {stateDir : Path} {base : Location} {files changed : NamedFiles} {world after : World}
  {memory : MemoryStore} {holder : Option Handle}

theorem unchanged (alike : Alike stateDir base files world memory holder) (tree : after.tree = world.tree)
    (keeps : world.Keeps after) : Alike stateDir base files after memory holder where
  drawer := by rw [tree, keeps.workingDir]; exact alike.drawer
  guarded := keeps.guarded alike.guarded
  accepting := alike.accepting
  records := alike.records
  lock := by rw [keeps.locks]; exact alike.lock

/-- Both stores take a write. -/
theorem write (alike : Alike stateDir base files world memory holder) (keeps : world.Keeps after)
    (drawer : Drawer stateDir base "twinboot" after.workingDir changed after.tree)
    (lockFile : changed "update.lock" = files "update.lock") (written : MemoryStore)
    (records : SameRecords (Option.map Prod.snd ∘ changed) written)
    (aside : written.rejecting = memory.rejecting ∧ written.locked = memory.locked) :
    (memory.write written).1 = .ok () ∧ Alike stateDir base changed after (memory.write written).2 holder := by
  rw [MemoryStore.write, if_neg (Bool.eq_false_iff.1 alike.accepting)]
  exact ⟨rfl, drawer, keeps.guarded alike.guarded, aside.1.trans alike.accepting, records,
    by rw [lockFile, keeps.locks, aside.2]; exact alike.lock⟩

/-- The files that are replaced as a whole, and their drafts, are none of the others. -/
theorem recordFiles_apart : ∀ name ∈ ["boot-state.json", recordName .a, recordName .b],
    (name ∈ DirectoryStore.names ∧ name ++ ".new" ∈ DirectoryStore.names) ∧
      ("update.lock" ≠ name ∧ "update.lock" ≠ name ++ ".new") ∧
      (name ++ ".new" ≠ "boot-state.json" ∧ name ++ ".new" ≠ "history.jsonl" ∧
        name ++ ".new" ≠ recordName .a ∧ name ++ ".new" ≠ recordName .b) := by decide

/-- Both stores take a record in the place of another one. -/
theorem replace (alike : Alike stateDir base files world memory holder) (roomy : DirectoryStore.Roomy stateDir)
    {name : String} (ofRecord : name ∈ ["boot-state.json", recordName .a, recordName .b]) (bytes : Bytes)
    (written : MemoryStore)
    (records : ∀ contents, SameRecords contents memory →
      SameRecords (Function.update contents name (some bytes)) written)
    (aside : written.rejecting = memory.rejecting ∧ written.locked = memory.locked) :
    ∃ changed after,
      world.run (Durable.replace ((stateDir.join "twinboot").join name) bytes).run = (.ok (), after) ∧
      (memory.write written).1 = .ok () ∧
      Alike stateDir base changed after (memory.write written).2 holder := by
  obtain ⟨⟨known, draftKnown⟩, lock, ignored⟩ := recordFiles_apart name ofRecord
  obtain ⟨number, after, replaces, drawer, keeps⟩ := alike.drawer.run_replace alike.guarded roomy.fits_label
    (roomy.fits known) (roomy.fits draftKnown) bytes
  have drafted := records _ (alike.records.update ignored none)
  obtain ⟨accepted, alike⟩ := alike.write keeps drawer
    (by rw [Function.update_of_ne lock.1, Function.update_of_ne lock.2]) written
    (by rw [Function.comp_update, Function.comp_update]; exact drafted) aside
  exact ⟨_, after, replaces, accepted, alike⟩

/-- What is asked of both stores is replied to by both in the same way. -/
theorem ask (alike : Alike stateDir base files world memory holder) (roomy : DirectoryStore.Roomy stateDir)
    (request : StoreRequest) (ofRecords : request.isRecord = true) :
    ∃ changed after, (DirectoryStore.within stateDir).serve request world =
        ((MemoryStore.answer request memory).1, after) ∧
      Alike stateDir base changed after (MemoryStore.answer request memory).2 holder := by
  have label := roomy.fits_label
  cases request with
  | lock => cases ofRecords
  | unlock guard => cases ofRecords
  | readBootState =>
    obtain ⟨after, reads, tree, keeps⟩ := alike.drawer.run_read? alike.guarded label
      (roomy.fits (show "boot-state.json" ∈ _ by decide))
    rw [show (files "boot-state.json").map Prod.snd = _ from alike.records.bootState] at reads
    exact ⟨files, after, World.run_readFrom reads, alike.unchanged tree keeps⟩
  | readRecord slot =>
    obtain ⟨after, reads, tree, keeps⟩ := alike.drawer.run_read? alike.guarded label
      (roomy.fits (show recordName slot ∈ _ by cases slot <;> decide))
    rw [show (files (recordName slot)).map Prod.snd = _ from alike.records.record slot] at reads
    exact ⟨files, after, World.run_readRecord reads (alike.records.named slot), alike.unchanged tree keeps⟩
  | readHistory =>
    obtain ⟨after, reads, tree, keeps⟩ := alike.drawer.run_read? alike.guarded label
      (roomy.fits (show "history.jsonl" ∈ _ by decide))
    exact ⟨files, after, World.run_readHistory reads alike.records.history, alike.unchanged tree keeps⟩
  | writeBootState state =>
    obtain ⟨changed, after, replaces, accepted, alike⟩ := alike.replace roomy
      (show "boot-state.json" ∈ _ by decide) (JsonRecord.file state) { memory with bootState := some state }
      (fun _ same => same.writeBootState state) ⟨rfl, rfl⟩
    exact ⟨changed, after, (World.run_adapt_ok replaces _).trans (congrArg (·, after) accepted.symm), alike⟩
  | writeRecord record =>
    obtain ⟨changed, after, replaces, accepted, alike⟩ := alike.replace roomy
      (show recordName record.slot ∈ _ by cases record.slot <;> decide) (JsonRecord.file record)
      (memory.setRecord record.slot (some record))
      (fun _ same => same.setRecord record.slot (some record) fun _ known => by rw [Option.some_inj.1 known])
      (by cases record.slot <;> exact ⟨rfl, rfl⟩)
    exact ⟨changed, after, (World.run_adapt_ok replaces _).trans (congrArg (·, after) accepted.symm), alike⟩
  | clearRecord slot =>
    obtain ⟨after, erases, drawer, keeps⟩ := alike.drawer.run_erase alike.guarded label
      (roomy.fits (show recordName slot ∈ _ by cases slot <;> decide))
    have records := alike.records.setRecord slot none nofun
    have apart : "update.lock" ≠ recordName slot := by cases slot <;> decide
    obtain ⟨accepted, alike⟩ := alike.write keeps drawer (Function.update_of_ne apart ..)
      (memory.setRecord slot none) (by rw [Function.comp_update]; exact records)
      (by cases slot <;> exact ⟨rfl, rfl⟩)
    exact ⟨_, after, (World.run_adapt_ok erases _).trans (congrArg (·, after) accepted.symm), alike⟩
  | appendHistory entry =>
    obtain ⟨number, after, appends, drawer, keeps⟩ := alike.drawer.run_append alike.guarded label
      (roomy.fits (show "history.jsonl" ∈ _ by decide)) (JsonRecord.line entry)
    obtain ⟨accepted, alike⟩ := alike.write keeps drawer (Function.update_of_ne (by decide) ..)
      { memory with history := memory.history ++ [entry] }
      (by rw [Function.comp_update]; exact alike.records.appendHistory entry) ⟨rfl, rfl⟩
    exact ⟨_, after, (World.run_adapt_ok appends _).trans (congrArg (·, after) accepted.symm), alike⟩

/-- The lock is granted if nobody has it. -/
theorem take_free (alike : Alike stateDir base files world memory none) (roomy : DirectoryStore.Roomy stateDir) :
    ∃ changed after handle, (DirectoryStore.within stateDir).serve .lock world = (.ok (.file handle), after) ∧
      MemoryStore.answer .lock memory = (.ok .flag, { memory with locked := true }) ∧
      Alike stateDir base changed after { memory with locked := true } (some handle) := by
  have unlocked : memory.locked = false := alike.lock.flag
  have free : ∀ number, (files "update.lock").map Prod.fst = some number → ∀ lock ∈ world.locks, lock.1 ≠ number := by
    rintro number file ⟨_, handle⟩ inside rfl
    cases (alike.lock.locks _ file handle).1 inside
  obtain ⟨number, handle, bytes, after, locks, drawer, guarded, taken, untaken⟩ :=
    alike.drawer.run_lock_free roomy alike.guarded free
  refine ⟨_, after, handle, locks, ?_, drawer, guarded, alike.accepting, ?_, ?_⟩
  · rw [MemoryStore.answer, unlocked]
    rfl
  · rw [Function.comp_update]
    have records := alike.records.update (show "update.lock" ≠ "boot-state.json" ∧ _ by decide) (some bytes)
    exact ⟨records.bootState, records.record, records.named, records.history⟩
  · rw [Function.update_self, taken]
    exact SameLock.take untaken handle

/-- The lock is refused to a second session. -/
theorem take_held {handle : Handle} (alike : Alike stateDir base files world memory (some handle))
    (roomy : DirectoryStore.Roomy stateDir) :
    ∃ after, (DirectoryStore.within stateDir).serve .lock world = (.error .locked, after) ∧
      MemoryStore.answer .lock memory = (.error .locked, memory) ∧
      Alike stateDir base files after memory (some handle) := by
  have locked : memory.locked = true := alike.lock.flag
  obtain ⟨number, file⟩ := Option.isSome_iff_exists.1 (alike.lock.made rfl)
  have held := (alike.lock.locks number file handle).2 rfl
  obtain ⟨⟨_, bytes⟩, pair, rfl⟩ := Option.map_eq_some_iff.1 file
  obtain ⟨after, locks, drawer, keeps⟩ := alike.drawer.run_lock_taken roomy alike.guarded pair held
  refine ⟨after, locks, ?_, drawer, keeps.guarded alike.guarded, alike.accepting, alike.records, ?_⟩
  · rw [MemoryStore.answer, locked]
    rfl
  · rw [keeps.locks]
    exact alike.lock

theorem release {handle : Handle} (alike : Alike stateDir base files world memory (some handle)) :
    Alike stateDir base files (world.release handle) { memory with locked := false } none where
  drawer := alike.drawer
  guarded lock inside := alike.guarded lock (List.mem_of_mem_filter inside)
  accepting := alike.accepting
  records := ⟨alike.records.bootState, alike.records.record, alike.records.named, alike.records.history⟩
  lock := alike.lock.release

/-- One use has the same result with both stores, and leaves them alike. -/
theorem on (alike : Alike stateDir base files world memory holder) (roomy : DirectoryStore.Roomy stateDir)
    (use : StoreUse) :
    ∃ result changed after kept next,
      use.on (DirectoryStore.within stateDir).serve world (holder.map .file) = (result, after, next.map .file) ∧
      use.on MemoryStore.answer memory (holder.map fun _ => .flag) = (result, kept, next.map fun _ => .flag) ∧
      Alike stateDir base changed after kept next := by
  cases use with
  | ask request ofRecords =>
    obtain ⟨changed, after, replies, alike⟩ := alike.ask roomy request ofRecords
    exact ⟨_, changed, after, _, holder, by rw [StoreUse.on, replies], rfl, alike⟩
  | take =>
    cases holder with
    | none =>
      obtain ⟨changed, after, handle, granted, flagged, alike⟩ := alike.take_free roomy
      refine ⟨.ok (), changed, after, _, some handle, ?_, ?_, alike⟩
      · rw [StoreUse.on, granted]
        rfl
      · rw [StoreUse.on, flagged]
        rfl
    | some handle =>
      obtain ⟨after, refused, rejected, alike⟩ := alike.take_held roomy
      refine ⟨.error .locked, files, after, memory, some handle, ?_, ?_, alike⟩
      · rw [StoreUse.on, refused]
      · rw [StoreUse.on, rejected]
  | release =>
    cases holder with
    | none => exact ⟨(), files, world, memory, none, rfl, rfl, alike⟩
    | some handle => exact ⟨(), files, world.release handle, _, none, rfl, rfl, alike.release⟩

/-- Uses that follow each other have the same results with both stores. -/
theorem results_eq (alike : Alike stateDir base files world memory holder) (roomy : DirectoryStore.Roomy stateDir)
    (uses : List StoreUse) :
    StoreUse.results (DirectoryStore.within stateDir).serve uses world (holder.map .file) =
      StoreUse.results MemoryStore.answer uses memory (holder.map fun _ => .flag) := by
  induction uses generalizing files world memory holder with
  | nil => rfl
  | cons use uses ih =>
    obtain ⟨result, changed, after, kept, next, inDirectory, inMemory, alike⟩ := alike.on roomy use
    rw [StoreUse.results, StoreUse.results, inDirectory, inMemory]
    exact congrArg (⟨use, result⟩ :: ·) (ih alike)

end Alike

/-- A directory that a store can be made in: it is there, nothing of a store is in it, and its files have
paths that can be looked up. No locks are held on files that are yet to be made. -/
structure Vacant (world : World) (stateDir : Path) (base : Location) : Prop where
  leads : world.tree.Leads world.workingDir stateDir base
  noFile : ∀ number, world.tree.node? ("twinboot" :: base) ≠ some (.file number)
  empty : ∀ name, world.tree.node? (name :: "twinboot" :: base) = none
  roomy : DirectoryStore.Roomy stateDir
  guarded : world.Guarded

theorem Vacant.alike {world : World} {stateDir : Path} {base : Location} (vacant : Vacant world stateDir base) :
    Alike stateDir base (fun _ => none) world .empty none where
  drawer := by
    refine ⟨vacant.leads, ?_, vacant.empty, nofun, nofun⟩
    cases there : world.tree.node? ("twinboot" :: base) with
    | none => exact .inr ⟨rfl, fun _ => rfl⟩
    | some node =>
      cases node with
      | directory => exact .inl rfl
      | file number => exact (vacant.noFile number there).elim
  guarded := vacant.guarded
  accepting := rfl
  records := .empty
  lock := .untaken _

/-- Whatever is done with a store in a new directory, the results are those of a new store in memory. -/
theorem DirectoryStore.results_as_in_memory {world : World} {stateDir : Path} {base : Location}
    (vacant : Vacant world stateDir base) (uses : List StoreUse) :
    StoreUse.results (DirectoryStore.within stateDir).serve uses world none =
      StoreUse.results MemoryStore.answer uses .empty none :=
  vacant.alike.results_eq vacant.roomy uses

/-- A session that takes the lock twice, and keeps one record of a text with quotes and line feeds. -/
def StoreUse.sample : List StoreUse :=
  [.take, .ask (.writeRecord ⟨.b, "\"so\"\n", 7⟩) rfl, .take, .release, .ask (.readRecord .b) rfl,
    .ask (.appendHistory ⟨1, .success, .b⟩) rfl, .ask (.clearRecord .b) rfl, .ask (.readRecord .b) rfl,
    .ask .readHistory rfl]

theorem vacant_fresh : Vacant (.fresh 0) ⟨"/work"⟩ ["work"] where
  leads := ⟨by decide, by decide⟩
  noFile number := by
    rw [show (World.fresh 0).tree.node? ["twinboot", "work"] = none by decide]
    nofun
  empty name := by simp [World.fresh, FileTree.node?, List.lookup_cons]
  roomy := by rfl
  guarded := nofun

theorem DirectoryStore.results_of_sample :
    StoreUse.results (DirectoryStore.within ⟨"/work"⟩).serve StoreUse.sample (.fresh 0) none =
      [⟨.take, .ok ()⟩, ⟨.ask (.writeRecord ⟨.b, "\"so\"\n", 7⟩) rfl, .ok ()⟩, ⟨.take, .error .locked⟩,
        ⟨.release, ()⟩, ⟨.ask (.readRecord .b) rfl, .ok (some ⟨.b, "\"so\"\n", 7⟩)⟩,
        ⟨.ask (.appendHistory ⟨1, .success, .b⟩) rfl, .ok ()⟩, ⟨.ask (.clearRecord .b) rfl, .ok ()⟩,
        ⟨.ask (.readRecord .b) rfl, .ok none⟩, ⟨.ask .readHistory rfl, .ok [⟨1, .success, .b⟩]⟩] :=
  (DirectoryStore.results_as_in_memory vacant_fresh StoreUse.sample).trans rfl

end DualSlot
