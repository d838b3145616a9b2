import DualSlot.Proofs.PlacedEntries

/-! What is read of the books in a store, whichever calls fail, as something made of the file that holds them. -/

namespace DualSlot

open Simulation World FileTask

variable {fails : Call → World → Prop} {world after : World}

namespace FileTask

end FileTask

namespace DirectoryStore

variable {store : DirectoryStore} {slot : Slot} {path : Path}

theorem safe_readFrom_sees {α : Type} [JsonRecord α] : FileTask.Safe fails (fun _ => True)
    (Sees fails path (recordIn α path) world) (readFrom α path).run world := by
  have parts : recordIn α path = chain (fun contents => recordIn α path (.ok (some contents))) ∘
      Except.mapError (StoreError.unreadable path) := by
    funext found
    rcases found with cause | _ | contents <;> rfl
  rw [parts]
  refine safe_sees_bind  (safe_adapt ?_) rfl fun contents => ?_
  · exact Program.Safe.weaken safe_read?_sees fun _ _ sees => sees.mapError _
  · simp only [recordIn]
    split
    · rfl
    · cases (JsonRecord.read? contents : Option α) <;> rfl

/-- The record of the slot in a file. -/
def slotRecordIn (store : DirectoryStore) (slot : Slot) (found : Except IoError (Option Bytes)) :
    Except StoreError (Option SlotRecord) :=
  chain (fun record => .ok (if record.slot = slot then some record else none))
    (recordIn SlotRecord (store.recordFile slot) found)

theorem safe_readRecord_sees : FileTask.Safe fails (fun _ => True)
    (Sees fails (store.recordFile slot) (store.slotRecordIn slot) world) (store.readRecord slot).run world := by
  unfold readRecord
  refine safe_bind safe_readFrom_sees (fun cause after sees => sees.chain _) fun found after sees => ?_
  replace sees := sees.chain fun record => .ok (if record.slot = slot then some record else none)
  cases found with
  | none => exact .done sees
  | some record =>
    dsimp only [chain] at sees ⊢
    split
    next own =>
      rw [if_pos own] at sees
      exact .done sees
    next foreign =>
      rw [if_neg foreign] at sees
      exact safe_lift_bind safe_log fun _ last same => .done (sees.congr same.1 same.2)

end DirectoryStore

namespace Host

variable {host : Host} {slot : Slot}

/-- The hash on record for the slot, in a file. -/
def hashIn (host : Host) (slot : Slot) (found : Except IoError (Option Bytes)) : Except Failure (Option Digest) :=
  chain (fun record => .ok record.digest?) ((host.store.slotRecordIn slot found).mapError .persistence)

theorem safe_rootHash?_sees : FileTask.Safe fails (fun _ => True)
    (Sees fails (host.store.recordFile slot) (host.hashIn slot) world)
    ((Slots.rootHash? slot).run.translate host.realise) world := by
  have parts : host.hashIn slot = chain (fun record => .ok record.digest?) ∘
      chain (fun record => .ok (if record.digest?.isSome then some record else none)) ∘
        Except.mapError Failure.persistence ∘ host.store.slotRecordIn slot := by
    funext found
    simp only [hashIn, Function.comp_apply]
    rcases (host.store.slotRecordIn slot found).mapError Failure.persistence with cause | _ | record
    · rfl
    · rfl
    · cases digest : record.digest? <;> simp [chain, digest]
  rw [parts]
  refine safe_translate_sees_bind (safe_translate_sees_bind (safe_translate_of ?_) rfl fun record => ?_) rfl
    fun record => rfl
  · rw [translate_ask]
    exact Program.Safe.weaken DirectoryStore.safe_readRecord_sees fun _ _ sees => sees.mapError _
  · cases digest : record.digest? <;> simp [Option.filter, digest] <;> rfl

/-- The boot state in a file. -/
def stateIn (host : Host) (found : Except IoError (Option Bytes)) : Except Failure (Option BootState) :=
  (DirectoryStore.recordIn BootState host.store.bootStateFile found).mapError .persistence

theorem isName_recordFile (slot : Slot) : IsName s!"verity-{slot.lower}.json" := by
  cases slot <;> decide

theorem json_recordFile (slot : Slot) : s!"verity-{slot.lower}.json".toList.getLast? = some 'n' := by
  cases slot <;> decide

theorem run_rootHash?_fst (host : Host) (slot : Slot) (world : World) :
    (world.run ((Slots.rootHash? slot).run.translate host.realise)).1 =
      host.hashIn slot (world.tree.readAs world.workingDir (host.store.recordFile slot)) :=
  safe_rootHash?_sees.run.steady nofun

theorem exists_bytes_of_hashIn {found : Except IoError (Option Bytes)} {rootHash : Digest}
    (recorded : host.hashIn slot found = .ok (some rootHash)) : ∃ bytes, found = .ok (some bytes) := by
  rcases found with cause | _ | bytes
  · cases recorded
  · cases recorded
  · exact ⟨bytes, rfl⟩

theorem exists_bytes_of_stateIn {found : Except IoError (Option Bytes)} {state : BootState}
    (reads : host.stateIn found = .ok (some state)) : ∃ bytes, found = .ok (some bytes) := by
  rcases found with cause | _ | bytes
  · cases reads
  · cases reads
  · exact ⟨bytes, rfl⟩

/-- Where there is a boot state there is a store. -/
theorem leads_root {state : BootState}
    (reads : host.stateIn (world.tree.readAs world.workingDir host.store.bootStateFile) = .ok (some state)) :
    ∃ dir, world.tree.Leads world.workingDir host.store.root dir := by
  obtain ⟨bytes, read⟩ := exists_bytes_of_stateIn reads
  exact DirectoryStore.leads_of_resolve_join (by decide) (FileTree.resolve_of_readAs read).1

end Host

end DualSlot
