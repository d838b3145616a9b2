import DualSlot.Proofs.RefreshEndings
import Mathlib.Data.List.Infix

/-! A menu that was brought in line with the books: what a refresh leaves alone, and that one which succeeded leaves
nothing for another to do. -/

namespace DualSlot

open Simulation World FileTask Durable

namespace BootMenu

variable {host : Host} {menu : BootMenu} {slot other fallback : Slot} {fails : Call → World → Prop}
  {world middle after : World} {contents : Bytes} {isDefault : Bool} {finished : Prop} {rootHash : Digest}

/-! The entry of the fallback stays as it is if it agrees with the books. -/

/-- The loader's configuration has a place of its own. -/
structure Distinct (menu : BootMenu) (host : Host) (workingDir : Location) : Prop where
  entry : ∀ slot, locate workingDir menu.loaderFile ≠ locate workingDir (menu.entryPath slot)
  draft : ∀ slot, locate workingDir menu.loaderFile ≠ locate workingDir (draft (menu.entryPath slot))
  state : locate workingDir menu.loaderFile ≠ locate workingDir host.store.bootStateFile
  record : ∀ slot, locate workingDir menu.loaderFile ≠ locate workingDir (host.store.recordFile slot)

/-- A file of the store is not touched where entries are written. -/
theorem not_involved_book {name : String} (root : Path) (isName : IsName name)
    (json : name.toList.getLast? = some 'n') :
    ¬ Involved (menu.entryPath slot) world (locate world.workingDir (root.join name)) := by
  rw [locate_join isName]
  refine not_or.2 ⟨fun same => ?_, cons_ne_draft (by rw [json]; decide) _ _⟩
  rw [show locate world.workingDir (menu.entryPath slot) = menu.place world slot from rfl, place_eq] at same
  rw [(List.cons.inj same).1] at json
  cases slot <;> exact absurd json (by decide)

theorem not_written_book {root : Path} {name : String} (isName : IsName name) (json : name.toList.getLast? = some 'n')
    (apart : locate world.workingDir menu.loaderFile ≠ locate world.workingDir (root.join name)) :
    ¬ menu.Written slot world (locate world.workingDir (root.join name)) := by
  refine not_or.2 ⟨not_involved_book root isName json, not_or.2 ⟨apart.symm, ?_⟩⟩
  rw [locate_join isName]
  exact cons_ne_draft (by rw [json]; decide) _ _

/-- The entry of the slot agrees with the books: it shows the hash on record, or there is none on record and no attempt
is left. -/
inductive Agrees (host : Host) (menu : BootMenu) (slot : Slot) (world : World) : Prop where
  | shown {entry} (read : (world.run ((menu.entry? slot).run.translate host.realise)).1 = .ok (some entry))
      (recorded : (world.run ((Slots.rootHash? slot).run.translate host.realise)).1 = .ok (some entry.rootHash))
  | missing (absent : world.tree.file? (menu.place world slot) = none)
      (unrecorded : ∀ rootHash,
        (world.run ((Slots.rootHash? slot).run.translate host.realise)).1 ≠ .ok (some rootHash))
  | passedOver {entry} (read : (world.run ((menu.entry? slot).run.translate host.realise)).1 = .ok (some entry))
      (zero : entry.triesLeft = 0)
      (unrecorded : ∀ rootHash,
        (world.run ((Slots.rootHash? slot).run.translate host.realise)).1 ≠ .ok (some rootHash))

/-- An entry agrees with the books where neither it nor its record was touched. -/
theorem Agrees.grows {touched : Location → Prop} {dir : Location} (agrees : Agrees host menu slot world)
    (grows : Grows touched world after) (leads : world.tree.Leads world.workingDir host.store.root dir)
    (entry : ¬ touched (menu.place world slot))
    (record : ¬ touched (locate world.workingDir (host.store.recordFile slot))) : Agrees host menu slot after := by
  have unrecorded (none : ∀ rootHash,
      (world.run ((Slots.rootHash? slot).run.translate host.realise)).1 ≠ .ok (some rootHash)) (rootHash : Digest) :
      (after.run ((Slots.rootHash? slot).run.translate host.realise)).1 ≠ .ok (some rootHash) := by
    intro recorded
    rw [Host.run_rootHash?_fst] at recorded
    obtain ⟨bytes, read⟩ := Host.exists_bytes_of_hashIn recorded
    have earlier : world.tree.readAs world.workingDir (host.store.recordFile slot) = .ok (some bytes) :=
      grows.readAs_before (Host.isName_recordFile slot) record leads read
    refine none rootHash ?_
    rw [Host.run_rootHash?_fst, earlier, ← read]
    exact recorded
  have reads {shown : BootEntry}
      (read : (world.run ((menu.entry? slot).run.translate host.realise)).1 = .ok (some shown)) :
      (after.run ((menu.entry? slot).run.translate host.realise)).1 = .ok (some shown) := by
    rw [run_entry?_fst] at read ⊢
    obtain ⟨bytes, contents⟩ := exists_bytes_of_entryFrom read
    have later : after.tree.readAs after.workingDir (menu.entryPath slot) = .ok (some bytes) :=
      grows.readAs (isName_entryFile slot) entry contents
    rw [later, ← contents]
    exact read
  cases agrees with
  | shown read recorded =>
    refine .shown (reads read) ?_
    rw [Host.run_rootHash?_fst] at recorded ⊢
    obtain ⟨bytes, contents⟩ := Host.exists_bytes_of_hashIn recorded
    have later : after.tree.readAs after.workingDir (host.store.recordFile slot) = .ok (some bytes) :=
      grows.readAs (Host.isName_recordFile slot) record contents
    rw [later, ← contents]
    exact recorded
  | missing absent none =>
    refine .missing ?_ (unrecorded none)
    rw [place_congr grows.workingDir, grows.file? entry, absent]
  | passedOver read zero none => exact .passedOver (reads read) zero (unrecorded none)

/-- The reads of the books and of the entries do not fail. -/
def ReadsSteadily (host : Host) (menu : BootMenu) (fails : Call → World → Prop) : Prop :=
  ∀ slot moment, ¬ fails (.openFile (host.store.recordFile slot) .read) moment ∧
    ¬ fails (.openFile (menu.entryPath slot) .read) moment

/-- The fallback is as the books say. -/
inductive FallbackInLine (host : Host) (menu : BootMenu) (fallback : Slot) (world : World) : Prop where
  | unrecorded
      (none : host.hashIn fallback (world.tree.readAs world.workingDir (host.store.recordFile fallback)) = .ok none)
      (untried : menu.Untried fallback world)
  | shown {rootHash : Digest}
      (recorded : host.hashIn fallback (world.tree.readAs world.workingDir (host.store.recordFile fallback)) =
        .ok (some rootHash))
      (shown : shownHash? (menu.entryFrom fallback (world.tree.readAs world.workingDir (menu.entryPath fallback))) =
        some rootHash)

/-- The menu is as the books say. -/
structure InLine (host : Host) (menu : BootMenu) (state : BootState) (rootHash : Digest) (world : World) : Prop where
  reads : host.stateIn (world.tree.readAs world.workingDir host.store.bootStateFile) = .ok (some state)
  recorded : host.hashIn state.activeSlot
    (world.tree.readAs world.workingDir (host.store.recordFile state.activeSlot)) = .ok (some rootHash)
  entry : Stands (menu.entryPath state.activeSlot)
    (menu.entryBytes ⟨state.activeSlot, rootHash, menu.tries, state.bootCount⟩) world
  loader : Stands menu.loaderFile (menu.loaderBytes state.activeSlot) world
  fallback : FallbackInLine host menu state.activeSlot.other world

/-- What was written as the default stands. -/
theorem EntryWritten.stands (written : menu.EntryWritten slot contents true fails world finished after)
    (done : finished) (distinct : menu.Distinct host world.workingDir)
    (beside : ¬ Passes world.workingDir menu.loaderFile.directory
      (locate world.workingDir (draft (menu.entryPath slot)))) :
    Stands (menu.entryPath slot) contents after ∧ Stands menu.loaderFile (menu.loaderBytes slot) after := by
  refine ⟨?_, written.loader done rfl⟩
  cases written with
  | stopped undone _ => exact (undone done).elim
  | alone impossible _ _ => cases impossible
  | @asDefault middle _ entry loader =>
    have workingDir := entry.spares.workingDir
    have untouched : ¬ Involved menu.loaderFile middle (locate middle.workingDir (menu.entryPath slot)) := by
      rw [involved_congr workingDir, workingDir]
      exact not_involved_loader (distinct.entry slot)
    have draftUntouched :
        ¬ Involved menu.loaderFile middle (locate middle.workingDir (draft (menu.entryPath slot))) := by
      rw [involved_congr workingDir, workingDir]
      exact not_or.2 ⟨(distinct.draft slot).symm, fun same => distinct.entry slot (locate_of_draft same.symm)⟩
    refine entry.stands.spared loader.spares untouched (loader.spares.view_eq draftUntouched fun _ => ?_)
    rwa [workingDir]

/-- The fallback's part of a refresh does not disturb what the other part has done. -/
theorem stands_beside_fallback {path : Path} (stands : Stands path contents world) {dir : Location}
    (leads : world.tree.Leads world.workingDir menu.entriesDir dir)
    (spares : Spares (menu.entryPath fallback) (Involved (menu.entryPath fallback) world) world after)
    (notEntry : locate world.workingDir path ≠ menu.place world fallback)
    (notDraft : locate world.workingDir path ≠ locate world.workingDir (draft (menu.entryPath fallback))) :
    Stands path contents after := by
  refine stands.spared spares (not_or.2 ⟨notEntry, notDraft⟩)
    (spares_beside leads spares (not_or.2 ⟨?_, fun same => ?_⟩))
  · exact (menu.place_ne_draft world fallback path).symm
  · exact notEntry (locate_of_draft same)

/-- Once the fallback has been seen to it is as the books say. -/
theorem FallbackEnded.inLine (ended : FallbackEnded host menu fallback fails world finished after) (done : finished)
    (legible : menu.templates.Legible) (sound : world.tree.Sound) (steady : ReadsSteadily host menu fails)
    {root dir : Location} (leadsRoot : world.tree.Leads world.workingDir host.store.root root)
    (leads : world.tree.Leads world.workingDir menu.entriesDir dir) : FallbackInLine host menu fallback after := by
  -- No directory is made, so that a record that is not there is still not there.
  have record : after.tree.readAs after.workingDir (host.store.recordFile fallback) =
      world.tree.readAs world.workingDir (host.store.recordFile fallback) := by
    have spares := ended.spares sound
    have same := spares_beside leads spares (not_involved_book host.store.root (Host.isName_recordFile fallback)
      (Host.json_recordFile fallback))
    rw [locate_join (Host.isName_recordFile fallback), ← leadsRoot.eq_locate] at same
    rw [spares.workingDir]
    exact leadsRoot.readAs_eq (leadsRoot.mono spares.kept) (Host.isName_recordFile fallback) same
  have entrySteady (moment : World) := (steady fallback moment).2
  have recorded {found : Except Failure (Option Digest)} {now : World}
      (sees : Sees fails (host.store.recordFile fallback) (host.hashIn fallback) world found now) :
      host.hashIn fallback (after.tree.readAs after.workingDir (host.store.recordFile fallback)) = found := by
    rw [record]
    exact (sees.steady fun moment => (steady fallback moment).1).symm
  cases ended with
  | unread _ undone => exact (undone done).elim
  | unrecorded sees disabled =>
    refine .unrecorded (recorded sees) ?_
    cases disabled with
    | missing absent _ tree workingDir => exact .inl (by rw [tree, workingDir, absent])
    | passedOver sees kept _ => exact .inr (by rw [sees.tree, sees.workingDir, ← sees.steady entrySteady, kept])
    | rewritten _ _ _ entry =>
      refine .inr ?_
      rw [(entry.done done).stands.readAs, entryFrom_entryBytes legible ⟨fallback, _, menu.tries, 0⟩]
      rfl
  | kept sees entry same _ =>
    refine .shown (recorded sees) ?_
    rw [entry.tree, entry.workingDir, ← entry.steady entrySteady, same]
  | rewritten sees _ _ written =>
    refine .shown (recorded sees) ?_
    rw [(written.done done).stands.readAs, entryFrom_entryBytes legible ⟨fallback, _, menu.tries, menu.tries⟩]
    rfl

/-- After a refresh that succeeded the menu is as the books say. -/
theorem RefreshEnded.inLine (ended : RefreshEnded host menu fails world finished after) (done : finished)
    (legible : menu.templates.Legible) (distinct : menu.Distinct host world.workingDir)
    (beside : ∀ slot, ¬ Passes world.workingDir menu.loaderFile.directory
      (locate world.workingDir (draft (menu.entryPath slot))))
    (steady : ReadsSteadily host menu fails) : ∃ state rootHash, InLine host menu state rootHash after := by
  cases ended with
  | unread _ _ undone => exact (undone done).elim
  | stopped _ _ undone => exact (undone done).elim
  | @further state rootHash middle reads recorded written fallback =>
    have grows := written.grows
    have workingDir := grows.workingDir
    obtain ⟨entry, loader⟩ := written.stands trivial distinct (beside state.activeSlot)
    obtain ⟨root, leadsRoot⟩ := Host.leads_root reads
    have leads := leads_of_stands entry
    have spares := fallback.spares written.sound
    have later := spares.grows fun _ => id
    have books {name : String} (isName : IsName name) (json : name.toList.getLast? = some 'n')
        (apart : locate world.workingDir menu.loaderFile ≠ locate world.workingDir (host.store.root.join name))
        {bytes : Bytes} (read : world.tree.readAs world.workingDir (host.store.root.join name) = .ok (some bytes)) :
        after.tree.readAs after.workingDir (host.store.root.join name) = .ok (some bytes) :=
      later.readAs isName (not_involved_book _ isName json)
        (grows.readAs isName (not_written_book isName json apart) read)
    obtain ⟨stateBytes, stateRead⟩ := Host.exists_bytes_of_stateIn reads
    obtain ⟨hashBytes, hashRead⟩ := Host.exists_bytes_of_hashIn recorded
    refine ⟨state, rootHash, ?_, ?_, ?_, ?_, ?_⟩
    · have same : after.tree.readAs after.workingDir host.store.bootStateFile = .ok (some stateBytes) :=
        books (by decide) (by decide) distinct.state stateRead
      rw [same, ← stateRead]
      exact reads
    · have same : after.tree.readAs after.workingDir (host.store.recordFile state.activeSlot) = .ok (some hashBytes) :=
        books (Host.isName_recordFile _) (Host.json_recordFile _) (distinct.record _) hashRead
      rw [same, ← hashRead]
      exact recorded
    · exact stands_beside_fallback entry leads spares (place_ne_place state.activeSlot.other_ne.symm)
        (menu.place_ne_draft middle state.activeSlot _)
    · refine stands_beside_fallback loader leads spares ?_ ?_
      · rw [place_congr workingDir, workingDir]
        exact distinct.entry _
      · rw [workingDir]
        exact distinct.draft _
    · exact fallback.inLine done legible written.sound steady (grows.leads leadsRoot) leads

/-- Nothing is done about a fallback that is as the books say. -/
theorem FallbackEnded.idle (ended : FallbackEnded host menu fallback fails world finished after)
    (inLine : FallbackInLine host menu fallback world) (steady : ReadsSteadily host menu fails) :
    finished ∧ after.tree = world.tree ∧ after.workingDir = world.workingDir := by
  have recordSteady (moment : World) := (steady fallback moment).1
  have entrySteady (moment : World) := (steady fallback moment).2
  cases ended with
  | unread sees _ =>
    have error := sees.steady recordSteady
    cases inLine with
    | unrecorded none _ => cases error.trans none
    | shown recorded _ => cases error.trans recorded
  | unrecorded sees disabled =>
    have none := sees.steady recordSteady
    cases inLine with
    | unrecorded _ untried => exact disabled.idle entrySteady untried
    | shown recorded _ => cases none.trans recorded
  | kept _ entry _ done => exact ⟨done, entry.tree, entry.workingDir⟩
  | rewritten sees entry differs _ =>
    have some := sees.steady recordSteady
    cases inLine with
    | unrecorded none _ => cases some.trans none
    | shown recorded shown =>
      cases some.trans recorded
      rw [entry.steady entrySteady] at differs
      exact (differs shown).elim

theorem FallbackInLine.unchanged (inLine : FallbackInLine host menu fallback world)
    (unchanged : Unchanged world after) : FallbackInLine host menu fallback after := by
  cases inLine with
  | unrecorded none untried =>
    refine .unrecorded (by rw [unchanged.readAs, none]) ?_
    rwa [Untried, unchanged.kind?, unchanged.readAs]
  | shown recorded shown => exact .shown (by rw [unchanged.readAs, recorded]) (by rw [unchanged.readAs, shown])

def refreshing (menu : BootMenu) (world : World) : Except Failure Unit × World :=
  world.run (menu.refresh.run.translate Host.ordinary.realise)

end BootMenu

end DualSlot
