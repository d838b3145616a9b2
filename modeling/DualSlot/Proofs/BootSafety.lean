import DualSlot.Proofs.ProtocolEffects
import DualSlot.Proofs.UpdateOutcome

/-! A single update leaves the machine bootable at every point. Until the new slot is active its entry
and the default are left to the old one; then its entry is written, and only then the default. -/

namespace DualSlot

namespace Updater

/-- The loader's default is a slot with tries left whose bytes have the root hash of its entry. -/
def Bootable (updater : Updater) (storage : Storage) : Prop :=
  ∃ slot entry, updater.menu.defaultIn storage = some slot ∧
    updater.menu.entryIn storage slot = some entry ∧ 0 < entry.triesLeft ∧
    HashTree.IsRootWithin updater.hash entry.rootHash (storage.bytes slot)

/-- The machine runs a slot that it would boot again: the default names it, and its entry has tries left
and the root hash that is on record and true of its bytes. -/
structure Settled (updater : Updater) (storage : Storage) (current : Slot) (entry : BootEntry) :
    Prop where
  active : storage.active? = some current
  default : updater.menu.defaultIn storage = some current
  shown : updater.menu.entryIn storage current = some entry
  tries : 0 < entry.triesLeft
  known : storage.rootHash? current = some entry.rootHash
  holds : HashTree.IsRootWithin updater.hash entry.rootHash (storage.bytes current)

/-- How far the switch to another slot has come. -/
inductive Switching (updater : Updater) (current : Slot) (storage : Storage) : Prop where
  | before (active : storage.active? = some current)
      (default : updater.menu.defaultIn storage = some current)
  | committed {count : UInt32} {rootHash : Digest}
      (active : storage.bootState = some ⟨current.other, count⟩) (tries : 0 < count)
      (known : storage.rootHash? current.other = some rootHash)
      (holds : HashTree.IsRootWithin updater.hash rootHash (storage.bytes current.other))
      (default : updater.menu.defaultIn storage = some current ∨
        updater.menu.defaultIn storage = some current.other ∧
          storage.files (updater.menu.entryPath current.other) =
            some (updater.menu.entryBytes ⟨current.other, rootHash, updater.menu.tries, count⟩))

/-- What belongs to the slot that runs is as it was. -/
structure Kept (updater : Updater) (current : Slot) (before after : Storage) : Prop where
  record : after.record current = before.record current
  bytes : after.bytes current = before.bytes current
  entry : after.files (updater.menu.entryPath current) = before.files (updater.menu.entryPath current)

variable {updater : Updater} {faults : Faults} {current : Slot} {entry : BootEntry}
  {start before after : Storage}

theorem Kept.trans {middle : Storage} (first : updater.Kept current before middle)
    (last : updater.Kept current middle after) : updater.Kept current before after :=
  ⟨last.record.trans first.record, last.bytes.trans first.bytes, last.entry.trans first.entry⟩

/-- The switch comes no further while no file of the menu and nothing of the slots changes. -/
theorem Switching.congr (switching : updater.Switching current before)
    (bootState : after.bootState = before.bootState)
    (record : after.record current.other = before.record current.other)
    (bytes : after.bytes current.other = before.bytes current.other)
    (entryKept : after.files (updater.menu.entryPath current.other) =
      before.files (updater.menu.entryPath current.other))
    (loader : after.files updater.menu.loaderFile = before.files updater.menu.loaderFile) :
    updater.Switching current after := by
  cases switching with
  | before active default =>
    refine .before ?_ ((updater.menu.defaultIn_congr loader).trans default)
    rw [Storage.active?, bootState]
    exact active
  | committed active tries known holds default =>
    refine .committed (bootState.trans active) tries ?_ (bytes ▸ holds) ?_
    · rw [Storage.rootHash?, record]
      exact known
    · rw [updater.menu.defaultIn_congr loader, entryKept]
      exact default

theorem Switching.bootable (switching : updater.Switching current after)
    (legible : updater.menu.templates.Legible) (settled : updater.Settled start current entry)
    (kept : updater.Kept current start after) : updater.Bootable after := by
  have old (default : updater.menu.defaultIn after = some current) : updater.Bootable after :=
    ⟨current, entry, default, (updater.menu.entryIn_congr kept.entry).trans settled.shown, settled.tries,
      kept.bytes ▸ settled.holds⟩
  cases switching with
  | before _ default => exact old default
  | @committed count rootHash _ tries _ holds default =>
    obtain default | ⟨default, written⟩ := default
    · exact old default
    · exact ⟨current.other, ⟨current.other, rootHash, updater.menu.tries, count⟩, default,
        BootMenu.entryIn_entryBytes ⟨current.other, rootHash, updater.menu.tries, count⟩
          legible written, tries, holds⟩

theorem Switching.default_current (switching : updater.Switching current before)
    (active : before.active? = some current) : updater.menu.defaultIn before = some current := by
  cases switching with
  | before _ default => exact default
  | committed bootState _ _ _ _ =>
    rw [Storage.active?, bootState] at active
    exact absurd (Option.some_inj.1 active) current.other_ne

private theorem kept_of_otherEntry (apart : updater.Apart)
    (only : Storage.OnlyFiles (BootMenu.WrittenWith (updater.menu.entryPath current.other)) before after) :
    updater.Kept current before after := by
  have untouched := apart.entry_entry current.other
  rw [Slot.other_other] at untouched
  exact ⟨congrFun only.record _, congrFun only.bytes _, only.files _ untouched⟩

private theorem switching_of_otherEntry (apart : updater.Apart) (active : before.active? = some current)
    (switching : updater.Switching current before)
    (only : Storage.OnlyFiles (BootMenu.WrittenWith (updater.menu.entryPath current.other)) before after) :
    updater.Kept current before after ∧ updater.Switching current after := by
  refine ⟨kept_of_otherEntry apart only, .before (only.active?.trans active) ?_⟩
  rw [updater.menu.defaultIn_congr (only.files _ (apart.entry_loader _))]
  exact switching.default_current active

private theorem switching_of_otherSlot (active : before.active? = some current)
    (switching : updater.Switching current before)
    (only : Storage.OnlySlot (fun _ => False) current.other before after) :
    updater.Kept current before after ∧ updater.Switching current after := by
  have files (path : Path) : after.files path = before.files path := only.files path id
  refine ⟨⟨?_, ?_, files _⟩, .before (only.active?.trans active) ?_⟩
  · exact current.other_other ▸ only.record
  · exact current.other_other ▸ only.bytes
  · rw [updater.menu.defaultIn_congr (files _)]
    exact switching.default_current active

section Committed

variable {count : UInt32} {rootHash : Digest}

private theorem Switching.of_booted (switching : updater.Switching current before)
    (booted : before.bootState = some ⟨current.other, count⟩)
    (known : before.rootHash? current.other = some rootHash) :
    0 < count ∧ HashTree.IsRootWithin updater.hash rootHash (before.bytes current.other) ∧
      (updater.menu.defaultIn before = some current ∨
        updater.menu.defaultIn before = some current.other ∧
          before.files (updater.menu.entryPath current.other) = some (updater.menu.entryBytes
            ⟨current.other, rootHash, updater.menu.tries, count⟩)) := by
  cases switching with
  | before active _ =>
    rw [Storage.active?, booted] at active
    exact absurd (Option.some_inj.1 active) current.other_ne
  | committed active tries known' holds default =>
    obtain ⟨⟩ := Option.some_inj.1 (booted.symm.trans active)
    obtain rfl := Option.some_inj.1 (known.symm.trans known')
    exact ⟨tries, holds, default⟩

/-- The entry of the slot that became active is written, over nothing or over itself. -/
private theorem switching_of_shownEntry (apart : updater.Apart)
    (booted : before.bootState = some ⟨current.other, count⟩)
    (known : before.rootHash? current.other = some rootHash)
    (switching : updater.Switching current before)
    (only : Storage.OnlyFiles (BootMenu.WrittenWith (updater.menu.entryPath current.other)) before after)
    (found : after.files (updater.menu.entryPath current.other) = some (updater.menu.entryBytes
        ⟨current.other, rootHash, updater.menu.tries, count⟩) ∨
      after.files (updater.menu.entryPath current.other) =
        before.files (updater.menu.entryPath current.other)) :
    updater.Kept current before after ∧ updater.Switching current after := by
  obtain ⟨tries, holds, default⟩ := switching.of_booted booted known
  refine ⟨kept_of_otherEntry apart only, .committed (only.bootState.trans booted) tries
    ((only.rootHash? _).trans known) (only.bytes ▸ holds) ?_⟩
  rw [updater.menu.defaultIn_congr (only.files _ (apart.entry_loader _))]
  exact default.imp_right fun ⟨other, written⟩ => ⟨other, found.elim id fun same => same.trans written⟩

private theorem switching_of_pointed (apart : updater.Apart)
    (booted : before.bootState = some ⟨current.other, count⟩)
    (known : before.rootHash? current.other = some rootHash)
    (written : before.files (updater.menu.entryPath current.other) = some (updater.menu.entryBytes
      ⟨current.other, rootHash, updater.menu.tries, count⟩))
    (switching : updater.Switching current before)
    (only : Storage.OnlyFiles (BootMenu.WrittenWith updater.menu.loaderFile) before after)
    (found : after.files updater.menu.loaderFile = some (updater.menu.loaderBytes current.other) ∨
      after.files updater.menu.loaderFile = before.files updater.menu.loaderFile) :
    updater.Kept current before after ∧ updater.Switching current after := by
  obtain ⟨tries, holds, default⟩ := switching.of_booted booted known
  refine ⟨⟨congrFun only.record _, congrFun only.bytes _, only.files _ (apart.loader_entry _)⟩,
    .committed (only.bootState.trans booted) tries ((only.rootHash? _).trans known)
      (only.bytes ▸ holds) ?_⟩
  have stillWritten := (only.files _ (apart.loader_entry current.other)).trans written
  obtain pointed | same := found
  · exact .inr ⟨BootMenu.defaultIn_loaderBytes pointed, stillWritten⟩
  · rw [updater.menu.defaultIn_congr same]
    exact default.imp_right fun ⟨other, _⟩ => ⟨other, stillWritten⟩

end Committed

private theorem active_of_aimed {slot : Slot} (aimed : some current.other = some slot)
    (passive : before.active? = some slot.other) : before.active? = some current := by
  obtain rfl := Option.some_inj.1 aimed
  exact passive.trans (congrArg some current.other_other)

/-- The books change for the other slot, which becomes active once it is recorded. -/
private theorem switching_of_stored (honest : faults.Honest) (attempts : 0 < updater.maxBootCount)
    {request : StoreRequest}
    (permitted : updater.Permitted faults (some current.other) before (.store request))
    (switching : updater.Switching current before) :
    updater.Kept current before (request.carriedOut before) ∧
      updater.Switching current (request.carriedOut before) := by
  cases permitted with
  | quiet quiet =>
    rw [StoreRequest.carriedOut_quiet quiet]
    exact ⟨⟨rfl, rfl, rfl⟩, switching⟩
  | clear aimed passive _ =>
    have active := active_of_aimed aimed passive
    obtain rfl := Option.some_inj.1 aimed
    exact switching_of_otherSlot active switching (.setRecord ..)
  | record aimed passive _ =>
    have active := active_of_aimed aimed passive
    obtain rfl := Option.some_inj.1 aimed
    exact switching_of_otherSlot active switching (.setRecord ..)
  | activate aimed passive known reads =>
    have default := switching.default_current (active_of_aimed aimed passive)
    obtain rfl := Option.some_inj.1 aimed
    exact ⟨⟨rfl, rfl, rfl⟩, .committed rfl attempts known (reads.isRootWithin honest) (.inl default)⟩
  | reactivate unaimed | count unaimed => cases unaimed
  | remember => exact ⟨⟨rfl, rfl, rfl⟩, switching.congr rfl rfl rfl rfl rfl⟩

/-- A file of the menu is replaced. The entry of the slot that was running stays: it shows the slot's
record, so that it is not stale where it is the fallback's. -/
private theorem switching_of_replaced (apart : updater.Apart)
    (readable : ¬ faults.refuses (.read (updater.menu.entryPath current))) {path : Path} {contents : Bytes}
    (permitted : updater.Permitted faults (some current.other) before (.replace path contents))
    (only : Storage.OnlyFiles (BootMenu.WrittenWith path) before after)
    (found : after.files path = some contents ∨ after.files path = before.files path)
    (recorded : before.rootHash? current = some entry.rootHash)
    (shown : updater.menu.entryIn before current = some entry)
    (switching : updater.Switching current before) :
    updater.Kept current before after ∧ updater.Switching current after := by
  cases permitted with
  | quiet quiet => exact quiet.elim
  | mask aimed passive =>
    have active := active_of_aimed aimed passive
    obtain rfl := Option.some_inj.1 aimed
    exact switching_of_otherEntry apart active switching only
  | @showActive state rootHash booted known aimed =>
    obtain ⟨slot, count⟩ := state
    obtain rfl : current.other = slot := aimed _ rfl
    exact switching_of_shownEntry apart booted known switching only found
  | @point state rootHash booted known aimed written =>
    obtain ⟨slot, count⟩ := state
    obtain rfl : current.other = slot := aimed _ rfl
    exact switching_of_pointed apart booted known written switching only found
  | @showFallback slot rootHash passive known stale =>
    obtain rfl | rfl := slot.eq_or_eq_other current
    · obtain rfl := Option.some_inj.1 (known.symm.trans recorded)
      rw [shown] at stale
      exact (stale.elim (· rfl) readable).elim
    · rw [Slot.other_other] at passive
      exact switching_of_otherEntry apart passive switching only
  | @maskFallback slot rootHash passive unknown =>
    obtain rfl | rfl := slot.eq_or_eq_other current
    · rw [recorded] at unknown
      cases unknown
    · rw [Slot.other_other] at passive
      exact switching_of_otherEntry apart passive switching only

/-- One permitted request of an update keeps what belongs to the slot that runs, and takes the switch at
most one step further. -/
theorem Effect.switching (apart : updater.Apart) (honest : faults.Honest)
    (attempts : 0 < updater.maxBootCount)
    (readable : ¬ faults.refuses (.read (updater.menu.entryPath current)))
    (effect : updater.Effect faults (some current.other) before after)
    (recorded : before.rootHash? current = some entry.rootHash)
    (shown : updater.menu.entryIn before current = some entry)
    (switching : updater.Switching current before) :
    updater.Kept current before after ∧ updater.Switching current after := by
  cases effect with
  | staged beside =>
    exact ⟨⟨congrFun beside.record _, congrFun beside.bytes _, beside.files _ (apart.staged_entry _)⟩,
      switching.congr beside.bootState (congrFun beside.record _) (congrFun beside.bytes _)
        (beside.files _ (apart.staged_entry _)) (beside.files _ apart.staged_loader)⟩
  | written permitted changed =>
    cases permitted with
    | quiet quiet => exact quiet.elim
    | write aimed passive _ _ =>
      have active := active_of_aimed aimed passive
      obtain rfl := Option.some_inj.1 aimed
      exact switching_of_otherSlot active switching (changed ▸ .setBytes ..)
  | stored permitted changed =>
    rw [changed]
    exact switching_of_stored honest attempts permitted switching
  | replaced permitted only found =>
    exact switching_of_replaced apart readable permitted only found recorded shown switching

/-- Wherever an update of a settled machine is, or stopped, whatever it was given and whatever write failed:
the loader's default is a slot with tries left whose bytes have the root hash of its entry, and the
entry of the slot that was running is as it was, if only it can be read. -/
theorem update_keeps_bootable (apart : updater.Apart) (legible : updater.menu.templates.Legible)
    (honest : faults.Honest) (attempts : 0 < updater.maxBootCount)
    (readable : ¬ faults.refuses (.read (updater.menu.entryPath current)))
    {machine final : Machine} (settled : updater.Settled machine.storage current entry)
    {source : Source} {image : String} {rest : Acting (Except UpdateFailure UpdateReport)}
    (reached : Program.Reaches (Machine.answers faults) (updater.update source image).run machine
      rest final) :
    updater.Bootable final.storage ∧ final.storage.files (updater.menu.entryPath current) =
      machine.storage.files (updater.menu.entryPath current) := by
  have aimed : ∀ active, machine.storage.active? = some active → active = current.other.other := by
    intro active isActive
    rw [Slot.other_other]
    exact Option.some_inj.1 (isActive.symm.trans settled.active)
  have switched : updater.Kept current machine.storage final.storage ∧
      updater.Switching current final.storage := by
    refine Program.Safe.invariant (fun after : Machine =>
      updater.Kept current machine.storage after.storage ∧ updater.Switching current after.storage)
      (safe_update aimed) ?_ reached
      ⟨⟨rfl, rfl, rfl⟩, .before settled.active settled.default⟩
    rintro action before reply after allowed ⟨kept, switching⟩ answer
    have recorded : before.storage.rootHash? current = some entry.rootHash := by
      rw [Storage.rootHash?, kept.record]
      exact settled.known
    have shown : updater.menu.entryIn before.storage current = some entry :=
      (updater.menu.entryIn_congr kept.entry).trans settled.shown
    obtain ⟨next, switched⟩ := (Permitted.effect allowed answer).switching apart honest attempts readable
      recorded shown switching
    exact ⟨kept.trans next, switched⟩
  exact ⟨switched.2.bootable legible settled switched.1, switched.1.entry⟩

/-- A machine that runs slot A, which its loader shows. -/
def restingMachine : Machine :=
  (Machine.running .a).put
    (((Machine.running .a).storage.setFile (small.menu.entryPath .a)
        (some (small.menu.entryBytes ⟨.a, .zero, 3, 3⟩))).setFile
      small.menu.loaderFile (some (small.menu.loaderBytes .a)))

private theorem restingMachine_entry :
    restingMachine.storage.files (small.menu.entryPath .a) =
      some (small.menu.entryBytes ⟨.a, .zero, 3, 3⟩) := by
  have apart : small.menu.entryPath .a ≠ small.menu.loaderFile := by decide
  simp [restingMachine, Machine.put, Storage.setFile, apart]

private theorem restingMachine_settled : small.Settled restingMachine.storage .a ⟨.a, .zero, 3, 3⟩ where
  active := rfl
  default := BootMenu.defaultIn_loaderBytes (by simp [restingMachine, Machine.put, Storage.setFile])
  shown := BootMenu.entryIn_entryBytes ⟨.a, .zero, 3, 3⟩ small_plain.legible restingMachine_entry
  tries := by decide
  known := SlotRecord.digest?_hex .a .zero 0
  holds := small_isRootWithin _

/-- An update of it up to where it would point the loader at slot B. -/
theorem update_keeps_bootable_pointing :
    ∃ rest final,
      Program.Reaches (Machine.answers Temper.obliging.faults)
        (small.update (.directory ⟨"/d"⟩) "i").run restingMachine rest final ∧
      small.Bootable final.storage ∧
      final.storage.files (small.menu.entryPath .a) =
        some (small.menu.entryBytes ⟨.a, .zero, 3, 3⟩) := by
  have reached := Program.reaches_upTo Temper.obliging.sound
    (Action.replaces small.menu.loaderFile) (small.update (.directory ⟨"/d"⟩) "i").run restingMachine
  have readable : ¬ Temper.obliging.faults.refuses (.read (small.menu.entryPath .a)) := by
    rintro (refused | ⟨dir, impossible⟩)
    · cases refused
    · cases impossible
  obtain ⟨bootable, kept⟩ := update_keeps_bootable small_apart small_plain.legible (Temper.honest _)
    (by decide) readable restingMachine_settled reached
  exact ⟨_, _, reached, bootable, kept.trans restingMachine_entry⟩

end Updater

end DualSlot
