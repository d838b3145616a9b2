import DualSlot.Proofs.ProtocolEffects
import DualSlot.Proofs.Runs

/-! Slots can be trusted along every run: nobody writes to a slot that the loader or the records still
rely on, and a slot's record is always true of its bytes. -/

namespace DualSlot

/-- A record that can be read is that of an image at the beginning of its slot. -/
def Storage.Truthful (storage : Storage) (hash : Bytes → Digest) : Prop :=
  ∀ slot rootHash, storage.rootHash? slot = some rootHash →
    HashTree.IsRootWithin hash rootHash (storage.bytes slot)

/-- Nothing relies on the bytes of a slot. -/
structure Updater.Unused (updater : Updater) (storage : Storage) (slot : Slot) : Prop where
  passive : storage.active? = some slot.other
  unrecorded : storage.record slot = none
  masked : updater.menu.Masked storage slot

variable {updater : Updater} {faults : Faults} {target? : Option Slot} {before after : Storage}

theorem Storage.Truthful.congr {hash : Bytes → Digest} (truthful : before.Truthful hash)
    (record : after.record = before.record) (bytes : after.bytes = before.bytes) :
    after.Truthful hash := by
  intro slot rootHash known
  rw [Storage.rootHash?, record] at known
  rw [bytes]
  exact truthful slot rootHash known

theorem Storage.Truthful.setRecord {hash : Bytes → Digest} (truthful : before.Truthful hash) {slot : Slot}
    {record : Option SlotRecord}
    (holds : ∀ rootHash, record.bind SlotRecord.digest? = some rootHash →
      HashTree.IsRootWithin hash rootHash (before.bytes slot)) :
    (before.setRecord slot record).Truthful hash := by
  intro other rootHash known
  obtain rfl | different := eq_or_ne other slot
  · refine holds rootHash ?_
    rw [← known, Storage.rootHash?, Storage.record_setRecord_self]
  · refine truthful other rootHash ?_
    rw [← known, Storage.rootHash?, Storage.rootHash?, Storage.record_setRecord_of_ne different]

/-- Bytes of a slot without a record are not spoken of. -/
theorem Storage.Truthful.setBytes {hash : Bytes → Digest} (truthful : before.Truthful hash) {slot : Slot}
    (unrecorded : before.record slot = none) (bytes : Bytes) :
    (before.setBytes slot bytes).Truthful hash := by
  intro other rootHash known
  obtain rfl | different := eq_or_ne other slot
  · rw [Storage.rootHash?, show (before.setBytes other bytes).record other = none from unrecorded] at known
    cases known
  · rw [Storage.bytes_setBytes_of_ne different]
    exact truthful other rootHash known

/-- A permitted request writes only to a slot that nothing relies on. -/
theorem Updater.Effect.unused {slot : Slot} (effect : updater.Effect faults target? before after)
    (changed : after.bytes slot ≠ before.bytes slot) : updater.Unused before slot := by
  cases effect with
  | staged beside => exact absurd (congrFun beside.bytes slot) changed
  | replaced _ only _ => exact absurd (congrFun only.bytes slot) changed
  | stored permitted same =>
    cases permitted with
    | quiet quiet =>
      rw [same, StoreRequest.carriedOut_quiet quiet] at changed
      exact absurd rfl changed
    | clear | record | activate | reactivate | count | remember =>
      rw [same] at changed
      exact absurd rfl changed
  | @written target _ _ permitted same =>
    cases permitted with
    | quiet quiet => exact quiet.elim
    | write aimed passive masked unrecorded =>
      obtain rfl | different := eq_or_ne slot target
      · exact ⟨passive, unrecorded, masked⟩
      · rw [same] at changed
        exact absurd (Storage.bytes_setBytes_of_ne different _ _) changed

theorem Updater.Effect.truthful (honest : faults.Honest)
    (effect : updater.Effect faults target? before after) (truthful : before.Truthful updater.hash) :
    after.Truthful updater.hash := by
  cases effect with
  | staged beside => exact truthful.congr beside.record beside.bytes
  | replaced _ only _ => exact truthful.congr only.record only.bytes
  | stored permitted same =>
    rw [same]
    cases permitted with
    | quiet quiet =>
      rw [StoreRequest.carriedOut_quiet quiet]
      exact truthful
    | clear => exact truthful.setRecord fun _ impossible => by cases impossible
    | @record slot rootHash time aimed passive reads =>
      refine truthful.setRecord fun found known => ?_
      rw [Option.bind_some, SlotRecord.digest?_hex] at known
      obtain rfl := Option.some_inj.1 known
      exact reads.isRootWithin honest
    | activate | reactivate | count | remember => exact truthful.congr rfl rfl
  | written permitted same =>
    rw [same]
    cases permitted with
    | quiet quiet => exact quiet.elim
    | write aimed passive masked unrecorded => exact truthful.setBytes unrecorded _

/-- Whatever operations run on a machine whose records are true, and wherever they fail or stop: a slot
is written to only while it is not active, has no record, and is passed over by the loader, and
every record is true of its slot at every point. -/
theorem run_trustworthy {start : Machine} {events : List Event} {configuration : Configuration}
    (honest : faults.Honest) (truthful : start.storage.Truthful updater.hash)
    (run : Run updater faults start events configuration) :
    (∀ event ∈ events, ∀ slot, event.after.bytes slot ≠ event.before.bytes slot →
      event.before.active? = some slot.other ∧ event.before.record slot = none ∧
      (updater.menu.templates.Legible → event.before.files (updater.menu.entryPath slot) = none ∨
        ∃ entry, updater.menu.entryIn event.before slot = some entry ∧ entry.triesLeft = 0)) ∧
    configuration.machine.storage.Truthful updater.hash := by
  have kept := run.invariant (fun events storage =>
    (∀ event ∈ events, ∀ slot, event.after.bytes slot ≠ event.before.bytes slot →
      updater.Unused event.before slot) ∧ storage.Truthful updater.hash)
    ⟨fun _ impossible => (List.not_mem_nil impossible).elim, truthful⟩ ?_
  · refine ⟨fun event happened slot changed => ?_, kept.2⟩
    have unused := kept.1 event happened slot changed
    exact ⟨unused.passive, unused.unrecorded, unused.masked.passedOver⟩
  · rintro earlier target? action before reply after permitted answer ⟨safe, truthful⟩
    have effect := permitted.effect answer
    refine ⟨fun event happened slot changed => ?_, effect.truthful honest truthful⟩
    obtain happened | last := List.mem_append.1 happened
    · exact safe event happened slot changed
    · obtain rfl := List.mem_singleton.1 last
      exact effect.unused changed

/-- A machine that runs a recorded slot, while an update is about to write to the other one. -/
theorem run_trustworthy_writing :
    ∃ events configuration,
      Run .small Temper.obliging.faults (.running .a) events configuration ∧
      configuration.machine.storage.Truthful Updater.small.hash := by
  have begun : Run .small Temper.obliging.faults (.running .a) [] _ :=
    Run.start.begins (.update (.directory ⟨"/d"⟩) "i")
  obtain ⟨events, run⟩ := begun.upTo Action.overwrites
  refine ⟨events, _, run, (run_trustworthy (Temper.honest _) ?_ run).2⟩
  refine Storage.Truthful.setRecord (fun _ _ impossible => by cases impossible) fun rootHash known => ?_
  rw [Option.bind_some, SlotRecord.digest?_hex] at known
  obtain rfl := Option.some_inj.1 known
  exact Updater.small_isRootWithin _

end DualSlot
