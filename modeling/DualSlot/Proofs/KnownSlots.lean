import DualSlot.Proofs.ProtocolEffects
import DualSlot.Proofs.Runs

/-! The contents of the active slot are known along every life of a machine, from an empty store on:
whatever is run on it, and wherever it fails or stops, no slot is active without a record that can be
read. -/

namespace DualSlot

/-- The active slot, where there is one, has a record that can be read. -/
def Storage.KnowsActive (storage : Storage) : Prop :=
  ∀ slot, storage.active? = some slot → (storage.rootHash? slot).isSome

/-- What may be asked of the books so that the active slot stays known. -/
def Storage.Admits (storage : Storage) : Action → Prop
  | .store (.writeBootState state) =>
    storage.active? = some state.activeSlot ∨ (storage.rootHash? state.activeSlot).isSome
  | .store (.writeRecord record) => record.digest?.isSome
  | .store (.clearRecord slot) => storage.active? ≠ some slot
  | _ => True

theorem Storage.admits_quiet {action : Action} (storage : Storage) (quiet : action.Quiet) :
    storage.Admits action := by
  cases action with
  | store request =>
    cases request with
    | writeBootState _ | writeRecord _ | clearRecord _ => exact quiet.elim
    | readBootState | readRecord _ | appendHistory _ | readHistory | lock | unlock _ => trivial
  | _ => trivial

/-- Only what keeps the active slot known is asked of the books. -/
def Discipline.prudent : Discipline := ⟨fun action storage => storage.Admits action,
  fun _ storage quiet => storage.admits_quiet quiet⟩

namespace Storage.KnowsActive

variable {before after : Storage}

theorem congr (knows : before.KnowsActive) (bootState : after.bootState = before.bootState)
    (record : after.record = before.record) : after.KnowsActive := by
  intro slot active
  rw [active?, bootState] at active
  rw [rootHash?, record]
  exact knows slot active

theorem setBootState (knows : before.KnowsActive) {state : BootState}
    (admitted : before.Admits (.store (.writeBootState state))) :
    (before.setBootState state).KnowsActive := by
  rintro _ ⟨⟩
  exact admitted.elim (knows _) id

theorem setRecord (knows : before.KnowsActive) {slot : Slot} {record : Option SlotRecord}
    (harmless : before.active? = some slot → (record.bind SlotRecord.digest?).isSome) :
    (before.setRecord slot record).KnowsActive := by
  intro active isActive
  obtain rfl | different := eq_or_ne active slot
  · rw [rootHash?, record_setRecord_self]
    exact harmless isActive
  · rw [rootHash?, record_setRecord_of_ne different]
    exact knows active isActive

theorem carriedOut (knows : before.KnowsActive) {request : StoreRequest}
    (admitted : before.Admits (.store request)) : (request.carriedOut before).KnowsActive := by
  cases request with
  | writeBootState state => exact knows.setBootState admitted
  | writeRecord record => exact knows.setRecord fun _ => admitted
  | clearRecord slot => exact knows.setRecord fun active => absurd active admitted
  | readBootState | readRecord _ | appendHistory _ | readHistory | lock | unlock _ =>
    exact knows.congr rfl rfl

/-- No reply to what is admitted makes an unknown slot active, a failure as little as a success. -/
theorem step {faults : Faults} {action : Action} {before after : Machine} {reply : action.Reply}
    (knows : before.storage.KnowsActive) (admitted : before.storage.Admits action)
    (answer : Machine.answers faults action before reply after) : after.storage.KnowsActive := by
  have change := Action.Change.of_answer answer
  generalize after.storage = later at change ⊢
  cases change with
  | nothing => exact knows
  | stored => exact knows.carriedOut admitted
  | staged | written => exact knows.congr rfl rfl
  | replaced only _ => exact knows.congr only.bootState only.record

end Storage.KnowsActive

/-- Every permitted request is admitted: only the slot that is not active is cleared, and only a slot with
a record is made active. -/
theorem Updater.Permitted.admitted {updater : Updater} {faults : Faults} {target? : Option Slot}
    {storage : Storage} {action : Action}
    (permitted : updater.Permitted faults target? storage action) : storage.Admits action := by
  cases permitted with
  | quiet quiet => exact storage.admits_quiet quiet
  | @clear slot _ passive _ =>
    intro active
    exact slot.other_ne (Option.some_inj.1 (passive.symm.trans active))
  | @record slot rootHash time _ _ _ =>
    exact Option.isSome_of_eq_some (SlotRecord.digest?_hex slot rootHash time)
  | activate _ _ known _ => exact .inr (known ▸ rfl)
  | reactivate _ _ known => exact .inr known
  | count _ same => exact .inl same
  | _ => trivial

/-- What may be run on a machine, set up or not. -/
inductive Activity where
  | provision (active : Slot) (rootHash : String) (force : Bool)
  | operate (operation : Operation)
  deriving DecidableEq, Repr

/-- The activity for its effects, whatever its result is. -/
def Activity.program (updater : Updater) : Activity → Acting Unit
  | provision active rootHash force => do
    let _ ← (updater.provision active rootHash force).run
  | operate operation => operation.program updater

/-- A slot that is provisioned has its record before it is active. -/
theorem Updater.provision_prudent (faults : Faults) (updater : Updater) {active : Slot}
    {rootHash : String} {force : Bool} {machine : Machine} :
    Task.Safe faults .prudent (fun _ _ => True) (updater.provision active rootHash force) machine := by
  refine Session.safe_alone (fun _ _ _ _ _ => trivial) (fun _ => trivial) fun held _ => ?_
  refine Task.Safe.bind (Slots.safe_provision ?_ ?_) (fun _ _ _ => trivial) fun _ _ _ => ?_
  · intro digest time
    exact Option.isSome_of_eq_some (SlotRecord.digest?_hex active digest time)
  · intro digest time
    refine Or.inr ?_
    rw [Storage.rootHash?, Storage.record_setRecord_self, Option.bind_some, SlotRecord.digest?_hex]
    rfl
  · refine Task.Safe.bind (Program.Safe.mono safe_refresh_untargeted
      (fun _ _ permitted => permitted.admitted) fun _ _ _ => trivial) (fun _ _ _ => trivial)
      fun _ _ _ => .done trivial

theorem Activity.prudent (faults : Faults) (updater : Updater) (activity : Activity)
    (machine : Machine) :
    Acting.Safe faults .prudent (fun _ _ => True) (activity.program updater) machine := by
  cases activity with
  | provision active rootHash force =>
    exact Program.Safe.bind (updater.provision_prudent faults) fun _ _ _ => .done trivial
  | operate operation =>
    obtain ⟨target?, safe⟩ := operation.safe faults updater machine
    exact Program.Safe.mono safe (fun _ _ permitted => permitted.admitted) fun _ _ _ => trivial

/-- Where a machine may be after any activities, each by an updater of its own, of which any may fail and
any may stop after any of its steps. -/
inductive Life (faults : Faults) (start : Machine) : Configuration → Prop where
  | start : Life faults start ⟨start, none⟩
  | begins {machine} (updater : Updater) (activity : Activity)
      (earlier : Life faults start ⟨machine, none⟩) :
      Life faults start ⟨machine, some (activity.program updater)⟩
  | acts {before action next reply after}
      (earlier : Life faults start ⟨before, some (.ask action next)⟩)
      (answer : Machine.answers faults action before reply after) :
      Life faults start ⟨after, some (next reply)⟩
  | ends {machine} (earlier : Life faults start ⟨machine, some (.done ())⟩) :
      Life faults start ⟨machine, none⟩
  /-- The machine loses power, or the program dies, at any point. -/
  | stops {machine left?} (earlier : Life faults start ⟨machine, left?⟩) :
      Life faults start ⟨machine.restarted, none⟩

namespace Life

variable {faults : Faults} {start : Machine} {configuration : Configuration}

theorem prudent (life : Life faults start configuration) :
    ∀ program ∈ configuration.left?,
      Acting.Safe faults .prudent (fun _ _ => True) program configuration.machine := by
  induction life with
  | start | ends _ _ | stops _ _ => exact fun _ impossible => by cases impossible
  | begins updater activity _ _ =>
    rintro _ ⟨⟩
    exact activity.prudent faults updater _
  | acts _ answer ih =>
    rintro _ ⟨⟩
    cases ih _ rfl with
    | ask allowed later => exact later _ _ answer

theorem knowsActive (initial : start.storage.KnowsActive) (life : Life faults start configuration) :
    configuration.machine.storage.KnowsActive := by
  induction life with
  | start => exact initial
  | begins _ _ _ ih | ends _ ih | stops _ ih => exact ih
  | acts earlier answer ih =>
    cases earlier.prudent _ rfl with
    | ask admitted _ => exact ih.step admitted answer

/-- What is left of the activity that runs when it gets to a request on such a machine. -/
theorem upTo {temper : Temper} {machine : Machine} {program : Acting Unit}
    (life : Life temper.faults start ⟨machine, some program⟩) (stops : Action → Bool) :
    Life temper.faults start ⟨(program.upTo temper.answer stops machine).2,
      some (program.upTo temper.answer stops machine).1⟩ := by
  induction program generalizing machine with
  | done value => exact life
  | ask action next ih =>
    rw [Program.upTo]
    split
    · exact life
    · exact ih _ (life.acts (temper.sound action machine))

end Life

/-- Whatever is run on a machine whose store was empty, and wherever they fail or stop: while there
is a boot state, its active slot has a record whose hash can be read. -/
theorem life_active_recorded {faults : Faults} {start : Machine} {configuration : Configuration}
    (empty : start.storage.bootState = none) (life : Life faults start configuration)
    {state : BootState} (persisted : configuration.machine.storage.bootState = some state) :
    ∃ record digest, configuration.machine.storage.record state.activeSlot = some record ∧
      Digest.parse record.rootHash = .ok digest := by
  have initial : start.storage.KnowsActive := by
    intro slot active
    rw [Storage.active?, empty] at active
    cases active
  have known : (configuration.machine.storage.rootHash? state.activeSlot).isSome :=
    life.knowsActive initial _ (congrArg (Option.map BootState.activeSlot) persisted)
  obtain ⟨digest, found⟩ := Option.isSome_iff_exists.1 known
  obtain ⟨record, recorded, read⟩ := Option.bind_eq_some_iff.1 found
  exact ⟨record, digest, recorded, Digest.parse?_eq_some.1 read⟩

/-- A machine after it was provisioned with slot A. -/
private def provisioned : Machine :=
  (((Activity.provision .a Digest.zero.hex false).program .small).upTo Temper.obliging.answer
    (fun _ => false) Machine.blank).2

/-- It is provisioned anew with slot B and has yet to write the boot state. -/
private def reprovisioned : Acting Unit × Machine :=
  ((Activity.provision .b Digest.zero.hex true).program .small).upTo Temper.obliging.answer
    Action.activates provisioned.restarted

private theorem reprovisioned_bootState :
    reprovisioned.2.storage.bootState = some ⟨.a, 3⟩ := by
  decide +kernel

/-- A machine is provisioned with slot A, then with slot B, and loses power before slot B is active. -/
theorem life_active_recorded_reprovisioned :
    ∃ machine record digest,
      Life Temper.obliging.faults Machine.blank ⟨machine, none⟩ ∧
      machine.storage.bootState = some ⟨.a, 3⟩ ∧
      machine.storage.record .a = some record ∧ Digest.parse record.rootHash = .ok digest := by
  have first : Life Temper.obliging.faults Machine.blank ⟨provisioned, some _⟩ :=
    (Life.start.begins .small (.provision .a Digest.zero.hex false)).upTo fun _ => false
  have second : Life Temper.obliging.faults Machine.blank ⟨reprovisioned.2, some reprovisioned.1⟩ :=
    (first.stops.begins .small (.provision .b Digest.zero.hex true)).upTo Action.activates
  obtain ⟨record, digest, recorded, parsed⟩ :=
    life_active_recorded rfl second.stops reprovisioned_bootState
  exact ⟨_, record, digest, second.stops, reprovisioned_bootState, recorded, parsed⟩

end DualSlot
