import DualSlot.Proofs.UpdateOutcome

/-! Runs of a machine: operations follow each other in any order, and any of them may end anywhere, with
an error or with a loss of power. Every operation keeps to the protocol, so a property of what
persists holds along every run if it survives each permitted request. -/

namespace DualSlot

/-- What may be run on a machine that was set up. -/
inductive Operation where
  | update (source : Source) (image : String)
  | verify (source : Source) (image : String)
  | rollback
  | confirm
  | bootAttempt
  deriving DecidableEq, Repr

/-- The operation for its effects, whatever its result is. -/
def Operation.program (updater : Updater) : Operation → Acting Unit
  | update source image => do let _ ← (updater.update source image).run
  | verify source image => do let _ ← (updater.verify source image).run
  | rollback => do let _ ← updater.rollback.run
  | confirm => do let _ ← updater.confirm.run
  | bootAttempt => do let _ ← updater.bootAttempt.run

namespace Updater

variable {faults : Faults} {updater : Updater} {machine : Machine}

theorem safe_verify {source : Source} {image : String} :
    Task.Safe faults (updater.protocol faults none) (fun _ _ => True) (updater.verify source image)
      machine := by
  refine Program.Safe.weaken (safe_withVerified (fun _ _ => True) machine.storage
    (updater.protocol_stages faults none) (fun _ _ _ _ _ _ _ => trivial) (fun _ _ _ _ _ => trivial) ?_
    (.of_eq rfl)) fun _ _ _ => trivial
  intro artifact tree checked _
  refine safe_toward (fun _ => True) (fun _ _ _ => trivial) ?_
  cases artifact.checksum with
  | error cause => exact .done trivial
  | ok checksum => exact .done trivial

theorem safe_rollback :
    Task.Safe faults (updater.protocol faults none) (fun _ _ => True) updater.rollback machine := by
  refine Session.safe_alone (fun _ _ _ _ _ => trivial) (fun _ => trivial) fun held _ => ?_
  refine Task.Safe.bind Slots.safe_active (fun _ _ _ => trivial) ?_
  rintro previous _ ⟨rfl, active⟩
  refine Task.Safe.bind Slots.safe_record? (fun _ _ _ => trivial) ?_
  rintro found after ⟨rfl, -⟩
  cases found with
  | none => exact .done trivial
  | some record =>
    have passive : after.storage.active? = some previous.other.other := by
      rw [Slot.other_other]
      exact active
    refine Task.Safe.bind (Slots.safe_commitAs (fun known => .reactivate rfl passive known)
      fun _ => .remember) (fun _ _ _ => trivial) fun _ committed _ => ?_
    refine Task.Safe.bind safe_refresh_untargeted (fun _ _ _ => trivial) fun _ _ _ => ?_
    exact Task.safe_log_bind (.done trivial)

/-- Refreshing the menu after the boot attempts of the active slot were written. -/
private theorem safe_counted {task : Task Failure BootState} {rest : BootState → Task Failure BootState}
    (counted : ∀ held : Machine, Task.Safe faults (updater.protocol faults none)
      (Slots.Counted held.storage) task held)
    (restSafe : ∀ state after, Task.Safe faults (updater.protocol faults none) (fun _ _ => True)
      (rest state) after) :
    Task.Safe faults (updater.protocol faults none) (fun _ _ => True)
      (Session.alone do
        let state ← task
        updater.menu.refresh
        rest state) machine := by
  refine Session.safe_alone (fun _ _ _ _ _ => trivial) (fun _ => trivial) fun held _ => ?_
  refine Task.Safe.bind (counted held) (fun _ _ _ => trivial) fun state written _ => ?_
  refine Task.Safe.bind safe_refresh_untargeted (fun _ _ _ => trivial) fun _ after _ => ?_
  exact restSafe state after

private theorem allows_count (storage : Storage) (state : BootState) (count : UInt32)
    (found : storage.bootState = some state) :
    (updater.protocol faults none).allows (.store (.writeBootState ⟨state.activeSlot, count⟩)) storage :=
  .count rfl (congrArg (Option.map BootState.activeSlot) found)

theorem safe_confirm :
    Task.Safe faults (updater.protocol faults none) (fun _ _ => True) updater.confirm machine :=
  safe_counted (fun held => Slots.safe_confirm (allows_count held.storage)) fun _ _ => .done trivial

theorem safe_bootAttempt :
    Task.Safe faults (updater.protocol faults none) (fun _ _ => True) updater.bootAttempt machine :=
  safe_counted (fun held => Slots.safe_recordBootAttempt (allows_count held.storage))
    fun _ _ => Task.safe_log_bind (.done trivial)

end Updater

/-- Every operation keeps to the protocol, an update with the slot that is not active as its target. -/
theorem Operation.safe (faults : Faults) (updater : Updater) (operation : Operation)
    (machine : Machine) :
    ∃ target?, Acting.Safe faults (updater.protocol faults target?) (fun _ _ => True)
      (operation.program updater) machine := by
  cases operation with
  | update source image =>
    obtain ⟨target, aimed⟩ := machine.storage.exists_target
    exact ⟨some target, Program.Safe.bind (Updater.safe_update aimed) fun _ _ _ => .done trivial⟩
  | verify source image =>
    exact ⟨none, Program.Safe.bind Updater.safe_verify fun _ _ _ => .done trivial⟩
  | rollback => exact ⟨none, Program.Safe.bind Updater.safe_rollback fun _ _ _ => .done trivial⟩
  | confirm => exact ⟨none, Program.Safe.bind Updater.safe_confirm fun _ _ _ => .done trivial⟩
  | bootAttempt => exact ⟨none, Program.Safe.bind Updater.safe_bootAttempt fun _ _ _ => .done trivial⟩

/-- A request that was replied to, with what persisted before and after it. -/
structure Event where
  action : Action
  before : Storage
  after : Storage

/-- A machine and what is left of the operation that runs on it, if there is one. -/
structure Configuration where
  machine : Machine
  left? : Option (Acting Unit)

/-- What has happened since a machine was started, and where that has led. -/
inductive Run (updater : Updater) (faults : Faults) (start : Machine) :
    List Event → Configuration → Prop where
  | start : Run updater faults start [] ⟨start, none⟩
  | begins {events machine} (operation : Operation)
      (earlier : Run updater faults start events ⟨machine, none⟩) :
      Run updater faults start events ⟨machine, some (operation.program updater)⟩
  | acts {events before action next reply after}
      (earlier : Run updater faults start events ⟨before, some (.ask action next)⟩)
      (answer : Machine.answers faults action before reply after) :
      Run updater faults start (events ++ [⟨action, before.storage, after.storage⟩])
        ⟨after, some (next reply)⟩
  | ends {events machine} (earlier : Run updater faults start events ⟨machine, some (.done ())⟩) :
      Run updater faults start events ⟨machine, none⟩
  /-- The machine loses power, or the program dies, at any point. -/
  | stops {events machine left?} (earlier : Run updater faults start events ⟨machine, left?⟩) :
      Run updater faults start events ⟨machine.restarted, none⟩

namespace Run

variable {updater : Updater} {faults : Faults} {start : Machine} {events : List Event}
  {configuration : Configuration}

/-- Whatever runs keeps to the protocol. -/
theorem safe (run : Run updater faults start events configuration) :
    ∀ program ∈ configuration.left?, ∃ target?, Acting.Safe faults (updater.protocol faults target?)
      (fun _ _ => True) program configuration.machine := by
  induction run with
  | start | ends _ _ | stops _ _ => exact fun _ impossible => by cases impossible
  | begins operation _ _ =>
    rintro _ ⟨⟩
    exact operation.safe faults updater _
  | acts _ answer ih =>
    rintro _ ⟨⟩
    obtain ⟨target?, safe⟩ := ih _ rfl
    cases safe with
    | ask allowed later => exact ⟨target?, later _ _ answer⟩

theorem permitted {machine : Machine} {action : Action} {next : action.Reply → Acting Unit}
    (run : Run updater faults start events ⟨machine, some (.ask action next)⟩) :
    ∃ target?, updater.Permitted faults target? machine.storage action := by
  obtain ⟨target?, safe⟩ := run.safe _ rfl
  cases safe with
  | ask allowed _ => exact ⟨target?, allowed⟩

/-- What every permitted request preserves holds along a run. -/
theorem invariant (run : Run updater faults start events configuration)
    (kept : List Event → Storage → Prop) (initial : kept [] start.storage)
    (step : ∀ events target? action before reply after,
      updater.Permitted faults target? before.storage action →
      Machine.answers faults action before reply after → kept events before.storage →
      kept (events ++ [⟨action, before.storage, after.storage⟩]) after.storage) :
    kept events configuration.machine.storage := by
  induction run with
  | start => exact initial
  | begins _ _ ih | ends _ ih | stops _ ih => exact ih
  | acts earlier answer ih =>
    obtain ⟨target?, allowed⟩ := earlier.permitted
    exact step _ _ _ _ _ _ allowed answer ih

/-- What is left of the operation that runs when it gets to a request on such a machine. -/
theorem upTo {temper : Temper} {machine : Machine} {program : Acting Unit}
    (run : Run updater temper.faults start events ⟨machine, some program⟩) (stops : Action → Bool) :
    ∃ later, Run updater temper.faults start later
      ⟨(program.upTo temper.answer stops machine).2,
        some (program.upTo temper.answer stops machine).1⟩ := by
  induction program generalizing events machine with
  | done value => exact ⟨events, run⟩
  | ask action next ih =>
    rw [Program.upTo]
    split
    · exact ⟨events, run⟩
    · exact ih _ (run.acts (temper.sound action machine))

end Run

end DualSlot
