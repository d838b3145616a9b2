import DualSlot.Proofs.ProtocolEffects
import DualSlot.Proofs.Runs
import Mathlib.Algebra.Ring.Parity

/-! The loader's default along a run. A slot becomes active in one step and the default in another, so
the default may lag behind: it names the other slot exactly while the active slot has changed an odd
number of times since the loader's configuration last did. -/

namespace DualSlot

variable {updater : Updater} {faults : Faults} {target? : Option Slot} {before after : Storage}

/-- How often the active slot has changed since the loader's configuration last did, after an event. -/
def Event.unshownAfter (menu : BootMenu) (count : Nat) (event : Event) : Nat :=
  if event.after.files menu.loaderFile ≠ event.before.files menu.loaderFile then 0
  else if event.after.active? ≠ event.before.active? then count + 1
  else count

/-- How often the active slot has changed since the loader's configuration last did. -/
def BootMenu.unshown (menu : BootMenu) (events : List Event) : Nat :=
  events.foldl (Event.unshownAfter menu) 0

theorem BootMenu.unshown_append (menu : BootMenu) (events : List Event) (event : Event) :
    menu.unshown (events ++ [event]) = event.unshownAfter menu (menu.unshown events) := by
  rw [unshown, List.foldl_append]
  rfl

/-- The default is the active slot after an even number of changes, and the other one after an odd. -/
def BootMenu.Lags (menu : BootMenu) (count : Nat) (storage : Storage) : Prop :=
  ∃ active, storage.active? = some active ∧
    menu.defaultIn storage = some (if Odd count then active.other else active)

theorem Updater.Effect.loader (apart : updater.Apart)
    (effect : updater.Effect faults target? before after) :
    after.files updater.menu.loaderFile = before.files updater.menu.loaderFile ∨
      ∃ active, before.active? = some active ∧ after.active? = some active ∧
        after.files updater.menu.loaderFile = some (updater.menu.loaderBytes active) := by
  cases effect with
  | staged beside => exact .inl (beside.files _ apart.staged_loader)
  | written _ same => exact .inl (same ▸ rfl)
  | @stored request _ same =>
    refine .inl ?_
    rw [same]
    cases request <;> rfl
  | replaced permitted only found =>
    cases permitted with
    | quiet quiet => exact quiet.elim
    | mask | showActive | showFallback | maskFallback => exact .inl (only.files _ (apart.entry_loader _))
    | point shown known aimed written =>
      have active := congrArg (Option.map BootState.activeSlot) shown
      exact found.symm.imp id fun pointed => ⟨_, active, only.active?.trans active, pointed⟩

theorem Updater.Effect.active (effect : updater.Effect faults target? before after) :
    after.active? = before.active? ∨
      ∃ slot : Slot, before.active? = some slot.other ∧ after.active? = some slot := by
  cases effect with
  | staged beside => exact .inl beside.active?
  | written _ same => exact .inl (same ▸ rfl)
  | replaced _ only _ => exact .inl only.active?
  | stored permitted same =>
    rw [same]
    cases permitted with
    | quiet quiet =>
      rw [StoreRequest.carriedOut_quiet quiet]
      exact .inl rfl
    | clear | record | remember => exact .inl rfl
    | activate _ passive _ _ => exact .inr ⟨_, passive, rfl⟩
    | reactivate _ passive _ => exact .inr ⟨_, passive, rfl⟩
    | count _ kept => exact .inl kept.symm

theorem Updater.Effect.lags (apart : updater.Apart) (effect : updater.Effect faults target? before after)
    {action : Action} {count : Nat} (lags : updater.menu.Lags count before) :
    updater.menu.Lags (Event.unshownAfter updater.menu count ⟨action, before, after⟩) after := by
  obtain ⟨active, wasActive, default⟩ := lags
  -- While the loader's configuration stays, only a change of the active slot moves the default's parity;
  -- once it is written, it is written for the active slot.
  by_cases kept : after.files updater.menu.loaderFile = before.files updater.menu.loaderFile
  · rw [Event.unshownAfter, if_neg (not_not.2 kept)]
    rw [← updater.menu.defaultIn_congr kept] at default
    obtain same | ⟨slot, passive, isActive⟩ := effect.active
    · rw [if_neg (not_not.2 same)]
      exact ⟨active, same.trans wasActive, default⟩
    · obtain rfl : slot.other = active := Option.some_inj.1 (passive.symm.trans wasActive)
      have changed : after.active? ≠ before.active? := by
        rw [isActive, passive]
        exact fun same => slot.other_ne (Option.some_inj.1 same).symm
      rw [if_pos changed]
      refine ⟨slot, isActive, default.trans ?_⟩
      by_cases odd : Odd count
      · rw [if_pos odd, if_neg (Nat.not_odd_iff_even.2 odd.add_one), Slot.other_other]
      · rw [if_neg odd, if_pos (Nat.not_odd_iff_even.1 odd).add_one]
  · obtain same | ⟨shown, -, isActive, written⟩ := effect.loader apart
    · exact absurd same kept
    · rw [Event.unshownAfter, if_pos kept]
      refine ⟨shown, isActive, ?_⟩
      rw [if_neg (by decide)]
      exact BootMenu.defaultIn_loaderBytes written

/-- The active slot is the one that the loader's configuration was written for. -/
def BootMenu.Points (menu : BootMenu) (active : Slot) (storage : Storage) : Prop :=
  storage.active? = some active ∧ storage.files menu.loaderFile = some (menu.loaderBytes active)

theorem Updater.safe_provision (apart : updater.Apart) {machine : Machine} {active : Slot}
    {rootHash : String} {force : Bool} :
    Task.Safe faults .free (Leaves (fun _ => True) fun _ after => updater.menu.Points active after.storage)
      (updater.provision active rootHash force) machine := by
  refine Session.safe_alone ?_ (fun _ => trivial) fun held _ => ?_
  · intro result before after same points
    cases result with
    | error cause => trivial
    | ok state => exact (same ▸ points : updater.menu.Points active after.storage)
  refine Task.Safe.bind (Slots.safe_provision (fun _ _ => trivial) fun _ _ => trivial)
    (fun _ _ _ => trivial) fun state written shown => ?_
  have isActive : written.storage.active? = some active :=
    congrArg (Option.map BootState.activeSlot) shown
  refine Task.Safe.bind (Program.Safe.mono safe_refresh_untargeted (fun _ _ _ => trivial)
    fun _ _ refreshed => refreshed) (fun _ _ _ => trivial) ?_
  rintro _ after ⟨only, pointed⟩
  exact .done ⟨only.active?.trans isActive, pointed active isActive (apart.entry_loader _)⟩

/-- A machine that was provisioned starts from the slot that its loader's configuration names. -/
theorem Updater.provision_lags (apart : updater.Apart) {fresh start : Machine} {active : Slot}
    {rootHash : String} {force : Bool} {state : BootState}
    (provisioned : Program.Ends (Machine.answers faults)
      (updater.provision active rootHash force).run fresh (.ok state) start) :
    updater.menu.Lags 0 start.storage := by
  have points : updater.menu.Points active start.storage := (safe_provision apart).ends provisioned
  refine ⟨active, points.1, ?_⟩
  rw [if_neg (by decide)]
  exact BootMenu.defaultIn_loaderBytes points.2

/-- What overwrites a slot: its bytes, or its entry while the other slot is active. -/
inductive Updater.Overwrites (updater : Updater) (storage : Storage) (slot : Slot) : Action → Prop where
  | entry {contents : Bytes} (passive : storage.active? = some slot.other) :
      Updater.Overwrites updater storage slot (.replace (updater.menu.entryPath slot) contents)
  | bytes {image : Opened} : Updater.Overwrites updater storage slot (.writeSlot slot image)

theorem Updater.Permitted.passive {action : Action} {slot : Slot}
    (permitted : updater.Permitted faults target? before action)
    (overwrites : updater.Overwrites before slot action) : before.active? = some slot.other := by
  cases overwrites with
  | entry passive => exact passive
  | bytes =>
    cases permitted with
    | quiet quiet => exact quiet.elim
    | write _ passive _ _ => exact passive

/-- Along every run of a machine that was provisioned, the loader's default names the slot that is
overwritten exactly if the active slot has changed an odd number of times since the loader's
configuration last did. -/
theorem overwritten_default_iff (apart : updater.Apart) {fresh start machine : Machine} {active slot : Slot}
    {rootHash : String} {force : Bool} {state : BootState} {events : List Event} {action : Action}
    {next : action.Reply → Acting Unit}
    (provisioned : Program.Ends (Machine.answers faults)
      (updater.provision active rootHash force).run fresh (.ok state) start)
    (run : Run updater faults start events ⟨machine, some (.ask action next)⟩)
    (overwrites : updater.Overwrites machine.storage slot action) :
    updater.menu.defaultIn machine.storage = some slot ↔ Odd (updater.menu.unshown events) := by
  have lags : updater.menu.Lags (updater.menu.unshown events) machine.storage :=
    run.invariant (fun events storage => updater.menu.Lags (updater.menu.unshown events) storage)
      (Updater.provision_lags apart provisioned) fun _ _ _ _ _ _ permitted answer lags => by
        rw [BootMenu.unshown_append]
        exact (permitted.effect answer).lags apart lags
  obtain ⟨target?, permitted⟩ := run.permitted
  obtain ⟨active, isActive, default⟩ := lags
  obtain rfl : active = slot.other :=
    Option.some_inj.1 (isActive.symm.trans (permitted.passive overwrites))
  rw [default, Slot.other_other]
  by_cases odd : Odd (updater.menu.unshown events)
  · simp [odd]
  · simp [odd, slot.other_ne]

private def recorded : Machine :=
  Machine.blank.put (Machine.blank.storage.setRecord .b (some ⟨.b, Digest.zero.hex, 0⟩))

/-- Provisioning with slot A a machine that has a record of slot B. -/
private def enrolled : Except Failure BootState × Machine :=
  (Updater.small.provision .a Digest.zero.hex false).run.run Temper.obliging.answer recorded

/-- A rollback to slot B that has yet to point the loader there. -/
private def interrupted : Acting Unit × Machine :=
  (Operation.rollback.program .small).upTo Temper.obliging.answer
    (Action.replaces Updater.small.menu.loaderFile) enrolled.2

/-- An update after a loss of power that has yet to write to its target. -/
private def resumed : Acting Unit × Machine :=
  ((Operation.update (.directory ⟨"/d"⟩) "i").program .small).upTo Temper.obliging.answer
    Action.overwrites interrupted.2.restarted

private theorem enrolled_ok : enrolled.1 matches .ok _ := by
  decide +kernel

private theorem enrolled_ends :
    ∃ state, Program.Ends (Machine.answers Temper.obliging.faults)
      (Updater.small.provision .a Digest.zero.hex false).run recorded (.ok state) enrolled.2 := by
  have ended : Program.Ends (Machine.answers Temper.obliging.faults) _ _ enrolled.1 enrolled.2 :=
    Program.ends_run Temper.obliging.sound _ _
  have ok := enrolled_ok
  cases result : enrolled.1 with
  | ok state => exact ⟨state, result ▸ ended⟩
  | error cause =>
    rw [result] at ok
    cases ok

private theorem resumed_run :
    ∃ events, Run .small Temper.obliging.faults enrolled.2 events ⟨resumed.2, some resumed.1⟩ := by
  obtain ⟨earlier, committed⟩ : ∃ events,
      Run .small Temper.obliging.faults enrolled.2 events ⟨interrupted.2, some interrupted.1⟩ :=
    (Run.start.begins .rollback).upTo _
  exact (committed.stops.begins (.update (.directory ⟨"/d"⟩) "i")).upTo _

private theorem resumed_overwrites :
    (match resumed.1 with
      | .ask (.writeSlot .a _) _ =>
        resumed.2.storage.files Updater.small.menu.loaderFile ==
          some (Updater.small.menu.loaderBytes .a)
      | _ => false) = true := by
  decide +kernel

/-- The slot that the loader would start is about to be overwritten: power was lost in a rollback before
it pointed the loader at the slot that it had made active. -/
theorem overwritten_default_resumed :
    ∃ start state events machine image next,
      Program.Ends (Machine.answers Temper.obliging.faults)
        (Updater.small.provision .a Digest.zero.hex false).run recorded (.ok state) start ∧
      Run .small Temper.obliging.faults start events ⟨machine, some (.ask (.writeSlot .a image) next)⟩ ∧
      Updater.small.menu.defaultIn machine.storage = some .a ∧
      Odd (Updater.small.menu.unshown events) := by
  obtain ⟨state, ended⟩ := enrolled_ends
  obtain ⟨events, run⟩ := resumed_run
  have overwrites := resumed_overwrites
  split at overwrites
  · rename_i image next asks
    rw [asks] at run
    have default := BootMenu.defaultIn_loaderBytes (eq_of_beq overwrites)
    exact ⟨_, state, events, _, image, next, ended, run, default,
      (overwritten_default_iff Updater.small_apart ended run .bytes).1 default⟩
  · cases overwrites

end DualSlot
