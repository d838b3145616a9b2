import DualSlot.Host
import DualSlot.Proofs.StoreReads

/-! What the boot state is after a failed attempt to make a slot active, whichever call of the store failed:
the one from before, unless the file was replaced and the directory could not be synchronised. -/

namespace DualSlot

open Simulation World

namespace FileTask

variable {α β ε δ : Type} {fails : Call → World → Prop} {held : World → Prop} {world : World}

/-- A task over actions, each carried out by calls. -/
theorem safe_translate_bind {realise : (action : Action) → Hosted action.Reply} {task : Task ε α}
    {next : α → Task ε β} {Q : Except ε α → World → Prop} {post : Except ε β → World → Prop}
    (safe : Safe fails held Q (task.run.translate realise) world)
    (failed : ∀ cause after, Q (.error cause) after → post (.error cause) after)
    (rest : ∀ value after, Q (.ok value) after → Safe fails held post ((next value).run.translate realise) after) :
    Safe fails held post ((task >>= next).run.translate realise) world := by
  have parts : (task >>= next).run.translate realise = _ := Program.translate_bind realise task.run _
  rw [parts]
  refine Program.Safe.bind safe fun result after reached => ?_
  cases result with
  | ok value => exact rest value after reached
  | error cause => exact .done (failed cause after reached)

theorem safe_translate_of {realise : (action : Action) → Hosted action.Reply} {reply : Acting (Except ε α)}
    {reason : ε → δ} {post : Except δ α → World → Prop}
    (safe : Safe fails held (fun result => post (result.mapError reason)) (reply.translate realise) world) :
    Safe fails held post ((Task.of reason reply).run.translate realise) world := by
  have parts : (Task.of reason reply).run.translate realise = _ := Program.translate_bind realise reply _
  rw [parts]
  exact Program.Safe.bind safe fun _ _ reached => .done reached

/-- An action whose failure does not matter, as part of a task. -/
theorem safe_translate_lift_bind {realise : (action : Action) → Hosted action.Reply} {program : Acting α}
    {next : α → Task ε β} {post : Except ε β → World → Prop}
    (rest : ∀ value after, Safe fails (fun _ => True) post ((next value).run.translate realise) after) :
    Safe fails (fun _ => True) post ((liftM program >>= next : Task ε β).run.translate realise) world := by
  refine safe_translate_bind (Q := fun result _ => ∃ value, result = .ok value) ?_ ?_
    fun value after _ => rest value after
  · have parts : (liftM program : Task ε α).run.translate realise = _ := Program.translate_bind realise program _
    rw [parts]
    exact Program.Safe.bind (Program.safe_anything (fun _ _ => trivial) _ _) fun value _ _ => .done ⟨value, rfl⟩
  · rintro cause after ⟨value, impossible⟩
    cases impossible

end FileTask

namespace Host

open FileTask DirectoryStore Durable

variable {host : Host} {stateDir : Path} {fails : Call → World → Prop} {world after : World} {target : Slot}
  {maxBootCount : UInt32} {outcome : Outcome}

theorem translate_ask (host : Host) (request : StoreRequest) :
    (Slots.ask request).translate host.realise = host.store.realise request :=
  Program.bind_done _

/-- What is read of the boot state after an attempt to replace it that failed. -/
def Uncommitted (store : DirectoryStore) (state : BootState) (fails : Call → World → Prop)
    (before after : World) : Prop :=
  after.tree.readAs after.workingDir store.bootStateFile = before.tree.readAs before.workingDir store.bootStateFile ∨
    after.tree.readAs after.workingDir store.bootStateFile = .ok (some (JsonRecord.file state)) ∧
      ∃ call moment, fails call moment ∧ OnDirectory store.bootStateFile call moment

theorem safe_writeBootState {place : Location} {state : BootState} (inside : host.store = .within stateDir)
    (sound : world.tree.Sound) (leads : world.tree.Leads world.workingDir host.store.root place) :
    FileTask.Safe fails (fun _ => True)
      (fun result after => ∀ cause, result = .error cause → Uncommitted host.store state fails world after)
      (writeTo host.store.bootStateFile state).run world := by
  have isName : IsName "boot-state.json" := by decide
  have named : host.store.bootStateFile.fileName? = some "boot-state.json" :=
    Path.fileName?_join isName.whole isName.busy isName.notUp
  have above : host.store.bootStateFile.directory = host.store.root := by
    rw [inside]
    exact Path.directory_join_join isName_label isName
  refine safe_adapt ((safe_replace named sound).mono (fun _ _ _ => trivial) ?_)
  intro result after ended cause failed
  have stopped : result ≠ .ok () := by
    rintro rfl
    cases failed
  rcases ended.failed stopped with spares | ⟨ready, settled, reason⟩
  · exact .inl (readAs_of_spares isName above leads spares)
  · exact .inr ⟨readAs_of_settled isName above ready settled, reason⟩

theorem safe_record? : FileTask.Safe fails (fun _ => True) (Looks (host.store.recordFile target) world)
    ((Slots.record? target).run.translate host.realise) world := by
  refine safe_translate_bind (Q := Looks (host.store.recordFile target) world) (safe_translate_of ?_)
    (fun cause after looked => ⟨looked.tree, looked.workingDir, nofun⟩) fun found after looked => .done ?_
  · rw [translate_ask]
    refine Program.Safe.weaken safe_readRecord fun result after looked => ⟨looked.tree, looked.workingDir, ?_⟩
    exact fun record same => looked.leads record (Except.mapError_eq_ok_iff.1 same)
  · refine ⟨looked.tree, looked.workingDir, fun record same => ?_⟩
    obtain ⟨rfl, -⟩ := Option.filter_eq_some_iff.1 (Except.ok.inj same)
    exact looked.leads record rfl

/-- Once the boot state is written an attempt to make a slot active does not fail. -/
theorem safe_committed (state : BootState) :
    FileTask.Safe fails (fun _ => True) (fun result _ => ∃ value, result = .ok value)
      ((do
        log .slots .info s!"committed slot {target.name} ({outcome.name})"
        Slots.remember outcome target
        return state : Task Failure BootState).run.translate host.realise) world := by
  exact safe_translate_lift_bind fun _ _ => safe_translate_lift_bind fun _ _ => .done ⟨_, rfl⟩

theorem safe_commitAs (inside : host.store = .within stateDir) (sound : world.tree.Sound) :
    FileTask.Safe fails (fun _ => True)
      (fun result after => ∀ cause, result = .error cause →
        Uncommitted host.store ⟨target, maxBootCount⟩ fails world after)
      ((Slots.commitAs maxBootCount outcome target).run.translate host.realise) world := by
  have unwritten {after : World} (tree : after.tree = world.tree)
      (workingDir : after.workingDir = world.workingDir) :
      Uncommitted host.store ⟨target, maxBootCount⟩ fails world after := by
    refine .inl ?_
    rw [tree, workingDir]
  refine safe_translate_bind safe_record? (fun cause after looked _ _ => unwritten looked.tree looked.workingDir) ?_
  intro found after looked
  cases found with
  | none => exact .done fun _ _ => unwritten looked.tree looked.workingDir
  | some record =>
    obtain ⟨place, resolved⟩ := looked.leads record rfl
    have named : IsName s!"verity-{target.lower}.json" := by cases target <;> decide
    obtain ⟨above, leads⟩ := leads_of_resolve_join named resolved
    rw [← looked.tree, ← looked.workingDir] at leads
    refine safe_translate_bind (Q := fun result last => ∀ cause, result = .error cause →
      Uncommitted host.store ⟨target, maxBootCount⟩ fails world last) (safe_translate_of ?_)
      (fun cause last left _ _ => left cause rfl) fun _ last _ => ?_
    · rw [translate_ask]
      refine Program.Safe.weaken (safe_writeBootState inside (looked.tree ▸ sound) leads) fun result last left => ?_
      intro cause failed
      obtain ⟨reason, error, -⟩ := Except.mapError_eq_error_iff.1 failed
      have uncommitted := left reason error
      rwa [Uncommitted, looked.tree, looked.workingDir] at uncommitted
    · refine Program.Safe.weaken (safe_committed _) ?_
      rintro _ _ ⟨value, rfl⟩ cause failed
      cases failed

theorem readBootState_fst (store : DirectoryStore) (world : World) :
    (world.run (store.realise .readBootState)).1 =
      recordIn BootState store.bootStateFile (world.tree.readAs world.workingDir store.bootStateFile) := by
  rw [← World.run_read?_fst]
  exact run_readFrom_fst _ _

/-- Whichever calls fail, the boot state after a failed attempt to make a slot active is the one before it,
or the new one if a call on the directory of the store failed, which is when the file has been replaced. -/
theorem commitAs_failure (inside : host.store = .within stateDir) (sound : world.tree.Sound) {cause : Failure}
    (failed : Program.Ends (World.Falters fails)
      ((Slots.commitAs maxBootCount outcome target).run.translate host.realise) world (.error cause) after) :
    (after.run (host.store.realise .readBootState)).1 = (world.run (host.store.realise .readBootState)).1 ∨
      (after.run (host.store.realise .readBootState)).1 = .ok (some ⟨target, maxBootCount⟩) ∧
        ∃ call moment, fails call moment ∧ OnDirectory host.store.bootStateFile call moment := by
  rw [readBootState_fst, readBootState_fst]
  rcases (safe_commitAs inside sound).ends failed cause rfl with same | ⟨replaced, reason⟩
  · rw [same]
    exact .inl rfl
  · refine .inr ⟨?_, reason⟩
    rw [replaced]
    simp only [recordIn, JsonRecord.file_not_space, JsonRecord.read?_file]
    rfl

/-- A machine that keeps its state in its working directory. -/
def ordinary : Host := ⟨.within ⟨"state"⟩, fun slot => ⟨slot.lower⟩⟩

/-- Slot A is active, and slot B has a record. -/
def preparing : FileTask Unit := do
  replace (ordinary.store.recordFile .b) (JsonRecord.file (⟨.b, Digest.zero.hex, 1⟩ : SlotRecord))
  replace ordinary.store.bootStateFile (JsonRecord.file (⟨.a, 3⟩ : BootState))

def prepared : World := ((World.fresh 0).run preparing.run).2

theorem sound_prepared : prepared.tree.Sound := by
  have first : Path.fileName? (ordinary.store.recordFile .b) = some "verity-b.json" := by decide +kernel
  have second : Path.fileName? ordinary.store.bootStateFile = some "boot-state.json" := by decide +kernel
  rw [prepared, preparing]
  exact sound_replaced_twice first second _ _ (World.sound_fresh 0)

/-- The directory of the store cannot be opened. -/
def lockedAnswer (call : Call) (world : World) : call.Reply × World :=
  match call with
  | .openFile path .read =>
    if path = ordinary.store.root then (.error (.system 13), world) else World.answer (.openFile path .read) world
  | call => World.answer call world

theorem falters_lockedAnswer (call : Call) (world : World) :
    World.Falters (OnDirectory ordinary.store.bootStateFile) call world (lockedAnswer call world).1
      (lockedAnswer call world).2 := by
  unfold lockedAnswer
  split
  next path =>
    split
    next same =>
      subst same
      exact .refuses (.inl (by decide +kernel)) rfl
    next => exact .answers _ _
  next => exact .answers _ _

/-- An attempt to make slot B active where the directory of the store cannot be opened. -/
def lockedCommit : Except Failure BootState × World :=
  ((Slots.commitAs 3 .success .b).run.translate ordinary.realise).run lockedAnswer prepared

/-- The attempt fails, and has made slot B active. -/
theorem commitAs_failure_locked :
    lockedCommit.1 = .error (.persistence (.unwritable ordinary.store.bootStateFile (.system 13))) ∧
      (prepared.run (ordinary.store.realise .readBootState)).1 = .ok (some ⟨.a, 3⟩) ∧
      (lockedCommit.2.run (ordinary.store.realise .readBootState)).1 = .ok (some ⟨.b, 3⟩) := by
  have fails : lockedCommit.1 = .error (.persistence (.unwritable ordinary.store.bootStateFile (.system 13))) := by
    decide +kernel
  have differs : (lockedCommit.2.run (ordinary.store.realise .readBootState)).1 ≠
      (prepared.run (ordinary.store.realise .readBootState)).1 := by decide +kernel
  have ended : Program.Ends (World.Falters (OnDirectory ordinary.store.bootStateFile)) _ prepared lockedCommit.1
      lockedCommit.2 := Program.ends_run falters_lockedAnswer _ _
  rw [fails] at ended
  refine ⟨fails, by decide +kernel, ?_⟩
  rcases commitAs_failure rfl sound_prepared ended with same | ⟨committed, -⟩
  · exact absurd same differs
  · exact committed

end Host

end DualSlot
