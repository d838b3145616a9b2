import DualSlot.Proofs.Bookkeeping
import DualSlot.Proofs.RollbackOutcome

/-! Stopping an update. The operator may ask for it at any time, but an update looks only where it has
done nothing that it would have to take back: it goes on as if nobody had asked, or it ends there with
nothing touched. -/

namespace DualSlot

/-- What an update asks for until it begins to write. None of it changes more than staged images. -/
def Action.Preparing : Action → Prop
  | .store .readBootState | .store .lock | .store (.unlock _) | .list _ | .remove _ | .stage _
  | .fill _ _ | .discard _ | .openSource _ _ | .openStaged _ | .receive _ _ | .log _ _ _ => True
  | _ => False

/-- What does not look whether the update is to stop. -/
def Action.Heedless : Action → Prop
  | .cancelled => False
  | _ => True

theorem Action.Preparing.heedless {action : Action} (preparing : action.Preparing) : action.Heedless := by
  cases action with
  | cancelled => exact preparing
  | _ => trivial

theorem Action.Bookkeeping.heedless {action : Action} (books : action.Bookkeeping) : action.Heedless := by
  cases action with
  | cancelled => exact books
  | _ => trivial

def Failure.Uncancelled : Failure → Prop
  | .cancelled => False
  | _ => True

/-- Surroundings with a flag beside them, which may be set after any of the requests so far. The state
holds these requests, the last one first. -/
def flagged {σ : Type} (answer : (action : Action) → σ → action.Reply × σ) (flag : List Action → Bool) :
    (action : Action) → σ × List Action → action.Reply × σ × List Action
  | .cancelled, (state, asked) => (flag asked, state, .cancelled :: asked)
  | action, (state, asked) => ((answer action state).1, (answer action state).2, action :: asked)

namespace Program

variable {I : Interface} {σ α β : Type} {program : Program I α}

theorem EndsOnlyWith.mono {property weaker : α → Prop} (only : program.EndsOnlyWith property)
    (implies : ∀ value, property value → weaker value) : program.EndsOnlyWith weaker := by
  induction program with
  | done value => exact implies value only
  | ask request next ih => exact fun reply => ih reply (only reply)

theorem EndsOnlyWith.run {property : α → Prop} (only : program.EndsOnlyWith property)
    (answer : (request : I.Request) → σ → I.Reply request × σ) (state : σ) :
    property (program.run answer state).1 := by
  induction program generalizing state with
  | done value => exact only
  | ask request next ih => exact ih _ (only _) _

/-- What follows a program need not be thought of for values that it does not end with. -/
theorem AsksOnly.bind_of_ends {property : I.Request → Prop} {possible : α → Prop} {next : α → Program I β}
    (only : program.AsksOnly property) (ends : program.EndsOnlyWith possible)
    (rest : ∀ value, possible value → (next value).AsksOnly property) :
    (program.bind next).AsksOnly property := by
  induction only with
  | done => exact rest _ ends
  | ask holds _ ih => exact .ask holds fun reply => ih reply (ends reply)

end Program

namespace Acting

variable {σ α : Type} {answer : (action : Action) → σ → action.Reply × σ} {flag : List Action → Bool}
  {program : Acting α}

theorem flagged_of_heedless {action : Action} (heedless : action.Heedless) (state : σ)
    (asked : List Action) :
    flagged answer flag action (state, asked) =
      ((answer action state).1, (answer action state).2, action :: asked) := by
  cases action with
  | cancelled => exact heedless.elim
  | _ => rfl

theorem run_heedless (only : program.AsksOnly Action.Heedless) (state : σ) (asked : List Action) :
    program.run (flagged answer flag) (state, asked) =
      program.run (flagged answer fun _ => false) (state, asked) := by
  induction only generalizing state asked with
  | done => rfl
  | ask heedless _ ih =>
    rw [Program.run, Program.run, flagged_of_heedless heedless, flagged_of_heedless heedless]
    exact ih _ _ _

theorem among_cons {property : Action → Prop} {first : Action} {asked final : List Action}
    (only : ∀ action ∈ final, action ∈ first :: asked ∨ property action) (holds : property first) :
    ∀ action ∈ final, action ∈ asked ∨ property action := by
  intro action inside
  rcases only action inside with earlier | now
  · rcases List.mem_cons.1 earlier with rfl | before
    · exact .inr holds
    · exact .inl before
  · exact .inr now

theorem asked_of_run {property : Action → Prop} (only : program.AsksOnly property)
    (heedless : ∀ action, property action → action.Heedless) (state : σ) (asked : List Action) :
    ∀ action ∈ (program.run (flagged answer flag) (state, asked)).2.2, action ∈ asked ∨ property action := by
  induction only generalizing state asked with
  | done => exact fun action inside => .inl inside
  | ask holds _ ih =>
    rw [Program.run, flagged_of_heedless (heedless _ holds)]
    exact among_cons (ih _ _ _) holds

end Acting

/-- A failure that is no cancellation, or none at all. -/
def Undisturbed (result : Except UpdateFailure α) : Prop :=
  ∀ failure, result = .error failure → failure.cause ≠ .cancelled

def Stopped (result : Except UpdateFailure α) : Prop :=
  ∃ failure, result = .error failure ∧ failure.cause = .cancelled ∧ failure.impact = .nothingTouched

/-- Nobody looks at the flag any more. -/
structure Committed (program : Acting (Except UpdateFailure α)) : Prop where
  asks : program.AsksOnly Action.Heedless
  ends : program.EndsOnlyWith Undisturbed

/-- What was prepared is cleared away, and nothing else is done. -/
structure Abandoned (program : Acting (Except UpdateFailure α)) : Prop where
  asks : program.AsksOnly Action.Preparing
  ends : program.EndsOnlyWith Stopped

/-- Until it is committed the program only prepares, and looks at the flag; where the flag is set it is
abandoned. -/
inductive Stoppable : Acting (Except UpdateFailure α) → Prop
  | committed {program} (committed : Committed program) : Stoppable program
  | prepares {action next} (preparing : action.Preparing) (later : ∀ reply, Stoppable (next reply)) :
      Stoppable (.ask action next)
  | looks {next} (goes : Stoppable (next false)) (stops : Abandoned (next true)) :
      Stoppable (.ask .cancelled next)

namespace Stoppable

variable {σ α β : Type}

/-- A run is that of the same program with the flag never set, or is stopped with only preparations
made. -/
theorem run {program : Acting (Except UpdateFailure α)} (stoppable : Stoppable program)
    (answer : (action : Action) → σ → action.Reply × σ) (flag : List Action → Bool) (state : σ)
    (asked : List Action) :
    let ended := program.run (flagged answer flag) (state, asked)
    ended = program.run (flagged answer fun _ => false) (state, asked) ∧ Undisturbed ended.1 ∨
      Stopped ended.1 ∧ ∀ action ∈ ended.2.2, action ∈ asked ∨ action = .cancelled ∨ action.Preparing := by
  induction stoppable generalizing state asked with
  | committed goes => exact .inl ⟨Acting.run_heedless goes.asks state asked, goes.ends.run _ _⟩
  | prepares preparing _ ih =>
    simp only [Program.run, Acting.flagged_of_heedless preparing.heedless]
    apply (ih _ _ _).imp_right
    exact fun halted => ⟨halted.1, Acting.among_cons halted.2 (.inr preparing)⟩
  | looks _ stops ih =>
    simp only [Program.run, flagged]
    cases set : flag asked with
    | true =>
      refine .inr ⟨stops.ends.run _ _, Acting.among_cons (fun action inside => ?_) (.inl rfl)⟩
      have only := Acting.asked_of_run stops.asks (fun _ => Action.Preparing.heedless) _ _ action inside
      exact only.imp_right .inr
    | false =>
      apply (ih _ _).imp_right
      exact fun halted => ⟨halted.1, Acting.among_cons halted.2 (.inl rfl)⟩

theorem bind {program : Acting (Except UpdateFailure α)}
    {next : Except UpdateFailure α → Acting (Except UpdateFailure β)} (stoppable : Stoppable program)
    (goes : ∀ result, Undisturbed result → Committed (next result))
    (stops : ∀ result, Stopped result → Abandoned (next result)) : Stoppable (program.bind next) := by
  induction stoppable with
  | committed before =>
    refine committed ⟨before.asks.bind_of_ends before.ends ?_, before.ends.bind ?_⟩
    · exact fun result undisturbed => (goes result undisturbed).asks
    · exact fun result undisturbed => (goes result undisturbed).ends
  | prepares preparing _ ih => exact prepares preparing ih
  | looks _ before ih =>
    refine looks ih ⟨before.asks.bind_of_ends before.ends ?_, before.ends.bind ?_⟩
    · exact fun result stopped => (stops result stopped).asks
    · exact fun result stopped => (stops result stopped).ends

theorem prepared {program : Acting α} {possible : α → Prop}
    {next : α → Acting (Except UpdateFailure β)} (asks : program.AsksOnly Action.Preparing)
    (ends : program.EndsOnlyWith possible) (later : ∀ value, possible value → Stoppable (next value)) :
    Stoppable (program.bind next) := by
  induction asks with
  | done => exact later _ ends
  | ask preparing _ ih => exact prepares preparing fun reply => ih reply (ends reply)

theorem followedBy {task : Task UpdateFailure α} {after : Acting Unit} (stoppable : Stoppable task.run)
    (asks : after.AsksOnly Action.Preparing) : Stoppable (task.followedBy after).run := by
  have keeps (property : Except UpdateFailure α → Prop) (result : Except UpdateFailure α)
      (holds : property result) : (after.bind fun _ => .done result).EndsOnlyWith property :=
    (Program.endsOnlyWith_true after).bind fun _ _ => holds
  have only (result : Except UpdateFailure α) :
      (after.bind fun _ => .done result).AsksOnly Action.Preparing := asks.bind fun _ => .done
  apply bind stoppable
  · intro result undisturbed
    exact ⟨(only result).mono fun _ => Action.Preparing.heedless, keeps _ result undisturbed⟩
  · intro result stopped
    exact ⟨only result, keeps _ result stopped⟩

theorem lift_bind {program : Acting α} {rest : α → Task UpdateFailure β}
    (asks : program.AsksOnly Action.Preparing) (later : ∀ value, Stoppable (rest value).run) :
    Stoppable (liftM program >>= rest : Task UpdateFailure β).run := by
  have lifted : (liftM program : Task UpdateFailure α).run.EndsOnlyWith fun result =>
      ∃ value, result = .ok value :=
    (Program.endsOnlyWith_true program).bind fun value _ => ⟨value, rfl⟩
  refine prepared (Task.AsksOnly.lift (ε := UpdateFailure) asks) lifted ?_
  rintro _ ⟨value, rfl⟩
  exact later value

theorem reached_bind {progress : Progress} {stage : Stage} {rest : Progress → Task UpdateFailure α}
    (later : Stoppable (rest { progress with lastCompleted := stage }).run) :
    Stoppable (liftM (progress.reached stage) >>= rest : Task UpdateFailure α).run :=
  prepares trivial fun _ => later

theorem unlessCancelled_bind {progress : Progress} {next : Stage} {rest : Unit → Task UpdateFailure α}
    (untouched : progress.impact = .nothingTouched) (later : Stoppable (rest ()).run) :
    Stoppable (progress.unlessCancelled next >>= rest).run := by
  apply looks
  · exact later
  · exact ⟨.ask trivial fun _ => .done, fun _ => ⟨_, rfl, rfl, untouched⟩⟩

end Stoppable

/-- The task asks only for what has the property, and fails only for other reasons than a cancellation. -/
structure Task.Steady (property : Action → Prop) (task : Task Failure α) : Prop where
  asks : Task.AsksOnly property task
  fails : Task.FailsOnlyBy Failure.Uncancelled task

namespace Task.Steady

variable {property : Action → Prop} {α β ε : Type}

theorem pure (value : α) : Steady property (Pure.pure value : Task Failure α) :=
  ⟨.done, Task.failsOnlyBy_pure value⟩

theorem throw {cause : Failure} (other : cause.Uncancelled) :
    Steady property (MonadExcept.throw cause : Task Failure α) :=
  ⟨.done, Task.failsOnlyBy_throw other⟩

theorem bind {task : Task Failure α} {rest : α → Task Failure β} (steady : Steady property task)
    (later : ∀ value, Steady property (rest value)) : Steady property (task >>= rest) where
  asks := steady.asks.bind fun value => (later value).asks
  fails := steady.fails.bind fun value => (later value).fails

theorem lift {program : Acting α} (asks : program.AsksOnly property) :
    Steady property (liftM program : Task Failure α) :=
  ⟨.lift asks, (Program.endsOnlyWith_true _).bind fun value _ => Task.failsOnlyBy_pure value⟩

theorem lift_bind {program : Acting α} {rest : α → Task Failure β} (asks : program.AsksOnly property)
    (later : ∀ value, Steady property (rest value)) : Steady property (liftM program >>= rest) where
  asks := Task.AsksOnly.bind (.lift asks) fun value => (later value).asks
  fails := Task.failsOnlyBy_lift_bind fun value => (later value).fails

theorem adapt {task : Task ε α} {reason : ε → Failure} (asks : Task.AsksOnly property task)
    (other : ∀ cause, (reason cause).Uncancelled) : Steady property (task.adapt reason) :=
  ⟨.adapt asks reason, Task.failsOnlyBy_adapt other⟩

theorem of {reply : Acting (Except ε α)} {reason : ε → Failure} (asks : reply.AsksOnly property)
    (other : ∀ cause, (reason cause).Uncancelled) : Steady property (Task.of reason reply) :=
  ⟨.of asks reason, Task.failsOnlyBy_of other⟩

theorem ofBooks {task : Task Failure α} (books : task.Books)
    (fails : Task.FailsOnlyBy Failure.Uncancelled task) : Steady Action.Heedless task :=
  ⟨books.mono fun _ => Action.Bookkeeping.heedless, fails⟩

end Task.Steady

theorem Progress.undisturbed_toward {property : Action → Prop} {progress : Progress} {next : Stage}
    {task : Task Failure α} (steady : task.Steady property) :
    (progress.toward next task).run.EndsOnlyWith Undisturbed := by
  refine Program.EndsOnlyWith.bind steady.fails fun result other => ?_
  cases result with
  | ok value => exact fun _ impossible => by cases impossible
  | error cause =>
    intro _ failure same stopped
    cases same
    have uncancelled := other cause rfl
    rw [show cause = .cancelled from stopped] at uncancelled
    exact uncancelled

theorem Progress.asks_toward {property : Action → Prop} {progress : Progress} {next : Stage}
    {task : Task Failure α} (steady : task.Steady property)
    (logs : ∀ topic level text, property (.log topic level text)) :
    Task.AsksOnly property (progress.toward next task) := by
  refine Program.AsksOnly.bind steady.asks fun result => ?_
  cases result with
  | ok value => exact .done
  | error cause => exact .ask (logs _ _ _) fun _ => .done

namespace Committed

variable {α β : Type} {progress : Progress} {next : Stage}

theorem pure (value : α) : Committed (Pure.pure value : Task UpdateFailure α).run :=
  ⟨.done, fun _ impossible => by cases impossible⟩

theorem bind {task : Task UpdateFailure α} {rest : α → Task UpdateFailure β} (first : Committed task.run)
    (later : ∀ value, Committed (rest value).run) : Committed (task >>= rest).run := by
  refine ⟨Task.AsksOnly.bind first.asks fun value => (later value).asks, ?_⟩
  refine first.ends.bind fun result undisturbed => ?_
  cases result with
  | ok value => exact (later value).ends
  | error failure =>
    rintro _ ⟨⟩
    exact undisturbed failure rfl

theorem toward {task : Task Failure α} (steady : task.Steady Action.Heedless) :
    Committed (progress.toward next task).run :=
  ⟨Progress.asks_toward steady fun _ _ _ => trivial, Progress.undisturbed_toward steady⟩

theorem log_bind {topic : LogTopic} {level : LogLevel} {text : String}
    {rest : Unit → Task UpdateFailure α} (later : Committed (rest ()).run) :
    Committed (liftM (log topic level text) >>= rest : Task UpdateFailure α).run :=
  ⟨.ask trivial fun _ => later.asks, fun _ => later.ends⟩

theorem reached_bind {stage : Stage} {rest : Progress → Task UpdateFailure α}
    (later : Committed (rest { progress with lastCompleted := stage }).run) :
    Committed (liftM (progress.reached stage) >>= rest : Task UpdateFailure α).run :=
  ⟨.ask trivial fun _ => later.asks, fun _ => later.ends⟩

end Committed

theorem Stoppable.toward_bind {progress : Progress} {next : Stage} {task : Task Failure α}
    {rest : α → Task UpdateFailure β} (steady : task.Steady Action.Preparing)
    (later : ∀ value, Stoppable (rest value).run) :
    Stoppable (progress.toward next task >>= rest).run := by
  apply prepared (Progress.asks_toward steady fun _ _ _ => trivial) (Progress.undisturbed_toward steady)
  intro result undisturbed
  cases result with
  | ok value => exact later value
  | error failure =>
    refine committed ⟨.done, ?_⟩
    rintro _ ⟨⟩
    exact undisturbed failure rfl

namespace Artifact

theorem preparing_openSource (source : Source) (name : String) :
    Task.AsksOnly Action.Preparing (openSource source name) :=
  .ask trivial fun _ => .done

theorem preparing_openImage (artifact : Artifact) : Task.AsksOnly Action.Preparing artifact.openImage :=
  .ask trivial fun _ => .done

theorem steady_readSidecar (source : Source) (name : String) :
    Task.Steady Action.Preparing (readSidecar source name) := by
  refine Task.Steady.adapt (Task.AsksOnly.bind (preparing_openSource source name) fun opened => ?_)
    fun _ => trivial
  apply Task.AsksOnly.bind (.lift (.ask trivial fun _ => .done))
  intro stream
  cases sidecarText stream <;> exact .done

theorem preparing_stageImage (source : Source) (name : String) (dir : Path) :
    Task.AsksOnly Action.Preparing (stageImage source name dir) := by
  apply Task.AsksOnly.bind (.of (.ask trivial fun _ => .done) _)
  intro staged
  have copies : Task.AsksOnly Action.Preparing (do
      let image ← openSource source name
      Task.of id (Action.perform (.fill staged image))) :=
    .bind (preparing_openSource source name) fun image => .of (.ask trivial fun _ => .done) _
  apply Task.AsksOnly.bind (.lift copies)
  intro copied
  cases copied with
  | ok size => exact .done
  | error cause => exact .bind (.lift (.ask trivial fun _ => .done)) fun _ => .done

theorem steady_fetch (source : Source) (name : String) (dir : Path) :
    Task.Steady Action.Preparing (fetch source name dir) := by
  apply Task.Steady.lift_bind (.ask trivial fun _ => .done)
  intro _
  apply Task.Steady.bind (steady_readSidecar source _)
  intro checksumText
  apply Task.Steady.bind (steady_readSidecar source _)
  intro metadataText
  apply Task.Steady.bind
  · exact Task.Steady.adapt (preparing_stageImage source name dir) fun _ => trivial
  · intro staged
    exact .lift_bind (.ask trivial fun _ => .done) fun _ => .pure _

end Artifact

namespace Updater

variable {updater : Updater} {artifact : Artifact}

theorem preparing_cleanUp (updater : Updater) : updater.cleanUp.AsksOnly Action.Preparing :=
  updater.asksOnly_cleanUp (fun _ => trivial) (fun _ => trivial) fun _ _ _ => trivial

theorem steady_verifyChecksum : (updater.verifyChecksum artifact).Steady Action.Preparing := by
  apply Task.Steady.bind
  · exact Task.Steady.adapt artifact.preparing_openImage fun _ => trivial
  intro image
  apply Task.Steady.lift_bind (.ask trivial fun _ => .done)
  intro stream
  cases stream.contents with
  | error cause => exact .throw trivial
  | ok bytes =>
    cases artifact.checksum with
    | error cause =>
      exact .lift_bind (.ask trivial fun _ => .done) fun _ => .throw trivial
    | ok expected =>
      by_cases different : expected ≠ updater.hash bytes
      · simp only [if_pos different]
        exact .throw trivial
      · simp only [if_neg different]
        exact .pure _

theorem steady_verifyIntegrity : (updater.verifyIntegrity artifact).Steady Action.Preparing := by
  unfold verifyIntegrity
  cases artifact.metadata with
  | error cause => exact .throw trivial
  | ok metadata =>
    cases valid : (metadata.params updater.treeParams).validate with
    | error cause =>
      simp only [valid]
      exact .throw trivial
    | ok _ =>
      simp only [valid]
      apply Task.Steady.bind
      · exact Task.Steady.adapt artifact.preparing_openImage fun _ => trivial
      intro image
      apply Task.Steady.lift_bind (.ask trivial fun _ => .done)
      intro stream
      cases HashTree.build updater.hash (metadata.params updater.treeParams) stream with
      | error cause => exact .throw trivial
      | ok tree =>
        cases described : metadata.dataBlocks.filter (· ≠ tree.dataBlocks) with
        | some count =>
          simp only [described]
          exact .throw trivial
        | none =>
          simp only [described]
          by_cases same : tree.rootHash = metadata.rootHash
          · rw [if_pos same]
            exact .pure _
          · rw [if_neg same]
            exact .throw trivial

theorem steady_overwrite {target : Slot} :
    Task.Steady Action.Heedless (do
      (updater.menu.disable target).adapt .bootMenu
      Slots.clearRecord target
      writeSlot target artifact) := by
  apply Task.Steady.bind
  · refine .adapt ((BootMenu.clerical_disable _ target).books.mono fun _ => Action.Bookkeeping.heedless) fun _ => trivial
  intro _
  apply Task.Steady.bind
  · apply Task.Steady.ofBooks (Slots.clerical_clearRecord target).books
    exact Task.FailsOnlyBy.bind (Task.failsOnlyBy_of fun _ => trivial) fun _ =>
      (Program.endsOnlyWith_true _).bind fun done _ => Task.failsOnlyBy_pure done
  intro _
  apply Task.Steady.bind
  · refine .adapt (artifact.preparing_openImage.mono fun _ => Action.Preparing.heedless) fun _ => trivial
  intro image
  refine Task.Steady.bind (.of (.ask trivial fun _ => .done) ?_) fun written => ?_
  · exact fun _ => trivial
  by_cases whole : written ≠ artifact.imageSize
  · rw [if_pos whole]
    exact .throw trivial
  · rw [if_neg whole]
    exact .pure _

theorem steady_verifyWritten {target : Slot} {tree : HashTree} :
    (updater.verifyWritten target artifact tree).Steady Action.Heedless := by
  unfold verifyWritten
  cases artifact.metadata with
  | error cause => exact .throw trivial
  | ok metadata =>
    refine Task.Steady.bind (.of (.ask trivial fun _ => .done) ?_) fun written => ?_
    · exact fun _ => trivial
    apply Task.Steady.lift_bind (.ask trivial fun _ => .done)
    intro stream
    cases HashTree.build updater.hash (metadata.params updater.treeParams) stream with
    | error cause => exact .throw trivial
    | ok found =>
      by_cases other : found.rootHash ≠ tree.rootHash ∨ found.imageSize ≠ tree.imageSize
      · simp only [if_pos other]
        exact .throw trivial
      · simp only [if_neg other]
        exact .lift (.ask trivial fun _ => .done)

theorem steady_recordHash {target : Slot} {rootHash : String} :
    Task.Steady Action.Heedless (Slots.recordHash target rootHash) := by
  apply Task.Steady.ofBooks (Slots.clerical_recordHash target rootHash).books
  unfold Slots.recordHash
  dsimp only
  cases (Text.trimmed rootHash).isEmpty with
  | true => exact Task.failsOnlyBy_throw trivial
  | false =>
    cases Digest.parse (Text.trimmed rootHash) with
    | error cause => exact Task.failsOnlyBy_throw trivial
    | ok digest =>
      apply Task.failsOnlyBy_lift_bind
      intro time
      apply Task.FailsOnlyBy.bind (Task.failsOnlyBy_of fun _ => trivial)
      intro _
      exact Task.failsOnlyBy_lift_bind fun _ => Task.failsOnlyBy_pure _

theorem steady_enroll {target : Slot} {tree : HashTree} :
    Task.Steady Action.Heedless (do
      let _ ← Slots.recordHash target tree.rootHash.hex
      let _ ← Slots.commit updater.maxBootCount target) := by
  apply Task.Steady.bind steady_recordHash
  intro _
  refine Task.Steady.bind ?_ fun _ => .pure ()
  exact .ofBooks (Slots.books_commitAs _ _ target) (Slots.commitAs_fails (fun _ => trivial) trivial)

theorem steady_refresh : updater.menu.refresh.Steady Action.Heedless := by
  apply Task.Steady.ofBooks (BootMenu.clerical_refresh _).books
  refine updater.menu.refresh_fails.mono fun result ofRefresh cause same => ?_
  have known := ofRefresh cause same
  cases cause with
  | cancelled => exact known
  | _ => trivial

/-- The last look is before the boot menu hides the target. -/
theorem stoppable_install {target : Slot} {progress : Progress} {tree : HashTree}
    (untouched : progress.impact = .nothingTouched)
    {rest : Unit → Task UpdateFailure α} (later : ∀ done, Committed (rest done).run) :
    Stoppable (updater.install target progress artifact tree >>= rest).run := by
  unfold install
  rw [bind_assoc]
  apply Stoppable.unlessCancelled_bind untouched
  apply Stoppable.committed
  refine Committed.bind ?_ later
  apply Committed.log_bind
  refine Committed.bind (.toward steady_overwrite) fun _ => Committed.reached_bind ?_
  refine Committed.bind (.toward steady_verifyWritten) fun _ => Committed.reached_bind ?_
  refine Committed.bind (.toward steady_enroll) fun _ => ?_
  exact Committed.bind (.toward steady_refresh) fun _ => Committed.reached_bind (.pure ())

/-- What is done with a checked image has touched nothing before it. -/
theorem stoppable_withVerified {source : Source} {image : String}
    {next : Progress → Artifact → HashTree → Task UpdateFailure α}
    (later : ∀ progress artifact tree, progress.impact = .nothingTouched →
      Stoppable (next progress artifact tree).run) :
    Stoppable (updater.withVerified source image next).run := by
  apply Stoppable.unlessCancelled_bind rfl
  apply Stoppable.toward_bind (Artifact.steady_fetch _ _ _)
  intro artifact
  refine Stoppable.followedBy ?_ (.ask trivial fun _ => .done)
  apply Stoppable.reached_bind
  apply Stoppable.unlessCancelled_bind rfl
  apply Stoppable.toward_bind steady_verifyChecksum
  intro _
  apply Stoppable.reached_bind
  apply Stoppable.unlessCancelled_bind rfl
  apply Stoppable.toward_bind steady_verifyIntegrity
  intro tree
  apply Stoppable.reached_bind
  exact later _ artifact tree rfl

theorem stoppable_update (updater : Updater) (source : Source) (image : String) :
    Stoppable (updater.update source image).run := by
  apply Stoppable.toward_bind
  · exact .of (.ask trivial fun _ => .done) fun cause => by cases cause <;> trivial
  intro held
  refine Stoppable.followedBy ?_ (.ask trivial fun _ => .done)
  apply Stoppable.toward_bind
  · refine .bind (.of (.ask trivial fun _ => .done) fun _ => trivial) fun found => ?_
    cases found with
    | none => exact .throw trivial
    | some state => exact .pure state
  intro state
  apply Stoppable.lift_bind (preparing_cleanUp updater)
  intro _
  apply stoppable_withVerified
  intro progress artifact tree untouched
  exact stoppable_install untouched fun _ => .pure _

section Run

variable {σ : Type} {answer : (action : Action) → σ → action.Reply × σ} {faults : Faults}

theorem flagged_sound (view : σ → Machine) (flag : List Action → Bool)
    (sound : ∀ action state,
      Machine.answers faults action (view state) (answer action state).1 (view (answer action state).2))
    (action : Action) (state : σ × List Action) :
    Machine.answers faults action (view state.1) (flagged answer flag action state).1
      (view (flagged answer flag action state).2.1) := by
  cases action with
  | cancelled => exact rfl
  | _ => exact sound _ state.1

/-- An update whose flag is set at whatever point ends as, and has done all and only what it would have
if the flag were never set, or it fails as cancelled with nothing touched, and nothing of the books, the
slots and the menu is changed. Once it has turned to the entry of any slot it is not cancelled. -/
theorem update_stopped_or_unaffected (apart : updater.Apart) (view : σ → Machine)
    (sound : ∀ action state,
      Machine.answers faults action (view state) (answer action state).1 (view (answer action state).2))
    (source : Source) (image : String) (flag : List Action → Bool) (state : σ) :
    let unflagged := (updater.update source image).run.run (flagged answer fun _ => false) (state, [])
    let ended := (updater.update source image).run.run (flagged answer flag) (state, [])
    (ended = unflagged ∧ Undisturbed ended.1 ∨
      Stopped ended.1 ∧ updater.Untouched (view state).storage (view ended.2.1).storage) ∧
    ((∃ slot, .present (updater.menu.entryPath slot) ∈ ended.2.2) → Undisturbed ended.1) := by
  intro unflagged ended
  obtain same | ⟨stopped, only⟩ :=
    (stoppable_update updater source image).run answer flag state []
  · exact ⟨.inl same, fun _ => same.2⟩
  refine ⟨.inr ⟨stopped, ?_⟩, ?_⟩
  · obtain ⟨failure, failed, -, impact⟩ := stopped
    obtain ⟨target, aimed⟩ := (view state).storage.exists_target
    have ran : Program.Ends
        (fun action before reply after => Machine.answers faults action (view before.1) reply (view after.1))
        (updater.update source image).run (state, []) ended.1 ended.2 :=
      Program.ends_run (flagged_sound view flag sound) _ _
    -- What an update leaves behind is known of machines: this is one, seen without the flag.
    have reached : Program.Ends (Machine.answers faults) (updater.update source image).run (view state)
        ended.1 (view ended.2.1) :=
      ran.seen (fun seen : σ × List Action => view seen.1) fun _ _ _ _ answered => answered
    rw [show ended.1 = .error failure from failed] at reached
    have explains : updater.Explains faults (view state).storage failure (view ended.2.1).storage :=
      (safe_update aimed).ends reached
    have left := explains.impact
    rw [impact] at left
    exact untouched_of_beside apart left
  · rintro ⟨slot, turned⟩
    rcases only _ turned with none | impossible | preparing
    · cases none
    · cases impossible
    · exact preparing.elim

end Run

/-- A small update with a flag. -/
def flaggedUpdate (flag : List Action → Bool) : Except UpdateFailure UpdateReport × Machine × List Action :=
  (small.update (.directory ⟨"/d"⟩) "i").run.run (flagged Temper.obliging.answer flag) (.running .a, [])

private theorem flaggedUpdate_ends :
    (match (flaggedUpdate fun asked => 22 ≤ asked.length).1 with
      | .ok _ => none
      | .error failure => some failure.cause) = some .cancelled ∧
    (flaggedUpdate fun asked => 23 ≤ asked.length).1.toOption.isSome = true := by
  decide +kernel

/-- A flag that is set before the twenty-third request stops the update, and a later one does not. -/
theorem update_stopped_or_unaffected_small :
    (Stopped (flaggedUpdate fun asked => 22 ≤ asked.length).1 ∧
      small.Untouched (Machine.running .a).storage
        (flaggedUpdate fun asked => 22 ≤ asked.length).2.1.storage) ∧
    (flaggedUpdate fun asked => 23 ≤ asked.length) = flaggedUpdate fun _ => false := by
  obtain ⟨cancelled, succeeds⟩ := flaggedUpdate_ends
  have ends (flag : List Action → Bool) :
      flaggedUpdate flag = flaggedUpdate (fun _ => false) ∧ Undisturbed (flaggedUpdate flag).1 ∨
        Stopped (flaggedUpdate flag).1 ∧
          small.Untouched (Machine.running .a).storage (flaggedUpdate flag).2.1.storage :=
    (update_stopped_or_unaffected small_apart id Temper.obliging.sound (.directory ⟨"/d"⟩) "i" flag
      (.running .a)).1
  constructor
  · apply (ends _).resolve_left
    rintro ⟨_, undisturbed⟩
    cases result : (flaggedUpdate fun asked => 22 ≤ asked.length).1 with
    | ok report =>
      rw [result] at cancelled
      cases cancelled
    | error failure =>
      rw [result] at cancelled
      exact undisturbed failure result (Option.some.inj cancelled)
  · rcases ends fun asked => 23 ≤ asked.length with ⟨same, _⟩ | ⟨⟨failure, failed, _⟩, _⟩
    · exact same
    · rw [failed] at succeeds
      cases succeeds

end Updater

end DualSlot
