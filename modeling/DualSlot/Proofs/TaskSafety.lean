import DualSlot.Proofs.MachineReplies

/-! Proof rules for tasks, one for each way in which tasks are put together, first among any
surroundings and then on a machine. The postcondition of a task speaks of its value or its failure and
of the state at its end. -/

namespace DualSlot

variable {σ α β ε ε' : Type} {answers : Surroundings actions σ} {guard : Action → σ → Prop} {state : σ}

/-- What holds of the state after a task, by whether it failed or what it came to. -/
def Leaves (failed : σ → Prop) (done : α → σ → Prop) : Except ε α → σ → Prop
  | .ok value, after => done value after
  | .error _, after => failed after

theorem Leaves.mapError {failed : σ → Prop} {done : α → σ → Prop} {reason : ε → ε'}
    {result : Except ε α} (leaves : Leaves failed done result state) :
    Leaves failed done (result.mapError reason) state := by
  cases result with
  | ok value => exact leaves
  | error cause => exact leaves

/-- Messages may always be logged, and change nothing. -/
class Silent (answers : Surroundings actions σ) (guard : Action → σ → Prop) : Prop where
  allowed : ∀ topic level text state, guard (.log topic level text) state
  same : ∀ topic level text state reply after,
    answers (.log topic level text) state reply after → after = state

namespace Acting

theorem Safe.bind {program : Acting α} {next : α → Acting β} {first : α → σ → Prop}
    {post : β → σ → Prop} (safe : Program.Safe answers guard first program state)
    (rest : ∀ value after, first value after → Program.Safe answers guard post (next value) after) :
    Program.Safe answers guard post (program >>= next) state :=
  Program.Safe.bind safe rest

theorem safe_ask (action : Action) {post : action.Reply → σ → Prop} (allowed : guard action state)
    (replied : ∀ reply after, answers action state reply after → post reply after) :
    Program.Safe answers guard post action.perform state :=
  .ask allowed fun reply after answer => .done (replied reply after answer)

theorem safe_log [silent : Silent answers guard] {topic : LogTopic} {level : LogLevel} {text : String}
    {post : Unit → σ → Prop} (holds : post () state) :
    Program.Safe answers guard post (log topic level text) state := by
  refine safe_ask (.log topic level text) (silent.allowed _ _ _ _) fun reply after answer => ?_
  rw [silent.same _ _ _ _ _ _ answer]
  exact holds

theorem safe_log_bind [Silent answers guard] {topic : LogTopic} {level : LogLevel} {text : String}
    {next : Unit → Acting α} {post : α → σ → Prop}
    (safe : Program.Safe answers guard post (next ()) state) :
    Program.Safe answers guard post (log topic level text >>= next) state := by
  have logged : Program.Safe answers guard (fun _ after => after = state) (log topic level text) state :=
    safe_log rfl
  exact logged.bind fun _ _ same => same ▸ safe

end Acting

namespace Task

theorem Safe.bind {task : Task ε α} {next : α → Task ε β} {Q : Except ε α → σ → Prop}
    {post : Except ε β → σ → Prop} (safe : Program.Safe answers guard Q task.run state)
    (failed : ∀ cause after, Q (.error cause) after → post (.error cause) after)
    (rest : ∀ value after, Q (.ok value) after →
      Program.Safe answers guard post (next value).run after) :
    Program.Safe answers guard post (task >>= next).run state := by
  refine Program.Safe.bind safe fun result after reached => ?_
  cases result with
  | ok value => exact rest value after reached
  | error cause => exact .done (failed cause after reached)

theorem safe_lift {program : Acting α} {post : Except ε α → σ → Prop}
    (safe : Program.Safe answers guard (fun value => post (.ok value)) program state) :
    Program.Safe answers guard post (liftM program : Task ε α).run state :=
  Program.Safe.bind safe fun _ _ reached => .done reached

theorem Safe.lift_bind {program : Acting α} {next : α → Task ε β} {Q : α → σ → Prop}
    {post : Except ε β → σ → Prop} (safe : Program.Safe answers guard Q program state)
    (rest : ∀ value after, Q value after → Program.Safe answers guard post (next value).run after) :
    Program.Safe answers guard post (liftM program >>= next : Task ε β).run state :=
  Safe.bind (Q := Leaves (fun _ => False) Q) (safe_lift safe) (fun _ _ never => never.elim) rest

theorem safe_log_bind [Silent answers guard] {topic : LogTopic} {level : LogLevel} {text : String}
    {next : Unit → Task ε α} {post : Except ε α → σ → Prop}
    (safe : Program.Safe answers guard post (next ()).run state) :
    Program.Safe answers guard post (liftM (log topic level text) >>= next : Task ε α).run state :=
  Acting.safe_log_bind safe

theorem safe_adapt {task : Task ε α} {reason : ε → ε'} {post : Except ε' α → σ → Prop}
    (safe : Program.Safe answers guard (fun result => post (result.mapError reason)) task.run state) :
    Program.Safe answers guard post (task.adapt reason).run state :=
  Program.Safe.bind safe fun _ _ reached => .done reached

/-- What does not depend on the reason of a failure is left to hold. -/
theorem safe_adapt_leaves {task : Task ε α} {reason : ε → ε'} {kept failed : σ → Prop}
    {done : α → σ → Prop}
    (safe : Program.Safe answers guard
      (fun result after => kept after ∧ Leaves failed done result after) task.run state) :
    Program.Safe answers guard (fun result after => kept after ∧ Leaves failed done result after)
      (task.adapt reason).run state :=
  safe_adapt (Program.Safe.weaken safe fun _ _ ⟨holds, leaves⟩ => ⟨holds, leaves.mapError⟩)

theorem safe_of {reply : Acting (Except ε α)} {reason : ε → ε'} {post : Except ε' α → σ → Prop}
    (safe : Program.Safe answers guard (fun result => post (result.mapError reason)) reply state) :
    Program.Safe answers guard post (Task.of reason reply).run state :=
  Program.Safe.bind safe fun _ _ reached => .done reached

theorem safe_outcome {task : Task ε α} {post : Except ε' (Except ε α) → σ → Prop}
    (safe : Program.Safe answers guard (fun result => post (.ok result)) task.run state) :
    Program.Safe answers guard post (task.outcome : Task ε' (Except ε α)).run state :=
  Program.Safe.bind safe fun _ _ reached => .done reached

theorem safe_followedBy {task : Task ε α} {after : Acting Unit} {post : Except ε α → σ → Prop}
    (safe : Program.Safe answers guard (fun result reached =>
      Program.Safe answers guard (fun _ => post result) after reached) task.run state) :
    Program.Safe answers guard post (task.followedBy after).run state :=
  Program.Safe.bind safe fun _ _ reached => Program.Safe.bind reached fun _ _ left => .done left

/-- Nothing without the property is ever asked for by the task. -/
abbrev AsksOnly (property : Action → Prop) (task : Task ε α) : Prop :=
  Program.AsksOnly property task.run

namespace AsksOnly

variable {property : Action → Prop}

theorem bind {task : Task ε α} {next : α → Task ε β} (first : AsksOnly property task)
    (rest : ∀ value, AsksOnly property (next value)) : AsksOnly property (task >>= next) := by
  refine Program.AsksOnly.bind first fun result => ?_
  cases result with
  | ok value => exact rest value
  | error cause => exact .done

theorem lift {program : Acting α} (only : Program.AsksOnly property program) :
    AsksOnly property (liftM program : Task ε α) :=
  Program.AsksOnly.bind only fun _ => .done

theorem adapt {task : Task ε α} (only : AsksOnly property task) (reason : ε → ε') :
    AsksOnly property (task.adapt reason) :=
  Program.AsksOnly.bind only fun _ => .done

theorem of {reply : Acting (Except ε α)} (only : Program.AsksOnly property reply)
    (reason : ε → ε') : AsksOnly property (Task.of reason reply) :=
  Program.AsksOnly.bind only fun _ => .done

end AsksOnly

end Task

namespace Progress

variable {progress : Progress} {next : Stage}

theorem safe_toward [Silent answers guard] {task : Task Failure α}
    {post : Except UpdateFailure α → σ → Prop}
    (safe : Program.Safe answers guard
      (fun result => post (result.mapError (progress.fail next))) task.run state) :
    Program.Safe answers guard post (progress.toward next task).run state := by
  refine Program.Safe.bind safe fun result after reached => ?_
  cases result with
  | ok value => exact .done reached
  | error cause => exact Acting.safe_log_bind (.done reached)

theorem safe_reached_bind [Silent answers guard] {stage : Stage}
    {rest : Progress → Task UpdateFailure α} {post : Except UpdateFailure α → σ → Prop}
    (safe : Program.Safe answers guard post
      (rest { progress with lastCompleted := stage }).run state) :
    Program.Safe answers guard post (liftM (progress.reached stage) >>= rest).run state := by
  refine Task.Safe.lift_bind (Q := fun reached after =>
    reached = { progress with lastCompleted := stage } ∧ after = state) ?_ ?_
  · exact Acting.safe_log_bind (.done ⟨rfl, rfl⟩)
  · rintro _ _ ⟨rfl, rfl⟩
    exact safe

end Progress

/-- What may be asked for at which point. What leaves everything as it is may always be. -/
structure Discipline where
  allows : Action → Storage → Prop
  quiet : ∀ action storage, action.Quiet → allows action storage

/-- Anything may be asked for at any point. -/
def Discipline.free : Discipline := ⟨fun _ _ => True, fun _ _ _ => trivial⟩

variable {faults : Faults} {discipline : Discipline} {machine : Machine}

instance : Silent (Machine.answers faults)
    (fun action machine => discipline.allows action machine.storage) where
  allowed _ _ _ machine := discipline.quiet _ machine.storage trivial
  same _ _ _ _ _ _ answer := answer

abbrev Acting.Safe (faults : Faults) (discipline : Discipline) (post : α → Machine → Prop)
    (program : Acting α) (machine : Machine) : Prop :=
  Program.Safe (Machine.answers faults) (fun action machine => discipline.allows action machine.storage)
    post program machine

abbrev Task.Safe (faults : Faults) (discipline : Discipline) (post : Except ε α → Machine → Prop)
    (task : Task ε α) (machine : Machine) : Prop :=
  Acting.Safe faults discipline post task.run machine

/-- A program that leaves everything that persists as it is. -/
abbrev Acting.Quiet (program : Acting α) : Prop := Program.AsksOnly Action.Quiet program

abbrev Task.Quiet (task : Task ε α) : Prop := Task.AsksOnly Action.Quiet task

namespace Acting

theorem safe_perform (action : Action) {post : action.Reply → Machine → Prop}
    (allowed : discipline.allows action machine.storage)
    (replied : ∀ reply after, Machine.answers faults action machine reply after →
      post reply after) :
    Safe faults discipline post action.perform machine :=
  safe_ask action allowed replied

theorem Quiet.safe {program : Acting α} (quiet : Quiet program) :
    Safe faults discipline (fun _ after => after.storage = machine.storage) program machine :=
  Program.AsksOnly.safe quiet (fun action before quiet _ => discipline.quiet action before.storage quiet)
    (fun _ _ _ _ quiet kept answer => (quiet.keeps answer).trans kept) rfl

theorem quiet_perform (action : Action) (quiet : action.Quiet) : Quiet action.perform :=
  .ask quiet fun _ => .done

end Acting

/-- What holds of a failure and what holds of a value are said apart. -/
theorem Task.Safe.leaves {task : Task ε α} {Q : Except ε α → Machine → Prop} {left : Machine → Prop}
    {done : α → Machine → Prop} (safe : Task.Safe faults discipline Q task machine)
    (failed : ∀ cause after, Q (.error cause) after → left after)
    (succeeded : ∀ value after, Q (.ok value) after → done value after) :
    Task.Safe faults discipline (Leaves left done) task machine := by
  refine Program.Safe.weaken safe fun result after holds => ?_
  cases result with
  | ok value => exact succeeded value after holds
  | error cause => exact failed cause after holds

/-- A cancellation comes before anything else is done. -/
theorem Progress.safe_unlessCancelled {progress : Progress} {next : Stage}
    {post : Except UpdateFailure Unit → Machine → Prop}
    (cancelled : post (.error (progress.fail next .cancelled)) machine)
    (goes : post (.ok ()) machine) :
    Task.Safe faults discipline post (progress.unlessCancelled next) machine := by
  refine safe_toward (Task.Safe.bind (Q := fun result after =>
    after = machine ∧ ∃ value, result = .ok value) ?_ ?_ ?_)
  · refine Task.safe_lift (Acting.safe_perform _ (discipline.quiet _ _ trivial) fun reply after answer => ?_)
    exact ⟨answer, reply, rfl⟩
  · rintro cause after ⟨-, value, impossible⟩
    cases impossible
  · rintro value after ⟨rfl, -⟩
    cases value with
    | true => exact .done cancelled
    | false => exact .done goes

end DualSlot
