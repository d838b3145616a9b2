import DualSlot.Proofs.TaskSafety

/-! How a task that succeeded must have gone: the values and the states in between, one rule for each
way in which tasks are put together. Nothing is assumed of what replies, but where a rule passes over
the log that the log changes nothing. -/

namespace DualSlot

namespace Program

variable {I : Interface} {σ τ α β : Type} {answers : Surroundings I σ}

theorem Ends.of_done {value result : α} {start final : σ}
    (ended : Ends answers (.done value) start result final) : result = value ∧ final = start := by
  cases ended
  exact ⟨rfl, rfl⟩

theorem Ends.of_bind {program : Program I α} {next : α → Program I β} {start final : σ} {result : β}
    (ended : Ends answers (program.bind next) start result final) :
    ∃ value middle, Ends answers program start value middle ∧
      Ends answers (next value) middle result final := by
  induction program generalizing start with
  | done value => exact ⟨value, start, .here, ended⟩
  | ask request rest ih =>
    cases ended with
    | next answer later =>
      obtain ⟨value, middle, first, last⟩ := ih _ later
      exact ⟨value, middle, .next answer first, last⟩

theorem Ends.of_perform {request : I.Request} {start final : σ} {reply : I.Reply request}
    (ended : Ends answers (perform request) start reply final) : answers request start reply final := by
  cases ended with
  | next answer later =>
    obtain ⟨rfl, rfl⟩ := Ends.of_done later
    exact answer

/-- A run among surroundings is one among any that allow for all that they do to what is seen. -/
theorem Reaches.seen {outer : Surroundings I τ} (view : τ → σ)
    (refines : ∀ request before reply after, outer request before reply after →
      answers request (view before) reply (view after))
    {program rest : Program I α} {start final : τ} (reached : Reaches outer program start rest final) :
    Reaches answers program (view start) rest (view final) := by
  induction reached with
  | here => exact .here
  | next answer _ ih => exact .next (refines _ _ _ _ answer) ih

theorem Safe.seen {outer : Surroundings I τ} (view : τ → σ)
    (refines : ∀ request before reply after, outer request before reply after →
      answers request (view before) reply (view after))
    {guard : I.Request → σ → Prop} {post : α → σ → Prop} {program : Program I α} {start : τ}
    (safe : Safe answers guard post program (view start)) :
    Safe outer (fun request state => guard request (view state))
      (fun value state => post value (view state)) program start := by
  induction program generalizing start with
  | done value =>
    cases safe with
    | done holds => exact .done holds
  | ask request next ih =>
    cases safe with
    | ask allowed later =>
      exact .ask allowed fun reply after answer =>
        ih reply (later reply (view after) (refines _ _ _ _ answer))

/-- What is known of a safe program holds when it is run on something whose replies are among those. -/
theorem Safe.run (view : τ → σ) (start : τ) {answer : (request : I.Request) → τ → I.Reply request × τ}
    {guard : I.Request → σ → Prop} {post : α → σ → Prop} {program : Program I α}
    (safe : Safe answers guard post program (view start))
    (sound : ∀ request state, answers request (view state) (answer request state).1 (view (answer request state).2)) :
    post (program.run answer start).1 (view (program.run answer start).2) := by
  have seen : Safe (fun request before reply after => answers request (view before) reply (view after)) _ _
      program start := safe.seen view fun _ _ _ _ answered => answered
  exact seen.ends (ends_run sound program start)

/-- Whatever it is replied to, the program ends only with values that have the property. -/
def EndsOnlyWith (property : α → Prop) : Program I α → Prop
  | .done value => property value
  | .ask _ next => ∀ reply, (next reply).EndsOnlyWith property

theorem EndsOnlyWith.bind {first : α → Prop} {property : β → Prop} {next : α → Program I β}
    {program : Program I α} (only : program.EndsOnlyWith first)
    (later : ∀ value, first value → (next value).EndsOnlyWith property) :
    (program.bind next).EndsOnlyWith property := by
  induction program with
  | done value => exact later value only
  | ask request rest ih => exact fun reply => ih reply (only reply)

theorem endsOnlyWith_true : (program : Program I α) → program.EndsOnlyWith fun _ => True
  | .done _ => trivial
  | .ask _ next => fun reply => endsOnlyWith_true (next reply)

/-- What a program can end with is part of what is known where it ends. -/
theorem Safe.restrict {guard : I.Request → σ → Prop} {post : α → σ → Prop} {property : α → Prop}
    {program : Program I α} {start : σ} (safe : Safe answers guard post program start)
    (only : program.EndsOnlyWith property) :
    Safe answers guard (fun value final => post value final ∧ property value) program start := by
  induction safe with
  | done holds => exact .done ⟨holds, only⟩
  | ask allowed _ ih => exact .ask allowed fun reply after answer => ih reply after answer (only reply)

end Program

/-- What happens beside the task is not changed by its log, nor by looking whether it is to stop. -/
structure Surroundings.Silent {σ : Type} (answers : Surroundings actions σ) : Prop where
  log : ∀ topic level text before reply after,
    answers (.log topic level text) before reply after → after = before
  cancelled : ∀ before reply after, answers .cancelled before reply after → after = before

theorem Machine.answers_silent (faults : Faults) : Surroundings.Silent (Machine.answers faults) where
  log _ _ _ _ _ _ same := same
  cancelled _ _ _ same := same

variable {σ ε ε' α β : Type} {answers : Surroundings actions σ} {start final : σ}

/-- The task may succeed with the value and leave the state. -/
abbrev Task.Yields (answers : Surroundings actions σ) (task : Task ε α) (start : σ) (value : α)
    (final : σ) : Prop :=
  Program.Ends answers task.run start (.ok value) final

theorem Task.yields_run {answer : (action : Action) → σ → action.Reply × σ}
    (sound : ∀ action state, answers action state (answer action state).1 (answer action state).2)
    {task : Task ε α} {value : α}
    (succeeds : (Program.run answer task.run start).1.toOption = some value) :
    Task.Yields answers task start value (Program.run answer task.run start).2 := by
  have ended := Program.ends_run sound task.run start
  cases result : (Program.run answer task.run start).1 with
  | error cause =>
    rw [result] at succeeds
    cases succeeds
  | ok found =>
    rw [result] at succeeds ended
    obtain rfl := Option.some_inj.1 succeeds
    exact ended

theorem Task.Yields.holds {faults : Faults} {task : Task ε α} {value : α} {before after : Machine}
    {post : Except ε α → Machine → Prop}
    (ended : Task.Yields (Machine.answers faults) task before value after)
    (safe : Task.Safe faults .free post task before) : post (.ok value) after :=
  Program.Safe.ends safe ended

namespace Acting

theorem ends_bind {program : Acting α} {next : α → Acting β} {result : β}
    (ended : Program.Ends answers (program >>= next) start result final) :
    ∃ value middle, Program.Ends answers program start value middle ∧
      Program.Ends answers (next value) middle result final :=
  Program.Ends.of_bind ended

theorem ends_log_bind (silent : answers.Silent) {topic : LogTopic} {level : LogLevel} {text : String}
    {next : Unit → Acting α} {result : α}
    (ended : Program.Ends answers (log topic level text >>= next) start result final) :
    Program.Ends answers (next ()) start result final := by
  obtain ⟨_, middle, logged, later⟩ := ends_bind ended
  rw [← silent.log _ _ _ _ _ _ logged.of_perform]
  exact later

end Acting

namespace Task

theorem yields_pure {value result : α}
    (ended : Yields answers (pure value : Task ε α) start result final) :
    result = value ∧ final = start := by
  obtain ⟨same, kept⟩ := Program.Ends.of_done ended
  exact ⟨Except.ok.inj same, kept⟩

theorem not_yields_throw {cause : ε} {result : α} :
    ¬ Yields answers (throw cause : Task ε α) start result final := by
  intro ended
  cases (Program.Ends.of_done ended).1

theorem yields_bind {task : Task ε α} {next : α → Task ε β} {result : β}
    (ended : Yields answers (task >>= next) start result final) :
    ∃ value middle, Yields answers task start value middle ∧
      Yields answers (next value) middle result final := by
  obtain ⟨result, middle, first, later⟩ := Program.Ends.of_bind ended
  cases result with
  | ok value => exact ⟨value, middle, first, later⟩
  | error cause => cases (Program.Ends.of_done later).1

theorem yields_lift_bind {program : Acting α} {next : α → Task ε β} {result : β}
    (ended : Yields answers (liftM program >>= next) start result final) :
    ∃ value middle, Program.Ends answers program start value middle ∧
      Yields answers (next value) middle result final := by
  obtain ⟨value, middle, lifted, later⟩ := yields_bind ended
  obtain ⟨found, reached, first, done⟩ := Program.Ends.of_bind lifted
  obtain ⟨same, rfl⟩ := Program.Ends.of_done done
  obtain rfl := Except.ok.inj same
  exact ⟨_, _, first, later⟩

theorem yields_log_bind (silent : answers.Silent) {topic : LogTopic} {level : LogLevel} {text : String}
    {next : Unit → Task ε α} {result : α}
    (ended : Yields answers (liftM (log topic level text) >>= next) start result final) :
    Yields answers (next ()) start result final := by
  obtain ⟨_, middle, logged, later⟩ := yields_lift_bind ended
  rw [← silent.log _ _ _ _ _ _ logged.of_perform]
  exact later

theorem yields_of {reply : Acting (Except ε α)} {reason : ε → ε'} {result : α}
    (ended : Yields answers (Task.of reason reply) start result final) :
    Program.Ends answers reply start (.ok result) final := by
  obtain ⟨outcome, middle, first, done⟩ := Program.Ends.of_bind ended
  obtain ⟨same, rfl⟩ := Program.Ends.of_done done
  cases outcome with
  | ok value =>
    obtain rfl := Except.ok.inj same
    exact first
  | error cause => cases same

theorem yields_adapt {task : Task ε α} {reason : ε → ε'} {result : α}
    (ended : Yields answers (task.adapt reason) start result final) :
    Yields answers task start result final :=
  yields_of ended

theorem yields_outcome {task : Task ε α} {result : Except ε α}
    (ended : Yields answers (task.outcome : Task ε' (Except ε α)) start result final) :
    Program.Ends answers task.run start result final := by
  obtain ⟨found, middle, first, done⟩ := Program.Ends.of_bind ended
  obtain ⟨same, rfl⟩ := Program.Ends.of_done done
  obtain rfl := Except.ok.inj same
  exact first

theorem yields_followedBy {task : Task ε α} {after : Acting Unit} {result : α}
    (ended : Yields answers (task.followedBy after) start result final) :
    ∃ middle, Yields answers task start result middle ∧
      Program.Ends answers after middle () final := by
  obtain ⟨outcome, middle, first, later⟩ := Program.Ends.of_bind ended
  obtain ⟨_, last, followed, done⟩ := Program.Ends.of_bind later
  obtain ⟨same, rfl⟩ := Program.Ends.of_done done
  rw [← same] at first
  exact ⟨middle, first, followed⟩

/-- Whatever it is replied to, the task fails only for causes that have the property. -/
def FailsOnlyBy (property : ε → Prop) (task : Task ε α) : Prop :=
  task.run.EndsOnlyWith fun result => ∀ cause, result = .error cause → property cause

variable {property : ε' → Prop}

theorem failsOnlyBy_pure (value : α) : FailsOnlyBy property (pure value) :=
  fun _ impossible => by cases impossible

theorem failsOnlyBy_throw {cause : ε'} (holds : property cause) :
    FailsOnlyBy property (throw cause : Task ε' α) := by
  rintro _ ⟨⟩
  exact holds

theorem FailsOnlyBy.bind {task : Task ε' α} {next : α → Task ε' β} (first : FailsOnlyBy property task)
    (later : ∀ value, FailsOnlyBy property (next value)) : FailsOnlyBy property (task >>= next) := by
  refine Program.EndsOnlyWith.bind first fun result fails => ?_
  cases result with
  | ok value => exact later value
  | error cause => exact fun _ same => by cases same; exact fails cause rfl

theorem failsOnlyBy_lift_bind {program : Acting α} {next : α → Task ε' β}
    (later : ∀ value, FailsOnlyBy property (next value)) :
    FailsOnlyBy property (liftM program >>= next) := by
  refine FailsOnlyBy.bind ?_ later
  exact Program.EndsOnlyWith.bind (Program.endsOnlyWith_true _) fun value _ => failsOnlyBy_pure value

theorem failsOnlyBy_of {reply : Acting (Except ε α)} {reason : ε → ε'}
    (holds : ∀ cause, property (reason cause)) : FailsOnlyBy property (Task.of reason reply) := by
  refine Program.EndsOnlyWith.bind (Program.endsOnlyWith_true _) fun result _ => ?_
  cases result with
  | ok value => exact failsOnlyBy_pure value
  | error cause => exact failsOnlyBy_throw (holds cause)

theorem failsOnlyBy_adapt {task : Task ε α} {reason : ε → ε'} (holds : ∀ cause, property (reason cause)) :
    FailsOnlyBy property (task.adapt reason) :=
  failsOnlyBy_of holds

theorem Safe.failing {faults : Faults} {discipline : Discipline} {machine : Machine} {task : Task ε' α}
    {post : Except ε' α → Machine → Prop} (safe : Safe faults discipline post task machine)
    (fails : FailsOnlyBy property task) :
    Safe faults discipline
      (fun result after => post result after ∧ ∀ cause, result = .error cause → property cause)
      task machine :=
  Program.Safe.restrict safe fails

end Task

namespace Progress

variable {progress : Progress} {next : Stage}

theorem yields_toward {task : Task Failure α} {result : α}
    (ended : Task.Yields answers (progress.toward next task) start result final) :
    Task.Yields answers task start result final := by
  obtain ⟨outcome, middle, first, later⟩ := Program.Ends.of_bind ended
  cases outcome with
  | ok value =>
    obtain ⟨same, rfl⟩ := Program.Ends.of_done later
    obtain rfl := Except.ok.inj same
    exact first
  | error cause =>
    obtain ⟨_, last, -, done⟩ := Acting.ends_bind later
    cases (Program.Ends.of_done done).1

theorem yields_toward_bind {task : Task Failure α} {rest : α → Task UpdateFailure β} {result : β}
    (ended : Task.Yields answers (progress.toward next task >>= rest) start result final) :
    ∃ value middle, Task.Yields answers task start value middle ∧
      Task.Yields answers (rest value) middle result final := by
  obtain ⟨value, middle, first, later⟩ := Task.yields_bind ended
  exact ⟨value, middle, yields_toward first, later⟩

theorem yields_unlessCancelled_bind (silent : answers.Silent) {rest : Unit → Task UpdateFailure β}
    {result : β}
    (ended : Task.Yields answers (progress.unlessCancelled next >>= rest) start result final) :
    Task.Yields answers (rest ()) start result final := by
  obtain ⟨_, middle, looked, later⟩ := yields_toward_bind ended
  obtain ⟨stop, seen, asked, decided⟩ := Task.yields_lift_bind looked
  cases stop with
  | true => exact (Task.not_yields_throw decided).elim
  | false =>
    obtain ⟨-, rfl⟩ := Task.yields_pure decided
    rw [← silent.cancelled _ _ _ asked.of_perform]
    exact later

theorem yields_reached_bind (silent : answers.Silent) {stage : Stage}
    {rest : Progress → Task UpdateFailure β} {result : β}
    (ended : Task.Yields answers (liftM (progress.reached stage) >>= rest) start result final) :
    Task.Yields answers (rest { progress with lastCompleted := stage }) start result final := by
  obtain ⟨reached, middle, first, later⟩ := Task.yields_lift_bind ended
  have logged := Acting.ends_log_bind silent first
  obtain ⟨rfl, rfl⟩ := Program.Ends.of_done logged
  exact later

end Progress

end DualSlot
