import DualSlot.Program

/-! Programs among surroundings that choose every reply and change as they give it. A program is safe
if it asks for nothing where it should not, whatever it was replied to before; that a run may stop
after any reply is part of the definition of what it reaches. -/

namespace DualSlot

/-- The replies that a request may get in a state, each with the state after it. -/
abbrev Surroundings (I : Interface) (σ : Type) :=
  (request : I.Request) → σ → I.Reply request → σ → Prop

namespace Program

variable {I : Interface} {σ α β : Type} {answers : Surroundings I σ}
  {guard : I.Request → σ → Prop} {post : α → σ → Prop}

/-- What is left of a program after some of its requests, and the state at that point. -/
inductive Reaches (answers : Surroundings I σ) : Program I α → σ → Program I α → σ → Prop where
  | here {program state} : Reaches answers program state program state
  | next {request next state reply middle rest final}
      (answer : answers request state reply middle)
      (later : Reaches answers (next reply) middle rest final) :
      Reaches answers (.ask request next) state rest final

/-- The program may end with the value, and leave the state. -/
abbrev Ends (answers : Surroundings I σ) (program : Program I α) (state : σ) (value : α)
    (final : σ) : Prop :=
  Reaches answers program state (.done value) final

theorem Reaches.trans {program middle rest : Program I α} {state between final : σ}
    (first : Reaches answers program state middle between)
    (second : Reaches answers middle between rest final) : Reaches answers program state rest final := by
  induction first with
  | here => exact second
  | next answer _ ih => exact .next answer (ih second)

/-- Whatever it is replied to, the program asks only for what the guard allows at that point, and
ends as the postcondition says. -/
inductive Safe (answers : Surroundings I σ) (guard : I.Request → σ → Prop) (post : α → σ → Prop) :
    Program I α → σ → Prop where
  | done {value state} (holds : post value state) : Safe answers guard post (.done value) state
  | ask {request next state} (allowed : guard request state)
      (later : ∀ reply after, answers request state reply after →
        Safe answers guard post (next reply) after) :
      Safe answers guard post (.ask request next) state

theorem Safe.mono {guard' : I.Request → σ → Prop} {post' : α → σ → Prop} {program : Program I α}
    {state : σ} (safe : Safe answers guard post program state)
    (weaker : ∀ request state, guard request state → guard' request state)
    (implies : ∀ value state, post value state → post' value state) :
    Safe answers guard' post' program state := by
  induction safe with
  | done holds => exact .done (implies _ _ holds)
  | ask allowed _ ih => exact .ask (weaker _ _ allowed) ih

theorem Safe.weaken {post' : α → σ → Prop} {program : Program I α} {state : σ}
    (safe : Safe answers guard post program state)
    (implies : ∀ value state, post value state → post' value state) :
    Safe answers guard post' program state :=
  safe.mono (fun _ _ allowed => allowed) implies

/-- Nothing needs to be known of a program that may ask for anything. -/
theorem safe_anything (allowed : ∀ request state, guard request state) (program : Program I α) (state : σ) :
    Safe answers guard (fun _ _ => True) program state := by
  induction program generalizing state with
  | done value => exact .done trivial
  | ask request next ih => exact .ask (allowed request state) fun reply after _ => ih reply after

theorem Safe.bind {program : Program I α} {next : α → Program I β} {first : α → σ → Prop}
    {post : β → σ → Prop} {state : σ} (safe : Safe answers guard first program state)
    (rest : ∀ value after, first value after → Safe answers guard post (next value) after) :
    Safe answers guard post (program.bind next) state := by
  induction safe with
  | done holds => exact rest _ _ holds
  | ask allowed _ ih => exact .ask allowed ih

/-- A safe program is safe wherever it got to. -/
theorem Safe.reaches {program rest : Program I α} {state final : σ}
    (safe : Safe answers guard post program state)
    (reached : Reaches answers program state rest final) :
    Safe answers guard post rest final := by
  induction reached with
  | here => exact safe
  | next answer _ ih =>
    cases safe with
    | ask allowed later => exact ih (later _ _ answer)

theorem Safe.ends {program : Program I α} {value : α} {state final : σ}
    (safe : Safe answers guard post program state)
    (ended : Ends answers program state value final) : post value final := by
  cases safe.reaches ended with
  | done holds => exact holds

/-- What every guarded step keeps is kept up to every point of a safe program's run. -/
theorem Safe.invariant {program rest : Program I α} {state final : σ} (kept : σ → Prop)
    (safe : Safe answers guard post program state)
    (step : ∀ request before reply after, guard request before → kept before →
      answers request before reply after → kept after)
    (reached : Reaches answers program state rest final) (initial : kept state) : kept final := by
  induction reached with
  | here => exact initial
  | next answer _ ih =>
    cases safe with
    | ask allowed later => exact ih (later _ _ answer) (step _ _ _ _ allowed initial answer)

/-- Nothing without the property is ever asked for. -/
inductive AsksOnly (property : I.Request → Prop) : Program I α → Prop where
  | done {value} : AsksOnly property (.done value)
  | ask {request next} (holds : property request) (later : ∀ reply, AsksOnly property (next reply)) :
      AsksOnly property (.ask request next)

theorem AsksOnly.bind {property : I.Request → Prop} {program : Program I α} {next : α → Program I β}
    (only : program.AsksOnly property) (rest : ∀ value, (next value).AsksOnly property) :
    (program.bind next).AsksOnly property := by
  induction only with
  | done => exact rest _
  | ask holds _ ih => exact .ask holds ih

theorem AsksOnly.mono {property weaker : I.Request → Prop} {program : Program I α}
    (only : program.AsksOnly property) (implies : ∀ request, property request → weaker request) :
    program.AsksOnly weaker := by
  induction only with
  | done => exact .done
  | ask holds _ ih => exact .ask (implies _ holds) ih

/-- A program whose requests all keep something is safe and keeps it. -/
theorem AsksOnly.safe {property : I.Request → Prop} {kept : σ → Prop} {program : Program I α}
    {state : σ} (only : program.AsksOnly property)
    (guarded : ∀ request before, property request → kept before → guard request before)
    (step : ∀ request before reply after, property request → kept before →
      answers request before reply after → kept after)
    (initial : kept state) : Safe answers guard (fun _ after => kept after) program state := by
  induction only generalizing state with
  | done => exact .done initial
  | ask holds _ ih =>
    exact .ask (guarded _ state holds initial) fun reply after answer =>
      ih reply (step _ _ _ _ holds initial answer)

/-- What is left of a program before the first request that it stops at, where each has one reply. -/
def upTo (answer : (request : I.Request) → σ → I.Reply request × σ) (stops : I.Request → Bool) :
    Program I α → σ → Program I α × σ
  | .done value, state => (.done value, state)
  | .ask request next, state =>
    if stops request then (.ask request next, state)
    else (next (answer request state).1).upTo answer stops (answer request state).2

theorem reaches_upTo {answer : (request : I.Request) → σ → I.Reply request × σ}
    (sound : ∀ request state, answers request state (answer request state).1 (answer request state).2)
    (stops : I.Request → Bool) (program : Program I α) (state : σ) :
    Reaches answers program state (program.upTo answer stops state).1
      (program.upTo answer stops state).2 := by
  induction program generalizing state with
  | done value => exact .here
  | ask request next ih =>
    rw [upTo]
    split
    · exact .here
    · exact .next (sound request state) (ih _ _)

theorem ends_run {answer : (request : I.Request) → σ → I.Reply request × σ}
    (sound : ∀ request state, answers request state (answer request state).1 (answer request state).2)
    (program : Program I α) (state : σ) :
    Ends answers program state (program.run answer state).1 (program.run answer state).2 := by
  induction program generalizing state with
  | done value => exact .here
  | ask request next ih => exact .next (sound request state) (ih _ _)

end Program

end DualSlot
