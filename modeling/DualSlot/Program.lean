/-!
Programs as trees of requests. A program says what it asks for and how it goes on with the reply;
what replies is chosen when it is run, so one program serves a machine, a simulation, and every
point at which either may stop.
-/

namespace DualSlot

/-- The requests that a program may make, and what each is replied to with. -/
structure Interface where
  Request : Type
  Reply : Request → Type

inductive Program (I : Interface) (α : Type) where
  | done (value : α)
  | ask (request : I.Request) (next : I.Reply request → Program I α)

namespace Program

variable {I J : Interface}

def bind : Program I α → (α → Program I β) → Program I β
  | .done value, next => next value
  | .ask request rest, next => .ask request fun reply => (rest reply).bind next

instance : Monad (Program I) where
  pure := .done
  bind := .bind

def perform (request : I.Request) : Program I (I.Reply request) := .ask request .done

/-- Puts a program in the place of every request. -/
def translate (realise : (request : I.Request) → Program J (I.Reply request)) :
    Program I α → Program J α
  | .done value => .done value
  | .ask request next => (realise request).bind fun reply => (next reply).translate realise

/-- Runs the program against something that changes as it replies. -/
def run (answer : (request : I.Request) → σ → I.Reply request × σ) : Program I α → σ → α × σ
  | .done value, state => (value, state)
  | .ask request next, state =>
    let (reply, state) := answer request state
    (next reply).run answer state

/-- Runs the program where replies have effects of their own. -/
def interpret [Monad m] (answer : (request : I.Request) → m (I.Reply request)) :
    Program I α → m α
  | .done value => pure value
  | .ask request next => do (next (← answer request)).interpret answer

theorem bind_done (program : Program I α) : program.bind .done = program := by
  induction program with
  | done value => rfl
  | ask request next ih => simp only [bind, ih]

theorem bind_assoc (program : Program I α) (first : α → Program I β) (second : β → Program I γ) :
    (program.bind first).bind second = program.bind fun value => (first value).bind second := by
  induction program with
  | done value => rfl
  | ask request next ih => simp only [bind, ih]

instance : LawfulMonad (Program I) :=
  .mk' (Program I) bind_done (fun _ _ => rfl) bind_assoc

theorem translate_bind (realise : (request : I.Request) → Program J (I.Reply request))
    (program : Program I α) (next : α → Program I β) :
    (program.bind next).translate realise =
      (program.translate realise).bind fun value => (next value).translate realise := by
  induction program with
  | done value => rfl
  | ask request rest ih => simp only [bind, translate, bind_assoc, ih]

theorem run_bind (answer : (request : I.Request) → σ → I.Reply request × σ)
    (program : Program I α) (next : α → Program I β) (state : σ) :
    (program.bind next).run answer state =
      (next (program.run answer state).1).run answer (program.run answer state).2 := by
  induction program generalizing state with
  | done value => rfl
  | ask request rest ih => simp only [bind, run, ih]

/-- Running a translation is running the program against the translated requests. -/
theorem run_translate (realise : (request : I.Request) → Program J (I.Reply request))
    (answer : (request : J.Request) → σ → J.Reply request × σ) (program : Program I α) (state : σ) :
    (program.translate realise).run answer state =
      program.run (fun request => (realise request).run answer) state := by
  induction program generalizing state with
  | done value => rfl
  | ask request next ih => simp only [translate, run_bind, run, ih]

end Program

end DualSlot
