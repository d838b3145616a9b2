import DualSlot.Proofs.ProgramSafety
import Mathlib.Logic.Function.Basic

/-! Programs side by side. They share the state around them and are replied to one request at a time, in
any order, so that between two requests of one program any others may have changed that state. -/

namespace DualSlot

/-- A request of one of several programs and its reply, with the states before and after it. -/
structure Turn (ι : Type) (I : Interface) (σ : Type) where
  who : ι
  request : I.Request
  reply : I.Reply request
  before : σ
  after : σ

/-- The turns that programs have taken, what is left of each of them, and where that has led. -/
structure Scene (ι : Type) (I : Interface) (σ : Type) (α : ι → Type) where
  turns : List (Turn ι I σ)
  left : (who : ι) → Program I (α who)
  state : σ

variable {ι σ : Type} [DecidableEq ι] {I : Interface} {α : ι → Type}

/-- The scenes that programs may get to. Each may meet surroundings of its own. -/
inductive Interleaving (answers : ι → Surroundings I σ) (programs : (who : ι) → Program I (α who))
    (start : σ) : Scene ι I σ α → Prop where
  | start : Interleaving answers programs start ⟨[], programs, start⟩
  | turn {turns left before who request next reply after}
      (earlier : Interleaving answers programs start ⟨turns, left, before⟩)
      (asks : left who = .ask request next)
      (answer : answers who request before reply after) :
      Interleaving answers programs start
        ⟨turns ++ [⟨who, request, reply, before, after⟩], Function.update left who (next reply), after⟩

namespace Scene

/-- The scene after a program took its turn, if anything is left of it and there is a reply. -/
def turn (answer : ι → (request : I.Request) → σ → Option (I.Reply request × σ))
    (scene : Scene ι I σ α) (who : ι) : Scene ι I σ α :=
  match scene.left who with
  | .done _ => scene
  | .ask request next =>
    match answer who request scene.state with
    | none => scene
    | some (reply, after) =>
      ⟨scene.turns ++ [⟨who, request, reply, scene.state, after⟩],
        Function.update scene.left who (next reply), after⟩

/-- The scene after programs took their turns in the order of a schedule. -/
def play (answer : ι → (request : I.Request) → σ → Option (I.Reply request × σ))
    (programs : (who : ι) → Program I (α who)) (start : σ) (schedule : List ι) : Scene ι I σ α :=
  schedule.foldl (turn answer) ⟨[], programs, start⟩

end Scene

namespace Interleaving

variable {answers : ι → Surroundings I σ} {programs : (who : ι) → Program I (α who)} {start : σ}

theorem turns {answer : ι → (request : I.Request) → σ → Option (I.Reply request × σ)}
    (sound : ∀ who request state reply after, answer who request state = some (reply, after) →
      answers who request state reply after)
    (schedule : List ι) {scene : Scene ι I σ α} (earlier : Interleaving answers programs start scene) :
    Interleaving answers programs start (schedule.foldl (Scene.turn answer) scene) := by
  induction schedule generalizing scene with
  | nil => exact earlier
  | cons who later ih =>
    apply ih
    unfold Scene.turn
    split
    · exact earlier
    · next asks =>
      split
      · exact earlier
      · next replied => exact earlier.turn asks (sound _ _ _ _ _ replied)

/-- Every turn got a reply that its program might get. -/
theorem answered {scene : Scene ι I σ α} (ran : Interleaving answers programs start scene) :
    ∀ turn ∈ scene.turns, answers turn.who turn.request turn.before turn.reply turn.after := by
  induction ran with
  | start => exact fun _ impossible => (List.not_mem_nil impossible).elim
  | turn _ _ answer ih =>
    intro turn taken
    rcases List.mem_append.1 taken with earlier | last
    · exact ih turn earlier
    · obtain rfl := List.mem_singleton.1 last
      exact answer

/-- A run of one program is an interleaving in which the others take no turns. -/
theorem alone {who : ι} {program rest : Program I (α who)} {state final : σ} {scene : Scene ι I σ α}
    (reached : Program.Reaches (answers who) program state rest final)
    (earlier : Interleaving answers programs start scene) (left : scene.left who = program)
    (at_state : scene.state = state) (only : ∀ turn ∈ scene.turns, turn.who = who) :
    ∃ last, Interleaving answers programs start last ∧ last.left who = rest ∧
      ∀ turn ∈ last.turns, turn.who = who := by
  induction reached generalizing scene with
  | here => exact ⟨scene, earlier, left, only⟩
  | next answer _ ih =>
    subst at_state
    refine ih (earlier.turn left answer) (Function.update_self ..) rfl fun turn taken => ?_
    rcases List.mem_append.1 taken with before | last
    · exact only turn before
    · rw [List.mem_singleton.1 last]

/-- An interleaving in which the others take no turns is a run of one program. -/
theorem reaches {who : ι} {scene : Scene ι I σ α} (ran : Interleaving answers programs start scene)
    (only : ∀ turn ∈ scene.turns, turn.who = who) :
    Program.Reaches (answers who) (programs who) start (scene.left who) scene.state := by
  induction ran with
  | start => exact .here
  | turn _ asks answer ih =>
    have own := only _ (List.mem_append_right _ (List.mem_singleton_self _))
    dsimp only at own
    subst own
    have before := ih fun turn taken => only turn (List.mem_append_left _ taken)
    refine before.trans ?_
    simp only [asks, Function.update_self]
    exact .next answer .here

/-- Whatever the schedule, the scene that comes of it is one that the programs may get to. -/
theorem play {answer : ι → (request : I.Request) → σ → Option (I.Reply request × σ)}
    (sound : ∀ who request state reply after, answer who request state = some (reply, after) →
      answers who request state reply after)
    (schedule : List ι) :
    Interleaving answers programs start (Scene.play answer programs start schedule) :=
  turns sound schedule .start

end Interleaving

end DualSlot
