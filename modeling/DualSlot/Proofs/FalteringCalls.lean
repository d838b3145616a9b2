import DualSlot.Proofs.DurableFiles
import DualSlot.Proofs.ProgramSafety

/-! Surroundings in which a call may fail although the system could have carried it out, and may break off
in a write. Wherever a program gets to in them is how it may leave the files when it is stopped. -/

namespace DualSlot

/-- The reply to a call that is refused, if it can be. -/
def Call.refusal (cause : IoError) : (call : Call) → Option call.Reply
  | .makeDir _ | .write _ _ | .sync _ | .rename _ _ | .remove _ => some (.error cause)
  | .openFile _ _ => some (.error cause)
  | .createTemp _ _ => some (.error cause)
  | .list _ => some (.error cause)
  | .lock _ => some (.error cause)
  | .kind _ | .receive _ | .close _ | .now | .cancelled | .attended | .log _ _ _ | .print _ _ => none

namespace Simulation

namespace World

variable {fails : Call → World → Prop} {world after : World}

/-- The replies to a call that may fail, each with the world after it. -/
inductive Falters (fails : Call → World → Prop) : Surroundings calls World where
  | answers (call world) : Falters fails call world (answer call world).1 (answer call world).2
  | refuses {call world cause reply} (mayFail : fails call world) (refused : call.refusal cause = some reply) :
      Falters fails call world reply world
  /-- Some of the bytes were written. -/
  | breaksOff {file bytes world cause} (count : Nat) (mayFail : fails (.write file bytes) world) :
      Falters fails (.write file bytes) world (.error cause) (answer (.write file (bytes.take count)) world).2

variable {path source target : Path} {access : Access} {file : Handle}

theorem settleTree_eq {result : Except IoError FileTree} {reply : Except IoError Unit}
    (settled : world.settleTree result = (reply, after)) :
    (∃ tree, result = .ok tree ∧ reply = .ok () ∧ after = { world with tree }) ∨
      (∃ cause, reply = .error cause) ∧ after = world := by
  cases result with
  | ok tree =>
    cases settled
    exact .inl ⟨tree, rfl, rfl, rfl⟩
  | error cause =>
    cases settled
    exact .inr ⟨⟨cause, rfl⟩, rfl⟩

theorem Falters.makeDir {reply : Except IoError Unit} (answer : Falters fails (.makeDir path) world reply after) :
    (∃ tree, world.tree.makeDir world.workingDir path = .ok tree ∧ reply = .ok () ∧ after = { world with tree }) ∨
      (∃ cause, reply = .error cause) ∧ after = world := by
  cases answer with
  | answers => exact settleTree_eq rfl
  | refuses _ refused =>
    cases refused
    exact .inr ⟨⟨_, rfl⟩, rfl⟩

theorem Falters.rename {reply : Except IoError Unit}
    (answer : Falters fails (.rename source target) world reply after) :
    (∃ tree, world.tree.rename world.workingDir source target = .ok tree ∧ reply = .ok () ∧
        after = { world with tree }) ∨
      (∃ cause, reply = .error cause) ∧ after = world := by
  cases answer with
  | answers => exact settleTree_eq rfl
  | refuses _ refused =>
    cases refused
    exact .inr ⟨⟨_, rfl⟩, rfl⟩

theorem run_rename_ok {tree : FileTree} (moved : world.tree.rename world.workingDir source target = .ok tree) :
    world.run (FileTask.rename source target).run = (.ok (), { world with tree }) := by
  have asked : world.run (FileTask.rename source target).run =
    world.settleTree (world.tree.rename world.workingDir source target) := rfl
  rw [asked, moved]
  rfl

theorem Falters.kind {reply : Option FileKind} (answer : Falters fails (.kind path) world reply after) :
    reply = world.tree.kind? world.workingDir path ∧ after = world := by
  cases answer with
  | answers => exact ⟨rfl, rfl⟩
  | refuses _ refused => cases refused

theorem Falters.openFile {reply : Except IoError Handle}
    (answer : Falters fails (.openFile path access) world reply after) :
    (∃ handle, world.openFile path access = .ok (handle, after) ∧ reply = .ok handle) ∨
      ∃ cause, reply = .error cause ∧ after = world ∧
        (world.openFile path access = .error cause ∨ fails (.openFile path access) world) := by
  cases answer with
  | answers =>
    simp only [World.answer]
    cases opened : world.openFile path access with
    | ok pair => exact .inl ⟨pair.1, rfl, rfl⟩
    | error cause => exact .inr ⟨cause, rfl, rfl, .inl rfl⟩
  | refuses mayFail refused =>
    cases refused
    exact .inr ⟨_, rfl, rfl, .inr mayFail⟩

/-- What is written to an empty file is the beginning of what was to be written, and all of it on success. -/
theorem Falters.write {bytes : Bytes} {id : FileId} {reply : Except IoError Unit}
    (answer : Falters fails (.write file bytes) world reply after)
    (held : world.openFiles.lookup file = some (.file id (some 0))) (empty : world.tree.data id = []) :
    ∃ written, (reply = .ok () → written = bytes) ∧ after.workingDir = world.workingDir ∧
      (after.tree = world.tree.setData id written ∨ written = [] ∧ after.tree = world.tree) := by
  have writes (part : Bytes) : (World.answer (.write file part) world).2.workingDir = world.workingDir ∧
      (World.answer (.write file part) world).2.tree = world.tree.setData id part := by
    obtain ⟨last, run, tree, -, kept⟩ := run_write held part
    have asked : World.answer (.write file part) world = (.ok (), last) := run
    rw [asked]
    refine ⟨kept.workingDir, ?_⟩
    rw [tree, empty, Option.getD_some, overwrite_beginning, List.drop_nil, List.append_nil]
  cases answer with
  | answers => exact ⟨bytes, fun _ => rfl, (writes bytes).1, .inl (writes bytes).2⟩
  | refuses _ refused =>
    cases refused
    exact ⟨[], nofun, rfl, .inr ⟨rfl, rfl⟩⟩
  | breaksOff count _ => exact ⟨bytes.take count, nofun, (writes _).1, .inl (writes _).2⟩

theorem Falters.sync {reply : Except IoError Unit} (answer : Falters fails (.sync file) world reply after) :
    after = world ∧ (reply = .ok () ∨ fails (.sync file) world) := by
  cases answer with
  | answers => exact ⟨rfl, .inl rfl⟩
  | refuses mayFail _ => exact ⟨rfl, .inr mayFail⟩

theorem Falters.receive {reply : Stream} (answer : Falters fails (.receive file) world reply after) :
    after = world := by
  cases answer with
  | answers => rfl
  | refuses _ refused => cases refused

theorem Falters.close {reply : Unit} (answer : Falters fails (.close file) world reply after) :
    after = world.release file := by
  cases answer with
  | answers => rfl
  | refuses _ refused => cases refused

end World

end Simulation

namespace FileTask

open Simulation World

variable {α β ε : Type} {fails : Call → World → Prop} {held : World → Prop} {world : World}

/-- Whichever of its calls fail, the worlds that the task gets to are held to something. -/
abbrev Safe (fails : Call → World → Prop) (held : World → Prop) (post : α → World → Prop) (program : Hosted α)
    (world : World) : Prop :=
  Program.Safe (Falters fails) (fun _ now => held now) post program world

theorem safe_bind {task : ExceptT ε Hosted α} {next : α → ExceptT ε Hosted β} {Q : Except ε α → World → Prop}
    {post : Except ε β → World → Prop} (safe : Safe fails held Q task.run world)
    (failed : ∀ cause after, Q (.error cause) after → post (.error cause) after)
    (rest : ∀ value after, Q (.ok value) after → Safe fails held post (next value).run after) :
    Safe fails held post (task >>= next).run world := by
  refine Program.Safe.bind safe fun result after reached => ?_
  cases result with
  | ok value => exact rest value after reached
  | error cause => exact .done (failed cause after reached)

theorem safe_lift_bind {program : Hosted α} {next : α → ExceptT ε Hosted β} {Q : α → World → Prop}
    {post : Except ε β → World → Prop} (safe : Safe fails held Q program world)
    (rest : ∀ value after, Q value after → Safe fails held post (next value).run after) :
    Safe fails held post (liftM program >>= next : ExceptT ε Hosted β).run world := by
  refine safe_bind (Q := fun result after => ∃ value, result = .ok value ∧ Q value after)
    (Program.Safe.bind safe fun value _ reached => .done ⟨value, rfl, reached⟩) ?_ ?_
  · rintro cause after ⟨value, impossible, -⟩
    cases impossible
  · rintro value after ⟨_, same, reached⟩
    cases same
    exact rest value after reached

theorem safe_tryCatch {task : FileTask α} {handler : IoError → FileTask α} {Q : Except IoError α → World → Prop}
    {post : Except IoError α → World → Prop} (safe : Safe fails held Q task.run world)
    (done : ∀ value after, Q (.ok value) after → post (.ok value) after)
    (handled : ∀ cause after, Q (.error cause) after → Safe fails held post (handler cause).run after) :
    Safe fails held post (tryCatch task handler).run world := by
  refine Program.Safe.bind safe fun result after reached => ?_
  cases result with
  | ok value => exact .done (done value after reached)
  | error cause => exact handled cause after reached

theorem safe_call {call : Call} {post : call.Reply → World → Prop} (holds : held world)
    (replied : ∀ reply after, Falters fails call world reply after → post reply after) :
    Safe fails held post call.perform world :=
  .ask holds fun reply after answer => .done (replied reply after answer)

theorem safe_withFile {path : Path} {access : Access} {task : Handle → FileTask α}
    {post : Except IoError α → World → Prop} (holds : held world)
    (refused : ∀ cause, world.openFile path access = .error cause ∨ fails (.openFile path access) world →
      post (.error cause) world)
    (opened : ∀ handle after, world.openFile path access = .ok (handle, after) →
      Safe fails held (fun result last => held last ∧ post result (last.release handle)) (task handle).run after) :
    Safe fails held post (withFile path access task).run world := by
  refine safe_bind (safe_call holds fun _ _ answer => answer.openFile) ?_ ?_
  · rintro cause after (⟨_, _, impossible⟩ | ⟨_, same, rfl, reason⟩)
    · cases impossible
    · cases same
      exact refused cause reason
  · rintro handle after (⟨_, opens, same⟩ | ⟨_, impossible, -⟩)
    · cases same
      refine Program.Safe.bind (opened handle after opens) fun result last reached => ?_
      exact .ask reached.1 fun _ _ answer => answer.close ▸ .done reached.2
    · cases impossible

/-- What is safe whatever fails is safe when nothing does. -/
theorem Safe.run {program : Hosted α} {post : α → World → Prop}
    (safe : Safe (fun _ _ => False) held post program world) :
    post (world.run program).1 (world.run program).2 :=
  safe.ends (Program.ends_run Falters.answers program world)

theorem Safe.exists_run {program : Hosted α} {post : α → World → Prop} {value : α}
    (safe : Safe (fun _ _ => False) held post program world) (comes : (world.run program).1 = value) :
    ∃ after, world.run program = (value, after) ∧ post value after := by
  subst comes
  exact ⟨_, rfl, safe.run⟩

end FileTask

end DualSlot
