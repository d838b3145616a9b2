import DualSlot.Proofs.CrashAtomicity
import DualSlot.Proofs.StoreFiles
import DualSlot.Proofs.TreeKinds

/-! What a file of a store is read as, by what is found at its place, and what is known after it was looked into,
whichever of the calls failed. -/

namespace DualSlot

open Simulation World

namespace FileTask

variable {α β ε δ : Type} {fails : Call → World → Prop} {held : World → Prop} {world : World}

theorem safe_adapt {task : ExceptT ε Hosted α} {reason : ε → δ} {post : Except δ α → World → Prop}
    (safe : Safe fails held (fun result => post (result.mapError reason)) task.run world) :
    Safe fails held post (task.adapt reason).run world :=
  Program.Safe.bind safe fun _ _ reached => .done reached

end FileTask

namespace DirectoryStore

open FileTask

variable {fails : Call → World → Prop} {world after : World} {stateDir : Path}

theorem openToRead_eq_ok {path : Path} {handle : Handle}
    (opened : world.openFile path .read = .ok (handle, after)) :
    (∃ place, world.tree.resolve world.workingDir path = .ok place) ∧ after.tree = world.tree ∧
      after.workingDir = world.workingDir := by
  obtain ⟨place, resolved, opened⟩ := Except.bind_eq_ok_iff.1 opened
  refine ⟨⟨place, resolved⟩, ?_⟩
  split at opened
  next => cases opened; exact ⟨rfl, rfl⟩
  next => cases opened; exact ⟨rfl, rfl⟩
  next => cases opened

/-- Nothing is changed by looking into a file, and if something is found there, the path leads to it. -/
structure Looks {α ε : Type} (path : Path) (before : World) (result : Except ε (Option α)) (after : World) :
    Prop where
  tree : after.tree = before.tree
  workingDir : after.workingDir = before.workingDir
  leads : ∀ value, result = .ok (some value) → ∃ place, before.tree.resolve before.workingDir path = .ok place

theorem safe_readAll (handle : Handle) : FileTask.Safe fails (fun _ => True)
    (fun _ after => after.tree = world.tree ∧ after.workingDir = world.workingDir) (readAll handle) world := by
  refine Program.Safe.bind (safe_call trivial fun _ _ answer => answer.receive) ?_
  rintro stream _ rfl
  exact .ask trivial fun _ _ answer => .done (answer.close ▸ ⟨rfl, rfl⟩)

theorem safe_read? {path : Path} :
    FileTask.Safe fails (fun _ => True) (Looks path world) (Durable.read? path).run world := by
  refine Program.Safe.bind (safe_call trivial fun _ _ answer => answer.openFile) ?_
  rintro result opened (⟨handle, opens, rfl⟩ | ⟨cause, rfl, rfl, -⟩)
  · obtain ⟨found, tree, workingDir⟩ := openToRead_eq_ok opens
    refine Program.Safe.bind (safe_readAll handle) fun stream after same => .done ⟨?_, ?_, fun _ _ => found⟩
    · exact same.1.trans tree
    · exact same.2.trans workingDir
  · change Program.Safe _ _ _ (.done (if cause = .notFound then Except.ok none else Except.error cause)) _
    refine .done ⟨rfl, rfl, fun bytes impossible => ?_⟩
    split at impossible <;> cases impossible

theorem safe_readFrom {α : Type} [JsonRecord α] {path : Path} :
    FileTask.Safe fails (fun _ => True) (Looks path world) (readFrom α path).run world := by
  unfold readFrom
  refine safe_bind (Q := Looks path world) (safe_adapt (Program.Safe.weaken safe_read? fun result after looks => ?_))
    (fun cause after looks => ⟨looks.tree, looks.workingDir, nofun⟩) ?_
  · exact ⟨looks.tree, looks.workingDir, fun bytes same => looks.leads bytes (Except.mapError_eq_ok_iff.1 same)⟩
  · intro contents after looks
    cases contents with
    | none => exact .done ⟨looks.tree, looks.workingDir, nofun⟩
    | some bytes =>
      simp only
      split
      next => exact .done ⟨looks.tree, looks.workingDir, nofun⟩
      next => split <;> exact .done ⟨looks.tree, looks.workingDir, fun _ _ => looks.leads bytes rfl⟩

theorem safe_log {topic : LogTopic} {level : LogLevel} {text : String} : FileTask.Safe fails (fun _ => True)
    (fun _ after => after.tree = world.tree ∧ after.workingDir = world.workingDir)
    (Call.perform (.log topic level text)) world := by
  refine safe_call trivial fun reply after answer => ?_
  cases answer with
  | answers =>
    obtain ⟨last, logged, tree, workingDir, -⟩ := run_log world topic level text
    have same : World.answer (.log topic level text) world = ((), last) := logged
    rw [same]
    exact ⟨tree, workingDir⟩
  | refuses _ refused => cases refused

theorem safe_readRecord {store : DirectoryStore} {slot : Slot} :
    FileTask.Safe fails (fun _ => True) (Looks (store.recordFile slot) world) (store.readRecord slot).run world := by
  unfold readRecord
  refine safe_bind safe_readFrom (fun cause after looks => ⟨looks.tree, looks.workingDir, nofun⟩) ?_
  intro found after looks
  cases found with
  | none => exact .done ⟨looks.tree, looks.workingDir, nofun⟩
  | some record =>
    simp only
    split
    next => exact .done ⟨looks.tree, looks.workingDir, fun _ _ => looks.leads record rfl⟩
    next =>
      refine safe_lift_bind safe_log fun _ last same => .done ⟨?_, ?_, nofun⟩
      · exact same.1.trans looks.tree
      · exact same.2.trans looks.workingDir

/-- What a file with a record is read as. -/
def recordIn (α : Type) [JsonRecord α] (path : Path) : Except IoError (Option Bytes) → Except StoreError (Option α)
  | .error cause => .error (.unreadable path cause)
  | .ok none => .ok none
  | .ok (some contents) =>
    if contents.all isAsciiSpace then .ok none
    else
      match JsonRecord.read? contents with
      | some record => .ok (some record)
      | none => .error (.corrupt path)

theorem run_readFrom_fst {α : Type} [JsonRecord α] (path : Path) (world : World) :
    (world.run (readFrom α path).run).1 = recordIn α path (world.run (Durable.read? path).run).1 := by
  unfold readFrom
  cases read : world.run (Durable.read? path).run with
  | mk result after =>
    cases result with
    | ok contents? =>
      rw [run_bind_ok (run_adapt_ok read _)]
      cases contents? with
      | none => rfl
      | some contents =>
        simp only [recordIn]
        split
        next => rfl
        next => cases (JsonRecord.read? contents : Option α) <;> rfl
    | error cause =>
      rw [run_bind_error (run_adapt read _)]
      rfl

end DirectoryStore

namespace Simulation

namespace FileTree

variable {tree after : FileTree} {workingDir place : Location} {dir : Path} {name : String}

/-- What the file at a path is read as. -/
def readAs (tree : FileTree) (workingDir : Location) (path : Path) : Except IoError (Option Bytes) :=
  match tree.resolve workingDir path with
  | .error cause => if cause = .notFound then .ok none else .error cause
  | .ok place =>
    match tree.view place with
    | none => .ok none
    | some .directory => .error .isDirectory
    | some (.file bytes) => .ok (some bytes)

/-- A name in a directory is looked up there. -/
theorem Leads.resolve_name (leads : tree.Leads workingDir dir place) (isName : IsName name) :
    tree.resolve workingDir (dir.join name) = (do
      checkPath (dir.join name)
      tree.enter place (.name name)) := by
  rw [FileTree.resolve, startOf_join isName, pathSteps_join isName, walk_append, leads.walks,
    endsWithSlash_join isName]
  change (checkPath (dir.join name) >>= fun _ => tree.enter place (.name name) >>= _) = _
  congr 1
  funext _
  cases tree.enter place (.name name) <;> rfl

/-- What is read of a name in a directory depends on what is found there only. -/
theorem Leads.readAs_eq (first : tree.Leads workingDir dir place) (second : after.Leads workingDir dir place)
    (isName : IsName name) (same : after.view (name :: place) = tree.view (name :: place)) :
    after.readAs workingDir (dir.join name) = tree.readAs workingDir (dir.join name) := by
  have directory : after.kindAt place = tree.kindAt place := by
    rw [kindAt_eq_directory_iff.2 first.isDirectory, kindAt_eq_directory_iff.2 second.isDirectory]
  have entered : after.enter place (.name name) = tree.enter place (.name name) :=
    enter_congr directory (kindAt_congr same)
  unfold readAs
  rw [first.resolve_name isName, second.resolve_name isName, entered]
  cases checkPath (dir.join name) with
  | error cause => rfl
  | ok _ =>
    cases found : tree.enter place (.name name) with
    | error cause => rfl
    | ok next =>
      obtain rfl := enter_name_eq_ok found
      change (match after.view (name :: place) with | none => _ | some .directory => _ | some (.file bytes) => _) = _
      rw [same]
      rfl

theorem Leads.readAs_file {bytes : Bytes} (leads : tree.Leads workingDir dir place) (fits : Fits dir name)
    (file : tree.view (name :: place) = some (.file bytes)) :
    tree.readAs workingDir (dir.join name) = .ok (some bytes) := by
  obtain ⟨id, node, -⟩ := exists_id_of_view file
  unfold readAs
  rw [leads.resolve_join fits, node]
  simp only [file]

end FileTree

namespace World

theorem run_read?_fst (path : Path) (world : World) :
    (world.run (Durable.read? path).run).1 = world.tree.readAs world.workingDir path := by
  have opens : world.run (FileTask.openFile path .read).run = world.settle (world.openToRead path) := rfl
  change (world.run ((FileTask.openFile path .read).run >>= _)).1 = _
  rw [World.run_then, opens]
  cases resolved : world.tree.resolve world.workingDir path with
  | error cause =>
    have refused : world.openToRead path = .error cause := by
      rw [openToRead, resolved]
      rfl
    rw [refused, FileTree.readAs, resolved]
    rfl
  | ok place =>
    unfold FileTree.readAs
    rw [resolved]
    dsimp only
    cases found : world.tree.node? place with
    | none =>
      have refused : world.openToRead path = .error .notFound := by
        simp [openToRead, resolved, found, bind, Except.bind, throw, throwThe, MonadExceptOf.throw]
      rw [refused, FileTree.view_eq_none_iff.2 found]
      rfl
    | some node =>
      cases node with
      | directory =>
        have opened : world.openToRead path = .ok (world.hold .directory) := by
          simp [openToRead, resolved, found, bind, Except.bind, pure, Except.pure]
        rw [opened, FileTree.view_eq_directory_iff.2 found]
        change ((world.hold .directory).2.receive world.nextHandle).contents.map some = _
        rw [World.receive, World.lookup_hold]
        rfl
      | file id =>
        have opened : world.openToRead path = .ok (world.hold (.file id (some 0))) := by
          simp [openToRead, resolved, found, bind, Except.bind, pure, Except.pure]
        rw [opened, FileTree.view_of_file found]
        change ((world.hold (.file id (some 0))).2.receive world.nextHandle).contents.map some = _
        rw [World.receive, World.lookup_hold]
        change (Stream.ofBytes _).contents.map some = _
        rw [Stream.contents_ofBytes]
        rfl

end World

end Simulation

namespace DirectoryStore

variable {fails : Call → World → Prop} {world after : World} {stateDir : Path}

theorem leads_of_resolve_join {dir : Path} {place : Location} {name : String} {tree : FileTree}
    {workingDir : Location} (isName : IsName name) (resolved : tree.resolve workingDir (dir.join name) = .ok place) :
    ∃ above, tree.Leads workingDir dir above := by
  obtain ⟨_, -, resolved⟩ := Except.bind_eq_ok_iff.1 resolved
  obtain ⟨found, walks, -⟩ := Except.bind_eq_ok_iff.1 resolved
  rw [FileTree.startOf_join isName, pathSteps_join isName, FileTree.walk_append] at walks
  obtain ⟨above, walked, entered⟩ := Except.bind_eq_ok_iff.1 walks
  exact ⟨above, walked, FileTree.isDirectory_of_enter entered⟩

end DirectoryStore

namespace Durable

variable {dir : Path} {place : Location} {name : String} {contents : Bytes} {before after : World}

/-- A file of which no more than the draft was touched is read as before. -/
theorem readAs_of_spares (isName : IsName name) (inside : (dir.join name).directory = dir)
    (leads : before.tree.Leads before.workingDir dir place)
    (spares : Spares (dir.join name) (· = locate before.workingDir (draft (dir.join name))) before after) :
    after.tree.readAs after.workingDir (dir.join name) = before.tree.readAs before.workingDir (dir.join name) := by
  have named : (dir.join name).fileName? = some name := Path.fileName?_join isName.whole isName.busy isName.notUp
  have location := locate_path named before.workingDir
  rw [inside, ← leads.eq_locate] at location
  rw [spares.workingDir]
  refine leads.readAs_eq (leads.mono spares.kept) isName ?_
  rw [← location]
  rcases spares.others _ (locate_ne_draft named _) with same | there
  · exact same
  rcases spares.made _ there with was | ⟨missing, passes⟩
  · rw [there, was]
  · rw [inside] at passes
    rw [FileTree.view_eq_directory_iff.2 (leads.passes passes)] at missing
    cases missing

theorem readAs_of_settled (isName : IsName name) (inside : (dir.join name).directory = dir)
    (ready : Ready (dir.join name) name before) (settled : Settled (dir.join name) contents before after) :
    after.tree.readAs after.workingDir (dir.join name) = .ok (some contents) := by
  have named : (dir.join name).fileName? = some name := Path.fileName?_join isName.whole isName.busy isName.notUp
  have leads := settled.leads
  have target := settled.target
  rw [← settled.spares.workingDir, locate_path named, inside] at target
  rw [inside] at leads
  exact leads.readAs_file ⟨isName, ready.short, ready.whole⟩ target

end Durable

end DualSlot
