import DualSlot.Proofs.EntryText
import DualSlot.Proofs.FailedCommit
import DualSlot.Proofs.ReplacedFiles

/-! The loader's files in a tree: where the entries are, what is read of them and of the configuration, and how an
attempt to write one ends, whichever calls fail. -/

namespace DualSlot

namespace Simulation

variable {base path : Path} {name : String} {workingDir place : Location} {tree : FileTree}

theorem fileName?_of_isName (isName : IsName name) (base : Path) : (base.join name).fileName? = some name :=
  Path.fileName?_join isName.whole isName.busy isName.notUp

/-- The directory that holds a name in a path makes the same moves as the path. -/
theorem moves_directory_join (isName : IsName name) (base : Path) :
    moves (base.join name).directory = moves base := by
  have names := Path.names_of_fileName? (fileName?_of_isName isName base)
  exact (List.append_inj' (names.moves.symm.trans (moves_join isName base)) rfl).1

theorem startOf_directory_join (isName : IsName name) (workingDir : Location) (base : Path) :
    FileTree.startOf workingDir (base.join name).directory = FileTree.startOf workingDir base := by
  have names := Path.names_of_fileName? (fileName?_of_isName isName base)
  rw [names.start, FileTree.startOf_join isName]

theorem leads_directory_join (isName : IsName name) :
    tree.Leads workingDir (base.join name).directory place ↔ tree.Leads workingDir base place := by
  rw [FileTree.leads_iff, FileTree.leads_iff, moves_directory_join isName, startOf_directory_join isName]

theorem passes_directory_join (isName : IsName name) :
    Passes workingDir (base.join name).directory place ↔ Passes workingDir base place := by
  rw [Passes, Passes, moves_directory_join isName, startOf_directory_join isName]

/-! Paths that do not go up. -/

theorem exists_name_of_mem_moves (down : .up ∉ moves path) {step : PathStep} (inside : step ∈ moves path) :
    ∃ name, step = .name name := by
  cases step with
  | here =>
    rw [← filter_pathSteps] at inside
    exact absurd (List.mem_filter.1 inside).2 (by simp)
  | up => exact (down inside).elim
  | name name => exact ⟨name, rfl⟩

/-- Down to a directory all names can be followed. -/
theorem walk_of_names {steps : List PathStep} {start : Location} (sound : tree.Sound)
    (names : ∀ step ∈ steps, ∃ name, step = .name name ∧ name.utf8ByteSize ≤ nameLimit)
    (there : tree.node? (steps.foldl PathStep.carry start) = some .directory) :
    tree.walk start steps = .ok (steps.foldl PathStep.carry start) := by
  induction steps generalizing start with
  | nil => rfl
  | cons step steps ih =>
    obtain ⟨name, rfl, short⟩ := names step List.mem_cons_self
    have walks := ih (fun step inside => names step (List.mem_cons_of_mem _ inside)) there
    have next := FileTree.isDirectory_of_walk walks there
    have entered : tree.enter start (.name name) = .ok (name :: start) := by
      rw [FileTree.enter_name (sound.nested _ _ _ next) short, show tree.node? (name :: start) = _ from next]
    rw [FileTree.walk_cons]
    exact Except.bind_eq_ok_iff.2 ⟨_, entered, walks⟩

/-- A path that does not go up leads to a directory in which there is something. -/
theorem leads_of_view (sound : tree.Sound) (passable : tree.Passable workingDir path) (down : .up ∉ moves path)
    (there : tree.view (name :: locate workingDir path) ≠ none) :
    tree.Leads workingDir path (locate workingDir path) := by
  rw [Ne, FileTree.view_eq_none_iff] at there
  obtain ⟨node, found⟩ := Option.ne_none_iff_exists'.1 there
  have isDirectory := sound.nested _ _ _ found
  refine FileTree.leads_iff.2 ⟨walk_of_names sound (fun step inside => ?_) isDirectory, isDirectory⟩
  obtain ⟨name, rfl⟩ := exists_name_of_mem_moves down inside
  exact ⟨name, rfl, passable.short name inside⟩

/-- Where the draft of a file is, whether or not the path has a name. -/
theorem locate_draft_eq (workingDir : Location) (path : Path) :
    locate workingDir (Durable.draft path) =
      (path.fileName?.getD "" ++ ".new") :: locate workingDir path.directory := by
  cases named : path.fileName? with
  | some name => exact Durable.locate_draft named workingDir
  | none =>
    rw [Durable.draft, named]
    exact locate_join (by decide) _ _

/-- Drafts have names of their own. -/
theorem cons_ne_draft (apart : name.toList.getLast? ≠ some 'w') (dir : Location) (path : Path) :
    name :: dir ≠ locate workingDir (Durable.draft path) := by
  rw [locate_draft_eq]
  intro same
  have last := congrArg (fun name => name.toList.getLast?) (List.cons.inj same).1
  simp only [String.toList_append, List.getLast?_append] at last
  rw [show ".new".toList.getLast? = some 'w' from rfl, Option.some_or] at last
  exact apart last

namespace World

variable {fails : Call → World → Prop} {before after : World} {ε ε' α β : Type}

theorem Falters.received {file : Handle} {reply : Stream}
    (answer : Falters fails (.receive file) before reply after) : reply = before.receive file := by
  cases answer with
  | answers => rfl
  | refuses _ refused => cases refused

/-- What was made of the contents of a file. Nothing is changed by it, and if the file can be opened it is what there
is to be made of them. -/
structure Sees (fails : Call → World → Prop) (path : Path)
    (shown : Except IoError (Option Bytes) → Except ε (Option α)) (before : World) (result : Except ε (Option α))
    (after : World) : Prop where
  tree : after.tree = before.tree
  workingDir : after.workingDir = before.workingDir
  steady : (∀ moment, ¬ fails (.openFile path .read) moment) →
    result = shown (before.tree.readAs before.workingDir path)
  sure : ∀ value, result = .ok (some value) → shown (before.tree.readAs before.workingDir path) = .ok (some value)

variable {path : Path} {shown : Except IoError (Option Bytes) → Except ε (Option α)} {result : Except ε (Option α)}

theorem Sees.map (sees : Sees fails path shown before result after) (make : Except ε (Option α) → Except ε' (Option β))
    (given : ∀ found value, make found = .ok (some value) → ∃ inner, found = .ok (some inner)) :
    Sees fails path (make ∘ shown) before (make result) after := by
  refine ⟨sees.tree, sees.workingDir, fun steady => congrArg make (sees.steady steady), fun value made => ?_⟩
  obtain ⟨inner, rfl⟩ := given result value made
  exact (congrArg make (sees.sure inner rfl)).trans made

theorem Sees.congr {later : World} (sees : Sees fails path shown before result after)
    (tree : later.tree = after.tree) (workingDir : later.workingDir = after.workingDir) :
    Sees fails path shown before result later :=
  ⟨tree.trans sees.tree, workingDir.trans sees.workingDir, sees.steady, sees.sure⟩

/-- Of the world before it only the files matter. -/
theorem Sees.since {start : World} (sees : Sees fails path shown before result after) (tree : before.tree = start.tree)
    (workingDir : before.workingDir = start.workingDir) : Sees fails path shown start result after := by
  obtain ⟨same, also, steady, sure⟩ := sees
  rw [tree, workingDir] at steady sure
  exact ⟨same.trans tree, also.trans workingDir, steady, sure⟩

theorem safe_read?_sees : FileTask.Safe fails (fun _ => True) (Sees fails path id before) (Durable.read? path).run
    before := by
  refine Program.Safe.bind (FileTask.safe_call trivial fun _ _ answer => answer.openFile) ?_
  rintro result opened (⟨handle, opens, rfl⟩ | ⟨cause, rfl, rfl, reason⟩)
  · obtain ⟨-, tree, workingDir⟩ := DirectoryStore.openToRead_eq_ok opens
    have read : before.tree.readAs before.workingDir path = (opened.receive handle).contents.map some := by
      rw [← run_read?_fst]
      change (before.run ((FileTask.openFile path .read).run >>= _)).1 = _
      rw [World.run_then, run_openFile_ok opens]
      rfl
    refine .ask trivial fun stream _ answer => ?_
    obtain rfl := answer.received
    obtain rfl := answer.receive
    refine .ask trivial fun _ _ answer => .done ?_
    rw [answer.close]
    exact ⟨tree, workingDir, fun _ => read.symm, fun _ same => read.trans same⟩
  · refine .done ⟨rfl, rfl, fun steady => ?_, fun value impossible => ?_⟩
    · rcases reason with refused | mayFail
      · rw [id, ← run_read?_fst]
        change _ = (opened.run ((FileTask.openFile path .read).run >>= _)).1
        have opens : opened.run (FileTask.openFile path .read).run = (.error cause, opened) :=
          congrArg opened.settle refused
        rw [World.run_then, opens]
        rfl
      · exact (steady _ mayFail).elim
    · split at impossible <;> cases impossible

end World

end Simulation

/-- What is made of a value if there is one. -/
def chain {ε α β : Type} (next : α → Except ε (Option β)) : Except ε (Option α) → Except ε (Option β)
  | .error cause => .error cause
  | .ok none => .ok none
  | .ok (some value) => next value

open Simulation World FileTask Durable

variable {host : Host} {menu : BootMenu} {slot other : Slot} {fails : Call → World → Prop} {world after : World}
  {ε δ α β : Type} {path : Path} {shown : Except IoError (Option Bytes) → Except ε (Option α)}

theorem Host.translate_perform (host : Host) (action : Action) :
    (Action.perform action).translate host.realise = host.realise action :=
  Program.bind_done _

namespace Simulation.World

theorem Sees.chain {result : Except ε (Option α)} (sees : Sees fails path shown world result after)
    (next : α → Except ε (Option β)) :
    Sees fails path (DualSlot.chain next ∘ shown) world (DualSlot.chain next result) after := by
  refine sees.map _ fun found value made => ?_
  match found with
  | .error cause => cases made
  | .ok none => cases made
  | .ok (some inner) => exact ⟨inner, rfl⟩

theorem Sees.mapError {result : Except ε (Option α)} (sees : Sees fails path shown world result after)
    (reason : ε → δ) :
    Sees fails path (Except.mapError reason ∘ shown) world (result.mapError reason) after :=
  sees.map _ fun _ value made => ⟨value, Except.mapError_eq_ok_iff.1 made⟩

end Simulation.World

/-- What a task makes of what another one found, without a further call. -/
theorem safe_sees_bind {task : ExceptT ε Hosted (Option α)} {next : Option α → ExceptT ε Hosted (Option β)}
    {make : α → Except ε (Option β)}
    (safe : FileTask.Safe fails (fun _ => True) (Sees fails path shown world) task.run world)
    (none : (next none).run = .done (.ok none)) (some : ∀ value, (next (some value)).run = .done (make value)) :
    FileTask.Safe fails (fun _ => True) (Sees fails path (chain make ∘ shown) world) (task >>= next).run world := by
  refine safe_bind safe (fun cause after sees => sees.chain make) fun found after sees => ?_
  cases found with
  | none => exact none ▸ .done (sees.chain make)
  | some value => exact some value ▸ .done (sees.chain make)

theorem translate_bind_run {realise : (action : Action) → Hosted action.Reply} (task : Task ε α) (next : α → Task ε β) :
    (task >>= next).run.translate realise =
      ((.mk (task.run.translate realise) : ExceptT ε Hosted α) >>= fun value =>
        .mk ((next value).run.translate realise)).run := by
  refine (Program.translate_bind realise task.run _).trans ?_
  congr 1
  funext result
  cases result <;> rfl

theorem safe_translate_sees_bind {task : Task ε (Option α)} {next : Option α → Task ε (Option β)}
    {make : α → Except ε (Option β)}
    (safe : FileTask.Safe fails (fun _ => True) (Sees fails path shown world) (task.run.translate host.realise) world)
    (none : (next none).run = .done (.ok none)) (some : ∀ value, (next (some value)).run = .done (make value)) :
    FileTask.Safe fails (fun _ => True) (Sees fails path (chain make ∘ shown) world)
      ((task >>= next).run.translate host.realise) world := by
  rw [translate_bind_run]
  refine safe_sees_bind safe ?_ fun value => ?_
  · exact congrArg (Program.translate host.realise) none
  · exact congrArg (Program.translate host.realise) (some value)

namespace BootMenu

theorem isName_entryFile (slot : Slot) : IsName slot.entryFile := by
  refine ⟨slot.entryFile_plain, ?_, ?_⟩ <;> cases slot <;> decide

/-- Where the entry of the slot is. -/
def place (menu : BootMenu) (world : World) (slot : Slot) : Location :=
  locate world.workingDir (menu.entryPath slot)

theorem place_eq (menu : BootMenu) (world : World) (slot : Slot) :
    menu.place world slot = slot.entryFile :: locate world.workingDir menu.entriesDir :=
  locate_join (isName_entryFile slot) _ _

theorem fileName?_entryPath (menu : BootMenu) (slot : Slot) : (menu.entryPath slot).fileName? = some slot.entryFile :=
  fileName?_of_isName (isName_entryFile slot) _

theorem place_ne_place (different : slot ≠ other) : menu.place world slot ≠ menu.place world other := by
  rw [place_eq, place_eq]
  intro same
  exact different (Slot.entryFile_inj (List.cons.inj same).1)

/-- An entry is no draft of a file. -/
theorem place_ne_draft (menu : BootMenu) (world : World) (slot : Slot) (path : Path) :
    menu.place world slot ≠ locate world.workingDir (draft path) := by
  rw [place_eq]
  exact cons_ne_draft (by cases slot <;> decide) _ path

/-- Only the entry has the draft of the entry. -/
theorem locate_of_draft (same : locate world.workingDir (draft path) =
    locate world.workingDir (draft (menu.entryPath slot))) : locate world.workingDir path = menu.place world slot := by
  rw [locate_draft_eq, locate_draft_eq, fileName?_entryPath] at same
  obtain ⟨names, dirs⟩ := List.cons.inj same
  cases named : path.fileName? with
  | none =>
    rw [named] at names
    cases slot <;> exact absurd names (by decide)
  | some name =>
    rw [named, Option.getD_some, Option.getD_some] at names
    have texts := congrArg String.toList names
    rw [String.toList_append, String.toList_append] at texts
    rw [place, locate_path named, locate_path (menu.fileName?_entryPath slot), dirs,
      String.toList_inj.1 (List.append_inj' texts rfl).1]

/-! What is read. -/

/-- The text of a file. -/
def textFrom (path : Path) (found : Except IoError (Option Bytes)) : Except BootMenuError (Option String) :=
  chain (fun contents => match contents.text? with
    | some text => .ok (some text)
    | none => .error (.unreadable path .invalidText)) (found.mapError (.unreadable path))

/-- The entry of the slot in a file. -/
def entryFrom (menu : BootMenu) (slot : Slot) (found : Except IoError (Option Bytes)) :
    Except BootMenuError (Option BootEntry) :=
  chain (fun text => match BootEntry.parse slot text with
    | .ok entry => .ok (some entry)
    | .error fault => .error (.malformed (menu.entryPath slot) fault)) (textFrom (menu.entryPath slot) found)

theorem safe_readText?_sees : FileTask.Safe fails (fun _ => True) (Sees fails path (textFrom path) world)
    ((readText? path).run.translate host.realise) world := by
  refine safe_translate_sees_bind (safe_translate_of ?_) rfl fun contents => ?_
  · rw [Host.translate_perform]
    exact Program.Safe.weaken safe_read?_sees fun _ _ sees => sees.mapError _
  · dsimp only
    cases contents.text? <;> rfl

theorem safe_entry?_sees : FileTask.Safe fails (fun _ => True)
    (Sees fails (menu.entryPath slot) (menu.entryFrom slot) world)
    ((menu.entry? slot).run.translate host.realise) world := by
  refine safe_translate_sees_bind safe_readText?_sees rfl fun text => ?_
  dsimp only
  cases BootEntry.parse slot text <;> rfl

theorem run_entry?_fst (host : Host) (menu : BootMenu) (slot : Slot) (world : World) :
    (world.run ((menu.entry? slot).run.translate host.realise)).1 =
      menu.entryFrom slot (world.tree.readAs world.workingDir (menu.entryPath slot)) :=
  safe_entry?_sees.run.steady nofun

/-- How the writing of an entry ended, done or not. -/
inductive EntryWritten (menu : BootMenu) (slot : Slot) (contents : Bytes) (isDefault : Bool)
    (fails : Call → World → Prop) (before : World) (finished : Prop) (after : World) : Prop where
  | stopped (undone : ¬ finished) (entry : Attempted (menu.entryPath slot) contents fails before False after)
  | alone (other : isDefault = false) (done : finished)
      (entry : Replaced (menu.entryPath slot) contents before after)
  | asDefault {middle} (default : isDefault = true) (entry : Replaced (menu.entryPath slot) contents before middle)
      (loader : Attempted menu.loaderFile (menu.loaderBytes slot) fails middle finished after)

theorem EntryWritten.sound {contents : Bytes} {isDefault : Bool} {finished : Prop}
    (written : menu.EntryWritten slot contents isDefault fails world finished after) : after.tree.Sound := by
  cases written with
  | stopped _ entry => exact entry.spares.sound
  | alone _ _ entry => exact entry.spares.sound
  | asDefault _ _ loader => exact loader.spares.sound

/-- Of the world before it only the files matter. -/
theorem EntryWritten.since {contents : Bytes} {isDefault : Bool} {finished : Prop} {start : World}
    (written : menu.EntryWritten slot contents isDefault fails world finished after) (tree : world.tree = start.tree)
    (workingDir : world.workingDir = start.workingDir) :
    menu.EntryWritten slot contents isDefault fails start finished after := by
  cases written with
  | stopped undone entry => exact .stopped undone (entry.since tree workingDir)
  | alone other done entry => exact .alone other done (entry.since tree workingDir)
  | asDefault default entry loader => exact .asDefault default (entry.since tree workingDir) loader

end BootMenu

end DualSlot
