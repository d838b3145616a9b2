import DualSlot.Proofs.TreeFiles

/-! What the changes to files that last come to on a working system, in a directory that lies in another
one and is made when a file is first written there. -/

namespace DualSlot

namespace Simulation

/-- What is left of a world where nobody took or gave back a lock. -/
structure World.Keeps (before after : World) : Prop where
  workingDir : after.workingDir = before.workingDir
  locks : after.locks = before.locks
  handles : before.nextHandle ≤ after.nextHandle
  ids : before.tree.nextId ≤ after.tree.nextId

/-- Locks are of files, and through handles, that there have been. -/
def World.Guarded (world : World) : Prop :=
  ∀ lock ∈ world.locks, lock.1 < world.tree.nextId ∧ lock.2 < world.nextHandle

namespace World

variable {world after later : World} {α : Type}

theorem Keeps.refl (world : World) : world.Keeps world := ⟨rfl, rfl, Nat.le_refl _, Nat.le_refl _⟩

theorem Keeps.trans (first : world.Keeps after) (second : after.Keeps later) : world.Keeps later :=
  ⟨second.workingDir.trans first.workingDir, second.locks.trans first.locks,
    Nat.le_trans first.handles second.handles, Nat.le_trans first.ids second.ids⟩

theorem Keeps.guarded (keeps : world.Keeps after) (guarded : world.Guarded) : after.Guarded := by
  intro lock held
  rw [keeps.locks] at held
  exact ⟨Nat.lt_of_lt_of_le (guarded lock held).1 keeps.ids,
    Nat.lt_of_lt_of_le (guarded lock held).2 keeps.handles⟩

theorem keeps_hold (file : OpenFile) : world.Keeps (world.hold file).2 :=
  ⟨rfl, rfl, Nat.le_succ _, Nat.le_refl _⟩

/-- Closing a file gives back no lock that was taken before the file was opened. -/
theorem Keeps.release (keeps : world.Keeps after) (guarded : world.Guarded) {handle : Handle}
    (recent : world.nextHandle ≤ handle) : world.Keeps (after.release handle) := by
  refine ⟨keeps.workingDir, ?_, keeps.handles, keeps.ids⟩
  rw [World.release, keeps.locks]
  refine List.filter_eq_self.2 fun lock held => ?_
  simpa using Nat.ne_of_lt (Nat.lt_of_lt_of_le (guarded lock held).2 recent)

theorem lookup_hold (world : World) (file : OpenFile) :
    (world.hold file).2.openFiles.lookup world.nextHandle = some file := by
  simp [hold]

theorem run_then {β : Type} (program : Hosted α) (next : α → Hosted β) :
    world.run (program >>= next) = (world.run program).2.run (next (world.run program).1) :=
  Program.run_bind (I := calls) answer program next world

theorem run_tryCatch_ok {task : FileTask α} {handler : IoError → FileTask α} {value : α}
    (done : world.run task.run = (.ok value, after)) :
    world.run (tryCatch task handler).run = (.ok value, after) := by
  have parts : world.run (tryCatch task handler).run = _ := Program.run_bind (I := calls) answer task.run _ world
  rw [parts, show Program.run answer task.run world = _ from done]
  rfl

theorem run_tryCatch_error {task : FileTask α} {handler : IoError → FileTask α} {cause : IoError}
    (failed : world.run task.run = (.error cause, after)) :
    world.run (tryCatch task handler).run = after.run (handler cause).run := by
  have parts : world.run (tryCatch task handler).run = _ := Program.run_bind (I := calls) answer task.run _ world
  rw [parts, show Program.run answer task.run world = _ from failed]
  rfl

theorem run_openFile_ok {path : Path} {access : Access} {handle : Handle}
    (opened : world.openFile path access = .ok (handle, after)) :
    world.run (FileTask.openFile path access).run = (.ok handle, after) :=
  congrArg world.settle opened

theorem run_withFile {path : Path} {access : Access} {task : Handle → FileTask α} {handle : Handle}
    (opened : world.openFile path access = .ok (handle, after)) :
    world.run (FileTask.withFile path access task).run =
      ((after.run (task handle).run).1, (after.run (task handle).run).2.release handle) := by
  rw [FileTask.withFile, run_bind_ok (run_openFile_ok opened), run_closing]

theorem run_write {file : Handle} {number : FileId} {offset : Option Nat}
    (held : world.openFiles.lookup file = some (.file number offset)) (bytes : Bytes) :
    ∃ after, world.run (FileTask.write file bytes).run = (.ok (), after) ∧
      after.tree = world.tree.setData number
        (overwrite (world.tree.data number) (offset.getD (world.tree.data number).length) bytes) ∧
      after.openFiles.lookup file = some (.file number (offset.map (· + bytes.length))) ∧
      world.Keeps after := by
  refine ⟨{ world with
    tree := world.tree.setData number
      (overwrite (world.tree.data number) (offset.getD (world.tree.data number).length) bytes)
    openFiles := assign file (.file number (offset.map (· + bytes.length))) world.openFiles }, ?_, rfl,
    lookup_assign_self .., rfl, rfl, Nat.le_refl _, Nat.le_refl _⟩
  change answer (.write file bytes) world = _
  simp [answer, write, held, settle, Except.map]

theorem run_sync (world : World) (file : Handle) : world.run (FileTask.sync file).run = (.ok (), world) := rfl

end World

theorem overwrite_end (old new : Bytes) : overwrite old old.length new = old ++ new := by
  unfold overwrite
  cases new with
  | nil => simp
  | cons first more => simp [Bytes.padded]

namespace Drawer

variable {outer : Path} {base workingDir : Location} {label name : String} {files : NamedFiles} {tree : FileTree}
  {world : World}

theorem inner (drawer : Drawer outer base label workingDir files tree) (labelled : Fits outer label)
    (there : tree.node? (label :: base) = some .directory) :
    tree.Leads workingDir (outer.join label) (label :: base) :=
  drawer.leads.join labelled there

theorem walk_missing (drawer : Drawer outer base label workingDir files tree) (labelled : Fits outer label)
    (missing : tree.node? (label :: base) = none) :
    tree.walk (FileTree.startOf workingDir (outer.join label)) (pathSteps (outer.join label)) =
      .error .notFound := by
  rw [drawer.leads.walk_join labelled, missing]

/-- The directory is there afterwards. -/
theorem run_makeDirs (drawer : Drawer outer base label world.workingDir files world.tree)
    (labelled : Fits outer label) :
    ∃ after, world.run (Durable.makeDirs (outer.join label)).run = (.ok (), after) ∧
      Drawer outer base label after.workingDir files after.tree ∧
      after.tree.node? (label :: base) = some .directory ∧ world.Keeps after := by
  have made := drawer.leads.makeDir_join labelled
  have named : (outer.join label).text.isEmpty = false := by
    obtain ⟨c, last, -⟩ := Path.exists_getLast?_join labelled.isName outer
    by_contra empty
    rw [Bool.not_eq_false, String.isEmpty_iff] at empty
    rw [empty] at last
    cases last
  have makes : world.run (FileTask.makeDir (outer.join label)).run =
      world.settleTree (world.tree.makeDir world.workingDir (outer.join label)) := rfl
  unfold Durable.makeDirs
  generalize (outer.join label).text.length = patience
  unfold Durable.makeDirsFrom
  rw [named]
  simp only [Bool.false_eq_true, if_false]
  rcases drawer.made with there | ⟨missing, -⟩
  · rw [there] at made
    rw [made] at makes
    have kind : world.tree.kind? world.workingDir (outer.join label) = some .directory := by
      rw [FileTree.kind?, drawer.leads.resolve_join labelled, there]
      simp [Except.toOption, there]
    refine ⟨world, ?_, drawer, there, .refl world⟩
    rw [World.run_tryCatch_error makes]
    change world.run (Durable.unlessDirectory (outer.join label) .alreadyExists).run = _
    have asked : world.run (Call.perform (.kind (outer.join label))) = (some .directory, world) :=
      congrArg (·, world) kind
    unfold Durable.unlessDirectory
    rw [World.run_lift_bind, asked]
    rfl
  · rw [missing] at made
    rw [made] at makes
    exact ⟨_, World.run_tryCatch_ok makes, drawer.make missing, FileTree.node?_setNode_self (by simp) _,
      ⟨rfl, rfl, Nat.le_refl _, Nat.le_refl _⟩⟩

/-- What opening a file to read it comes to. -/
theorem openFile_read (drawer : Drawer outer base label world.workingDir files world.tree)
    (labelled : Fits outer label) (named : Fits (outer.join label) name) :
    world.openFile ((outer.join label).join name) .read = match files name with
      | none => .error .notFound
      | some (number, _) => .ok (world.hold (.file number (some 0))) := by
  unfold World.openFile World.openToRead
  rcases drawer.made with there | ⟨missing, none⟩
  · rw [(drawer.inner labelled there).resolve_join named]
    cases file : files name with
    | none => simp [drawer.nodes, file, bind, Except.bind]
    | some pair => simp [drawer.nodes, file, bind, Except.bind, pure, Except.pure]
  · rw [FileTree.resolve_missing (drawer.walk_missing labelled missing) named, none]
    rfl

/-- Reading a file leaves everything in its place. -/
theorem run_read? (drawer : Drawer outer base label world.workingDir files world.tree) (guarded : world.Guarded)
    (labelled : Fits outer label) (named : Fits (outer.join label) name) :
    ∃ after, world.run (Durable.read? ((outer.join label).join name)).run =
        (.ok ((files name).map Prod.snd), after) ∧
      after.tree = world.tree ∧ world.Keeps after := by
  have opens : world.run (FileTask.openFile ((outer.join label).join name) .read).run =
      world.settle (world.openFile ((outer.join label).join name) .read) := rfl
  rw [drawer.openFile_read labelled named] at opens
  change ∃ after, world.run ((FileTask.openFile ((outer.join label).join name) .read).run >>= _) = _ ∧ _
  rw [World.run_then, opens]
  cases file : files name with
  | none => exact ⟨world, rfl, rfl, .refl world⟩
  | some pair =>
    obtain ⟨number, bytes⟩ := pair
    refine ⟨(world.hold (.file number (some 0))).2.release world.nextHandle, ?_, rfl,
      (World.keeps_hold _).release guarded (Nat.le_refl _)⟩
    have received : (world.hold (.file number (some 0))).2.receive world.nextHandle = .ofBytes bytes := by
      rw [World.receive, World.lookup_hold]
      exact congrArg Stream.ofBytes (drawer.holds _ _ _ file).1
    change (((world.hold (.file number (some 0))).2.receive world.nextHandle).contents.map some, _) = _
    rw [received, Stream.contents_ofBytes]
    rfl

/-- The file to write to has been there, or is new and empty. -/
theorem exists_openToWrite (drawer : Drawer outer base label workingDir files tree) (labelled : Fits outer label)
    (there : tree.node? (label :: base) = some .directory) (named : Fits (outer.join label) name) :
    ∃ number later, tree.openToWrite workingDir ((outer.join label).join name) = .ok (number, later) ∧
      Drawer outer base label workingDir
        (Function.update files name (some (number, ((files name).map Prod.snd).getD []))) later ∧
      later.node? (label :: base) = some .directory ∧ tree.nextId ≤ later.nextId ∧
      ((files name).map Prod.fst).getD tree.nextId = number := by
  have opens := (drawer.inner labelled there).openToWrite_join named
  rw [drawer.nodes] at opens
  cases file : files name with
  | none =>
    rw [file] at opens
    refine ⟨_, _, opens, drawer.add there name, ?_, Nat.le_succ _, rfl⟩
    exact (FileTree.node?_setNode_of_ne (cons_ne name _).symm _).trans there
  | some pair =>
    obtain ⟨number, bytes⟩ := pair
    rw [file] at opens
    refine ⟨number, tree, opens, ?_, there, Nat.le_refl _, rfl⟩
    rwa [Option.map_some, Option.getD_some, ← file, Function.update_eq_self]

/-- What opening a file to write it comes to, if it is not emptied. -/
theorem exists_openOrMake (drawer : Drawer outer base label world.workingDir files world.tree)
    (labelled : Fits outer label) (there : world.tree.node? (label :: base) = some .directory)
    (named : Fits (outer.join label) name) (offset : Option Nat) :
    ∃ number after, world.openOrMake ((outer.join label).join name) offset = .ok (world.nextHandle, after) ∧
      Drawer outer base label after.workingDir
        (Function.update files name (some (number, ((files name).map Prod.snd).getD []))) after.tree ∧
      after.openFiles.lookup world.nextHandle = some (.file number offset) ∧ world.Keeps after ∧
      world.nextHandle < after.nextHandle ∧ ((files name).map Prod.fst).getD world.tree.nextId = number := by
  obtain ⟨number, tree, opens, opened, -, ids, same⟩ := drawer.exists_openToWrite labelled there named
  refine ⟨number, (({ world with tree } : World).hold (.file number offset)).2, ?_, opened,
    World.lookup_hold { world with tree } _, ⟨rfl, rfl, Nat.le_succ _, ids⟩, Nat.lt_succ_self _, same⟩
  simp [World.openOrMake, opens, bind, Except.bind, pure, Except.pure]
  rfl

/-- A line is written behind what a file held. -/
theorem run_writeLine {handle : Handle} {number : FileId} {old : Bytes}
    (drawer : Drawer outer base label world.workingDir files world.tree) (file : files name = some (number, old))
    (held : world.openFiles.lookup handle = some (.file number none)) (line : String) :
    ∃ after, world.run (do
        FileTask.write handle (Bytes.ofString line)
        FileTask.write handle (Bytes.ofString "\n")
        FileTask.sync handle : FileTask Unit).run = (.ok (), after) ∧
      Drawer outer base label after.workingDir (Function.update files name (some (number,
        old ++ Bytes.ofString line ++ Bytes.ofString "\n"))) after.tree ∧ world.Keeps after := by
  obtain ⟨middle, first, tree, held, kept⟩ := World.run_write held (Bytes.ofString line)
  obtain ⟨after, second, later, -, keeps⟩ := World.run_write held (Bytes.ofString "\n")
  refine ⟨after, ?_, ?_, kept.trans keeps⟩
  · rw [World.run_bind_ok first, World.run_bind_ok second, World.run_sync]
  · have data : world.tree.data number = old := (drawer.holds _ _ _ file).1
    have written : middle.tree = world.tree.setData number (old ++ Bytes.ofString line) := by
      rw [tree, data, Option.getD_none, overwrite_end]
    have last : after.tree = middle.tree.setData number (old ++ Bytes.ofString line ++ Bytes.ofString "\n") := by
      rw [later, written, data_setData, Option.map_none, Option.getD_none, overwrite_end]
    have one := drawer.setData file (old ++ Bytes.ofString line)
    rw [← written] at one
    have two := one.setData (Function.update_self ..) (old ++ Bytes.ofString line ++ Bytes.ofString "\n")
    rwa [← last, Function.update_idem, (kept.trans keeps).workingDir.symm] at two

/-- A file ends with the line afterwards, and is made if it was missing. -/
theorem run_append (drawer : Drawer outer base label world.workingDir files world.tree) (guarded : world.Guarded)
    (labelled : Fits outer label) (named : Fits (outer.join label) name) (line : String) :
    ∃ number after, world.run (Durable.append ((outer.join label).join name) line).run = (.ok (), after) ∧
      Drawer outer base label after.workingDir (Function.update files name (some (number,
        ((files name).map Prod.snd).getD [] ++ Bytes.ofString line ++ Bytes.ofString "\n"))) after.tree ∧
      world.Keeps after := by
  obtain ⟨middle, makes, drawer, there, kept⟩ := drawer.run_makeDirs labelled
  obtain ⟨number, opened, opens, drawer, held, keeps, -⟩ := drawer.exists_openOrMake labelled there named none
  replace opens : middle.openFile ((outer.join label).join name) .append = .ok (middle.nextHandle, opened) := opens
  obtain ⟨after, writes, drawer, stays⟩ := drawer.run_writeLine (Function.update_self ..) held line
  refine ⟨number, after.release middle.nextHandle, ?_, ?_,
    kept.trans ((keeps.trans stays).release (kept.guarded guarded) (Nat.le_refl _))⟩
  · unfold Durable.append
    rw [Path.directory_join_join labelled.isName named.isName, World.run_bind_ok makes,
      World.run_withFile opens, writes]
  · rwa [Function.update_idem] at drawer

theorem run_syncDir (drawer : Drawer outer base label world.workingDir files world.tree) (guarded : world.Guarded)
    (labelled : Fits outer label) (there : world.tree.node? (label :: base) = some .directory) :
    ∃ after, world.run (Durable.syncDir (outer.join label)).run = (.ok (), after) ∧ after.tree = world.tree ∧
      world.Keeps after := by
  have opens : world.openFile (outer.join label) .read = .ok (world.hold .directory) := by
    unfold World.openFile World.openToRead
    rw [drawer.leads.resolve_join labelled, there]
    simp [there, bind, Except.bind, pure, Except.pure]
  refine ⟨(world.hold .directory).2.release world.nextHandle, ?_, rfl,
    (World.keeps_hold _).release guarded (Nat.le_refl _)⟩
  rw [Durable.syncDir, World.run_withFile opens]
  rfl

/-- What opening a file to write it anew comes to. -/
theorem exists_openEmpty (drawer : Drawer outer base label world.workingDir files world.tree)
    (labelled : Fits outer label) (there : world.tree.node? (label :: base) = some .directory)
    (named : Fits (outer.join label) name) :
    ∃ number after, world.openFile ((outer.join label).join name) .create = .ok (world.nextHandle, after) ∧
      Drawer outer base label after.workingDir (Function.update files name (some (number, []))) after.tree ∧
      after.openFiles.lookup world.nextHandle = some (.file number (some 0)) ∧ world.Keeps after := by
  obtain ⟨number, tree, opens, opened, -, ids, -⟩ := drawer.exists_openToWrite labelled there named
  have emptied := opened.setData (Function.update_self ..) []
  rw [Function.update_idem] at emptied
  refine ⟨number, (({ world with tree := tree.setData number [] } : World).hold (.file number (some 0))).2, ?_,
    emptied, World.lookup_hold { world with tree := tree.setData number [] } _, ⟨rfl, rfl, Nat.le_succ _, ids⟩⟩
  simp [World.openFile, World.openEmpty, opens, bind, Except.bind, pure, Except.pure]
  rfl

/-- An empty file gets its contents. -/
theorem run_fill {handle : Handle} {number : FileId}
    (drawer : Drawer outer base label world.workingDir files world.tree) (file : files name = some (number, []))
    (held : world.openFiles.lookup handle = some (.file number (some 0))) (contents : Bytes) :
    ∃ after, world.run (do
        FileTask.write handle contents
        FileTask.sync handle : FileTask Unit).run = (.ok (), after) ∧
      Drawer outer base label after.workingDir (Function.update files name (some (number, contents))) after.tree ∧
      world.Keeps after := by
  obtain ⟨after, writes, tree, -, keeps⟩ := World.run_write held contents
  refine ⟨after, by rw [World.run_bind_ok writes, World.run_sync], ?_, keeps⟩
  have data : world.tree.data number = [] := (drawer.holds _ _ _ file).1
  have filled := drawer.setData file contents
  rw [data, Option.getD_some, overwrite_beginning, List.drop_nil, List.append_nil] at tree
  rwa [← tree, keeps.workingDir.symm] at filled

/-- A file takes the place of another one. -/
theorem run_rename {source target : String} {number : FileId} {bytes : Bytes}
    (drawer : Drawer outer base label world.workingDir files world.tree) (labelled : Fits outer label)
    (sourced : Fits (outer.join label) source) (targeted : Fits (outer.join label) target)
    (file : files source = some (number, bytes)) :
    ∃ after, world.run (FileTask.rename ((outer.join label).join source) ((outer.join label).join target)).run =
        (.ok (), after) ∧
      Drawer outer base label after.workingDir
        (Function.update (Function.update files source none) target (some (number, bytes))) after.tree ∧
      world.Keeps after := by
  have node : world.tree.node? (source :: label :: base) = some (.file number) := by rw [drawer.nodes, file]; rfl
  have moves := (drawer.inner labelled (drawer.there file)).rename_join sourced targeted node (drawer.not_directory target)
  exact ⟨_, congrArg world.settleTree moves, drawer.move file, ⟨rfl, rfl, Nat.le_refl _, Nat.le_refl _⟩⟩

/-- A file has the contents afterwards, and its draft is gone. -/
theorem run_replace (drawer : Drawer outer base label world.workingDir files world.tree) (guarded : world.Guarded)
    (labelled : Fits outer label) (named : Fits (outer.join label) name)
    (drafted : Fits (outer.join label) (name ++ ".new")) (contents : Bytes) :
    ∃ number after, world.run (Durable.replace ((outer.join label).join name) contents).run = (.ok (), after) ∧
      Drawer outer base label after.workingDir
        (Function.update (Function.update files (name ++ ".new") none) name (some (number, contents))) after.tree ∧
      world.Keeps after := by
  obtain ⟨first, makes, drawer, there, kept⟩ := drawer.run_makeDirs labelled
  have safe := kept.guarded guarded
  obtain ⟨number, second, opens, drawer, held, opened⟩ := drawer.exists_openEmpty labelled there drafted
  obtain ⟨third, fills, drawer, filled⟩ := drawer.run_fill (Function.update_self ..) held contents
  have closed := (opened.trans filled).release safe (Nat.le_refl _)
  rw [Function.update_idem] at drawer
  have writes : first.run (FileTask.withFile ((outer.join label).join (name ++ ".new")) .create fun file => do
      FileTask.write file contents
      FileTask.sync file).run = (.ok (), third.release first.nextHandle) := by
    rw [World.run_withFile opens, fills]
  replace drawer : Drawer outer base label (third.release first.nextHandle).workingDir _
    (third.release first.nextHandle).tree := drawer
  obtain ⟨fourth, moves, drawer, moved⟩ := drawer.run_rename labelled drafted named (Function.update_self ..)
  rw [Function.update_idem] at drawer
  have keeps := closed.trans moved
  obtain ⟨after, syncs, tree, synced⟩ := drawer.run_syncDir (keeps.guarded safe) labelled
    (drawer.there (Function.update_self ..))
  refine ⟨number, after, ?_, by rwa [tree, synced.workingDir], kept.trans (keeps.trans synced)⟩
  unfold Durable.replace
  rw [Path.directory_join_join labelled.isName named.isName, Path.draft_join labelled.isName named.isName,
    World.run_bind_ok makes, World.run_bind_ok writes, World.run_bind_ok moves, syncs]

/-- There is no file with the name afterwards. -/
theorem run_erase (drawer : Drawer outer base label world.workingDir files world.tree) (guarded : world.Guarded)
    (labelled : Fits outer label) (named : Fits (outer.join label) name) :
    ∃ after, world.run (Durable.erase ((outer.join label).join name)).run = (.ok (), after) ∧
      Drawer outer base label after.workingDir (Function.update files name none) after.tree ∧ world.Keeps after := by
  have removes : world.run (FileTask.remove ((outer.join label).join name)).run =
    world.settleTree (world.tree.remove world.workingDir ((outer.join label).join name)) := rfl
  change ∃ after, world.run ((FileTask.remove ((outer.join label).join name)).run >>= _) = _ ∧ _
  rw [World.run_then, removes]
  cases file : files name with
  | none =>
    have missing : world.tree.remove world.workingDir ((outer.join label).join name) = .error .notFound := by
      rcases drawer.made with there | ⟨missing, -⟩
      · rw [(drawer.inner labelled there).remove_join named, drawer.nodes, file]
        rfl
      · rw [FileTree.remove, FileTree.resolveEnd_missing (drawer.walk_missing labelled missing) named]
        rfl
    rw [missing]
    refine ⟨world, rfl, ?_, .refl world⟩
    rwa [← file, Function.update_eq_self]
  | some pair =>
    obtain ⟨number, bytes⟩ := pair
    have there := drawer.there file
    have removed : world.tree.remove world.workingDir ((outer.join label).join name) =
        .ok (world.tree.dropNode (name :: label :: base)) := by
      rw [(drawer.inner labelled there).remove_join named, drawer.nodes, file]
      rfl
    rw [removed]
    have left : (world.tree.dropNode (name :: label :: base)).node? (label :: base) = some .directory := by
      rw [FileTree.node?_dropNode_of_ne (cons_ne name _).symm, there]
    let middle : World := { world with tree := world.tree.dropNode (name :: label :: base) }
    have keeps : world.Keeps middle := ⟨rfl, rfl, Nat.le_refl _, Nat.le_refl _⟩
    have dropped : Drawer outer base label middle.workingDir _ middle.tree := drawer.drop there name
    obtain ⟨after, syncs, tree, synced⟩ := dropped.run_syncDir (keeps.guarded guarded) labelled left
    rw [← Path.directory_join_join labelled.isName named.isName] at syncs
    exact ⟨after, syncs, by rwa [tree, synced.workingDir], keeps.trans synced⟩

end Drawer

end Simulation

end DualSlot
