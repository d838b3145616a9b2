import DualSlot.Proofs.SparedFiles

/-! The replacement of a file, stopped anywhere: the file is the old one or the new one, the only other file
that is touched is the draft, and what is left of an attempt is no obstacle to the next one. -/

namespace DualSlot

namespace Durable

open Simulation World FileTask

variable {path : Path} {name : String} {contents : Bytes} {fails : Call → World → Prop}
  {before now after : World} {workingDir : Location}

theorem locate_path (named : path.fileName? = some name) (workingDir : Location) :
    locate workingDir path = name :: locate workingDir path.directory := by
  have names := Path.names_of_fileName? named
  rw [locate, names.moves, List.foldl_append, ← names.start]
  rfl

theorem locate_draft (named : path.fileName? = some name) (workingDir : Location) :
    locate workingDir (draft path) = (name ++ ".new") :: locate workingDir path.directory := by
  have given := (Path.names_of_fileName? named).isName
  have moved : moves (draft path) = moves path.directory ++ [.name (name ++ ".new")] := by
    rw [draft, named, Option.getD_some, ← filter_pathSteps, pathSteps_join given, List.filter_append,
      filter_pathSteps]
    rfl
  have start : FileTree.startOf workingDir (draft path) = FileTree.startOf workingDir path.directory := by
    rw [draft, named, Option.getD_some, FileTree.startOf_join given]
  rw [locate, moved, List.foldl_append, start]
  rfl

theorem locate_ne_draft (named : path.fileName? = some name) (workingDir : Location) :
    locate workingDir path ≠ locate workingDir (draft path) := by
  rw [locate_path named, locate_draft named]
  intro same
  have longer := congrArg String.length (List.cons.inj same).1
  rw [String.length_append] at longer
  have four : ".new".length = 4 := rfl
  omega

/-- What it takes of a draft that it can be opened. -/
theorem fits_of_openToWrite (named : path.fileName? = some name) {tree later : FileTree} {id : FileId}
    (opened : tree.openToWrite workingDir (draft path) = .ok (id, later)) :
    Fits path.directory (name ++ ".new") := by
  obtain ⟨dir, last, ends, short, -⟩ := FileTree.openToWrite_eq_ok opened
  have given := (Path.names_of_fileName? named).isName
  have same := ends.eq_locate
  rw [locate_draft named] at same
  obtain ⟨rfl, -⟩ := List.cons.inj same
  refine ⟨given, short, ?_⟩
  have sound := ends.sound
  rwa [draft, named, Option.getD_some] at sound

end Durable

namespace Simulation

namespace FileTree

variable {tree : FileTree} {workingDir : Location} {path : Path}

/-- A file that was opened to be written anew is empty, and no other file has changed. -/
theorem Sound.openEmpty {later : FileTree} {id : FileId} (sound : tree.Sound)
    (opened : tree.openToWrite workingDir path = .ok (id, later)) :
    (later.setData id []).Sound ∧ later.node? (locate workingDir path) = some (.file id) ∧
      (later.setData id []).view = Function.update tree.view (locate workingDir path) (some (.file [])) ∧
      tree.view (locate workingDir path) ≠ some .directory := by
  obtain ⟨dir, name, ends, -, there⟩ := openToWrite_eq_ok opened
  rw [← ends.eq_locate]
  rcases there with ⟨file, rfl⟩ | ⟨missing, added⟩
  · refine ⟨sound.congr (fun _ => rfl) (Nat.le_refl _), file, sound.view_setData file [], ?_⟩
    rw [Ne, view_eq_directory_iff, file]
    nofun
  · have new := sound.addFile ends.isDirectory (by rw [missing]; nofun)
    have view := sound.view_addFile name dir
    have file := tree.node?_addFile name dir
    have number : tree.nextId = id := congrArg Prod.fst added
    rw [added, number] at file
    rw [added] at new view
    refine ⟨new.congr (fun _ => rfl) (Nat.le_refl _), file, ?_, ?_⟩
    · rw [new.view_setData file, view, Function.update_idem]
    · rw [Ne, view_eq_directory_iff, missing]
      nofun

end FileTree

namespace World

variable {path : Path} {before now after : World} {touched : Location → Prop}

/-- A file with the bytes has appeared or changed at a location. -/
structure Puts (location : Location) (bytes : Bytes) (before after : World) : Prop where
  free : before.tree.view location ≠ some .directory
  sound : after.tree.Sound
  workingDir : after.workingDir = before.workingDir
  view : after.tree.view = Function.update before.tree.view location (some (.file bytes))

theorem Puts.spares {further : Location → Prop} {location : Location} {bytes : Bytes}
    (puts : Puts location bytes now after) (spares : Spares path touched before now)
    (more : ∀ location, touched location → further location) (touch : further location) :
    Spares path further before after := by
  refine spares.files more puts.sound puts.workingDir (fun other => ?_) fun other untouched => ?_
  · rw [puts.view]
    obtain rfl | different := eq_or_ne other location
    · rw [Function.update_self]
      exact iff_of_false nofun puts.free
    · rw [Function.update_of_ne different]
  · rw [puts.view, Function.update_of_ne]
    rintro rfl
    exact untouched touch

theorem Puts.kept {location : Location} {bytes : Bytes} (puts : Puts location bytes before after) (other : Location)
    (there : before.tree.node? other = some .directory) : after.tree.node? other = some .directory := by
  rw [← FileTree.view_eq_directory_iff] at there ⊢
  rw [puts.view, Function.update_of_ne, there]
  rintro rfl
  exact puts.free there

theorem openEmpty_eq_ok {handle : Handle} (opened : now.openFile path .create = .ok (handle, after)) :
    ∃ id later, now.tree.openToWrite now.workingDir path = .ok (id, later) ∧
      after = ({ now with tree := later.setData id [] }.hold (.file id (some 0))).2 ∧ handle = now.nextHandle := by
  obtain ⟨⟨id, later⟩, opens, held⟩ := Except.bind_eq_ok_iff.1 opened
  cases held
  exact ⟨id, later, opens, rfl, rfl⟩

theorem sound_fresh (clock : UInt64) : (World.fresh clock).tree.Sound := by
  have only {location : Location} {node : Node} (found : (World.fresh clock).tree.node? location = some node) :
      node = .directory ∧ (location = [] ∨ location = ["work"]) := by
    cases location with
    | nil => exact ⟨(Option.some_inj.1 found).symm, .inl rfl⟩
    | cons name dir =>
      by_cases same : name :: dir = ["work"]
      · rw [same] at found
        exact ⟨(Option.some_inj.1 found).symm, .inr same⟩
      · have missing : List.lookup (name :: dir) [(["work"], Node.directory)] = none := by
          simp only [List.lookup_cons, beq_false_of_ne same, List.lookup_nil]
        cases missing.symm.trans found
  refine ⟨fun name dir node found => ?_, fun location other id found => ?_, fun location id found => ?_⟩
  · obtain ⟨-, impossible | same⟩ := only found
    · cases impossible
    · obtain ⟨-, rfl⟩ := List.cons.inj same
      rfl
  · cases (only found).1
  · cases (only found).1

/-- A new file has been written to, or not. -/
theorem Puts.written {location : Location} {id : FileId} {written : Bytes} (puts : Puts location [] before now)
    (file : now.tree.node? location = some (.file id)) (workingDir : after.workingDir = now.workingDir)
    (tree : after.tree = now.tree.setData id written ∨ written = [] ∧ after.tree = now.tree) :
    Puts location written before after := by
  rcases tree with tree | ⟨rfl, tree⟩
  · refine ⟨puts.free, ?_, workingDir.trans puts.workingDir, ?_⟩
    · rw [tree]
      exact puts.sound.congr (fun _ => rfl) (Nat.le_refl _)
    · rw [tree, puts.sound.view_setData file, puts.view, Function.update_idem]
  · exact ⟨puts.free, tree ▸ puts.sound, workingDir.trans puts.workingDir, tree ▸ puts.view⟩

end World

end Simulation

namespace Durable

open Simulation World FileTask

variable {path : Path} {name : String} {contents : Bytes} {fails : Call → World → Prop}
  {before now after : World}

/-- Nothing but the draft is touched when it is written, and it holds the contents if that succeeds. -/
theorem safe_writeDraft (draft : Path) (sound : now.tree.Sound) :
    FileTask.Safe fails (fun middle => middle = now ∨ ∃ bytes, Puts (locate now.workingDir draft) bytes now middle)
      (fun result after => (after = now ∨ ∃ bytes, Puts (locate now.workingDir draft) bytes now after) ∧
        (result = .ok () → Puts (locate now.workingDir draft) contents now after ∧
          ∃ id later, now.tree.openToWrite now.workingDir draft = .ok (id, later)))
      (withFile draft .create fun file => do
        write file contents
        sync file).run now := by
  refine safe_withFile (.inl rfl) (fun _ _ => ⟨.inl rfl, nofun⟩) fun handle opened opens => ?_
  obtain ⟨id, later, wrote, same, rfl⟩ := openEmpty_eq_ok opens
  obtain ⟨emptied, file, view, free⟩ := sound.openEmpty wrote
  have held : opened.openFiles.lookup now.nextHandle = some (.file id (some 0)) := by
    rw [same]
    exact World.lookup_hold { now with tree := later.setData id [] } _
  have empty : opened.tree.data id = [] := by
    rw [same]
    exact data_setData later id []
  have puts : Puts (locate now.workingDir draft) [] now opened := by
    rw [same]
    exact ⟨free, emptied, rfl, view⟩
  replace file : opened.tree.node? (locate now.workingDir draft) = some (.file id) := by
    rw [same]
    exact file
  refine safe_bind (safe_call (.inr ⟨_, puts⟩) fun _ _ answer => answer.write held empty) ?_ ?_
  · rintro cause after ⟨written, -, stays, tree⟩
    have wrote := puts.written file stays tree
    exact ⟨.inr ⟨_, wrote⟩, .inr ⟨written, wrote.free, wrote.sound, wrote.workingDir, wrote.view⟩, nofun⟩
  · rintro _ after ⟨written, whole, stays, tree⟩
    obtain rfl := whole rfl
    have done := puts.written file stays tree
    refine Program.Safe.weaken (safe_call (.inr ⟨_, done⟩) fun _ _ answer => answer.sync) ?_
    rintro result _ ⟨rfl, -⟩
    have closed : Puts (locate now.workingDir draft) written now (World.release _ now.nextHandle) :=
      ⟨done.free, done.sound, done.workingDir, done.view⟩
    exact ⟨.inr ⟨_, done⟩, .inr ⟨_, closed⟩, fun _ => ⟨closed, id, later, wrote⟩⟩

/-- Until the draft is complete nothing else is touched, and what comes then finds it in a directory that is
there. -/
theorem safe_draft_bind {held : World → Prop} {next : FileTask Unit} {post : Except IoError Unit → World → Prop}
    (sound : before.tree.Sound)
    (underway : ∀ now, Spares path (· = locate before.workingDir (draft path)) before now → held now)
    (failed : ∀ cause after, Spares path (· = locate before.workingDir (draft path)) before after →
      post (.error cause) after)
    (drafted : ∀ middle now id later, Spares path (fun _ => False) before middle →
      Reached path.directory before middle →
      middle.tree.openToWrite middle.workingDir (draft path) = .ok (id, later) →
      Puts (locate middle.workingDir (draft path)) contents middle now →
      Spares path (· = locate before.workingDir (draft path)) before now →
      FileTask.Safe fails held post next.run now) :
    FileTask.Safe fails held post (do
      makeDirs path.directory
      withFile (draft path) .create fun file => do
        write file contents
        sync file
      next).run before := by
  refine safe_bind ((safe_makeDirs (.refl sound)).mono (fun _ _ spares => underway _ (spares.mono nofun))
    fun _ _ made => made) (fun cause after made => failed cause after (made.1.mono nofun)) ?_
  rintro _ middle ⟨made, reached⟩
  have drafting {now : World} {bytes : Bytes}
      (puts : Puts (locate middle.workingDir (draft path)) bytes middle now) :
      Spares path (· = locate before.workingDir (draft path)) before now :=
    puts.spares made nofun (made.workingDir ▸ rfl)
  have written {now : World}
      (stage : now = middle ∨ ∃ bytes, Puts (locate middle.workingDir (draft path)) bytes middle now) :
      Spares path (· = locate before.workingDir (draft path)) before now := by
    rcases stage with rfl | ⟨bytes, puts⟩
    · exact made.mono nofun
    · exact drafting puts
  refine safe_bind ((safe_writeDraft (draft path) made.sound).mono (fun _ _ stage => underway _ (written stage))
    fun _ _ wrote => wrote) (fun cause after wrote => failed cause after (written wrote.1)) ?_
  rintro _ now ⟨-, wrote⟩
  obtain ⟨puts, id, later, opened⟩ := wrote rfl
  exact drafted middle now id later made (reached rfl) opened puts (drafting puts)

/-- The locations of a file and of its draft. -/
def Involved (path : Path) (world : World) (location : Location) : Prop :=
  location = locate world.workingDir path ∨ location = locate world.workingDir (draft path)

/-- The file is replaced, and its draft is gone. -/
structure Settled (path : Path) (contents : Bytes) (before after : World) : Prop where
  spares : Spares path (Involved path before) before after
  checked : checkPath path.directory = .ok ()
  leads : after.tree.Leads after.workingDir path.directory (locate after.workingDir path.directory)
  target : after.tree.view (locate before.workingDir path) = some (.file contents)
  draft : after.tree.view (locate before.workingDir (draft path)) = none

/-- Nothing is in the way of replacing the file. -/
structure Ready (path : Path) (name : String) (world : World) : Prop where
  sound : world.tree.Sound
  checked : checkPath path.directory = .ok ()
  passable : world.tree.Passable world.workingDir path.directory
  fits : Fits path.directory (name ++ ".new")
  whole : checkPath path = .ok ()
  last : (pathSteps path).getLast? = some (.name name)
  plain : endsWithSlash path = false
  short : name.utf8ByteSize ≤ nameLimit
  free : ∀ location, Involved path world location → world.tree.view location ≠ some .directory ∧
    ¬ Passes world.workingDir path.directory location

/-- Where a complete draft can take the place of the file, nothing was in the way. -/
theorem ready_of_ends {middle now : World} (sound : before.tree.Sound)
    (reached : Reached path.directory before middle) (spares : Spares path (Involved path before) before now)
    (fits : Fits path.directory (name ++ ".new")) {dir : Location}
    (leads : now.tree.Leads before.workingDir path.directory (locate before.workingDir path.directory))
    (ends : now.tree.EndsAt before.workingDir path dir name) (plain : endsWithSlash path = false)
    (short : name.utf8ByteSize ≤ nameLimit)
    (free : ∀ location, Involved path before location → now.tree.view location ≠ some .directory) :
    Ready path name before := by
  refine ⟨sound, reached.checked, ⟨reached.start, leads.passable.short, fun location passes other was => ?_⟩, fits,
    ends.sound, ends.last, plain, short, fun location involved => ⟨fun was => ?_, fun passes => ?_⟩⟩
  · have there := FileTree.view_eq_directory_iff.2 (leads.passes passes)
    have file := FileTree.view_of_file was
    rcases spares.made location there with directory | ⟨none, -⟩
    · rw [file] at directory
      cases directory
    · rw [file] at none
      cases none
  · exact free location involved (spares.directories location was)
  · exact free location involved (FileTree.view_eq_directory_iff.2 (leads.passes passes))

/-- The draft takes the place of the file, with the contents. -/
structure Supplants (path : Path) (name : String) (contents : Bytes) (workingDir : Location)
    (tree after : FileTree) : Prop where
  ends : tree.EndsAt workingDir path (locate workingDir path.directory) name
  plain : endsWithSlash path = false
  short : name.utf8ByteSize ≤ nameLimit
  free : tree.view (locate workingDir path) ≠ some .directory
  sound : after.Sound
  directories : ∀ location, after.view location = some .directory ↔ tree.view location = some .directory
  view : after.view = Function.update (Function.update tree.view (locate workingDir (draft path)) none)
    (locate workingDir path) (some (.file contents))

theorem supplants_of_rename {workingDir : Location} {tree later : FileTree} (named : path.fileName? = some name)
    (sound : tree.Sound)
    (drafted : tree.view (locate workingDir (draft path)) = some (.file contents))
    (moved : tree.rename workingDir (draft path) path = .ok later) :
    Supplants path name contents workingDir tree later := by
  obtain ⟨id, file, rfl⟩ := FileTree.exists_id_of_view drafted
  obtain ⟨old, oldName, new, newName, oldEnds, ends, plain, short, free, rfl⟩ := FileTree.rename_eq_ok moved file
  have target := locate_path named workingDir
  have sibling := locate_draft named workingDir
  have oldSame := oldEnds.eq_locate
  have newSame := ends.eq_locate
  rw [sibling] at oldSame
  rw [target] at newSame
  obtain ⟨rfl, rfl⟩ := List.cons.inj oldSame.symm
  obtain ⟨rfl, rfl⟩ := List.cons.inj newSame.symm
  rw [sibling] at file
  refine ⟨ends, plain, short, ?_, sound.move file free, fun _ => FileTree.directory_move_iff file free, ?_⟩
  · rw [target, Ne, FileTree.view_eq_directory_iff]
    exact free
  · rw [target, sibling]
    exact tree.view_move _ _ _ id

/-- A complete draft takes the place of the file. -/
theorem settled_of_rename {middle now : World} {tree : FileTree} (named : path.fileName? = some name)
    (sound : before.tree.Sound) (made : Spares path (fun _ => False) before middle)
    (reached : Reached path.directory before middle)
    (puts : Puts (locate middle.workingDir (draft path)) contents middle now)
    (fits : Fits path.directory (name ++ ".new"))
    (moved : now.tree.rename now.workingDir (draft path) path = .ok tree) :
    Ready path name before ∧ Settled path contents before { now with tree } := by
  have workingDir : now.workingDir = before.workingDir := puts.workingDir.trans made.workingDir
  have spares : Spares path (Involved path before) before now :=
    puts.spares made nofun (.inr (made.workingDir ▸ rfl))
  have drafted : now.tree.view (locate before.workingDir (draft path)) = some (.file contents) := by
    rw [puts.view, made.workingDir, Function.update_self]
  have leads : now.tree.Leads before.workingDir path.directory (locate before.workingDir path.directory) := by
    have there := reached.leads.mono puts.kept
    rwa [made.workingDir] at there
  rw [workingDir] at moved
  have supplants := supplants_of_rename named puts.sound drafted moved
  constructor
  · refine ready_of_ends sound reached spares fits leads supplants.ends supplants.plain supplants.short ?_
    intro location involved
    rcases involved with same | same
    · rw [same]
      exact supplants.free
    · rw [same, drafted]
      simp
  · have view := congrFun supplants.view
    refine ⟨spares.files (fun _ touch => touch) supplants.sound rfl supplants.directories
      fun location untouched => ?_, reached.checked, ?_, ?_, ?_⟩
    · rw [Involved, not_or] at untouched
      change tree.view location = _
      rw [view, Function.update_of_ne untouched.1, Function.update_of_ne untouched.2]
    · change FileTree.Leads _ now.workingDir path.directory (locate now.workingDir path.directory)
      rw [workingDir]
      refine leads.mono fun location there => ?_
      rw [← FileTree.view_eq_directory_iff] at there ⊢
      exact (supplants.directories location).2 there
    · change tree.view _ = _
      rw [view, Function.update_self]
    · change tree.view _ = _
      rw [view, Function.update_of_ne (locate_ne_draft named _).symm, Function.update_self]

/-- A call on the directory of the path, once it is there. -/
def OnDirectory (path : Path) (call : Call) (world : World) : Prop :=
  call = .openFile path.directory .read ∨
    ∃ handle, call = .sync handle ∧ world.openFiles.lookup handle = some .directory

theorem Settled.congr (settled : Settled path contents before now) (tree : after.tree = now.tree)
    (workingDir : after.workingDir = now.workingDir) : Settled path contents before after := by
  refine ⟨settled.spares.congr tree workingDir, settled.checked, ?_, ?_, ?_⟩
  · rw [tree, workingDir]
    exact settled.leads
  · rw [tree]
    exact settled.target
  · rw [tree]
    exact settled.draft

theorem openFile_directory (checked : checkPath path = .ok ()) {place : Location}
    (leads : now.tree.Leads now.workingDir path place) : now.openFile path .read = .ok (now.hold .directory) := by
  unfold World.openFile World.openToRead
  rw [leads.resolve checked]
  simp [leads.isDirectory, bind, Except.bind, pure, Except.pure]

/-- Where the file is replaced it stays so, and no call fails but one on the directory. -/
theorem safe_syncDir (settled : Settled path contents before now) :
    FileTask.Safe fails (Settled path contents before) (fun result after => Settled path contents before after ∧
        (result ≠ .ok () → ∃ call world, fails call world ∧ OnDirectory path call world))
      (syncDir path.directory).run now := by
  have opens := openFile_directory settled.checked settled.leads
  refine safe_withFile settled (fun cause reason => ⟨settled, fun _ => ?_⟩) fun handle opened held => ?_
  · rcases reason with impossible | mayFail
    · rw [opens] at impossible
      cases impossible
    · exact ⟨_, _, mayFail, .inl rfl⟩
  · rw [opens] at held
    cases held
    have held : Settled path contents before (now.hold .directory).2 := settled.congr rfl rfl
    refine Program.Safe.weaken (safe_call held fun _ _ answer => answer.sync) ?_
    rintro result _ ⟨rfl, done⟩
    refine ⟨held, held.congr rfl rfl, fun failed => ?_⟩
    rcases done with done | mayFail
    · exact (failed done).elim
    · exact ⟨_, _, mayFail, .inr ⟨_, rfl, World.lookup_hold now .directory⟩⟩

/-- No more than the draft has been touched, or the file is replaced. -/
def Underway (path : Path) (contents : Bytes) (before now : World) : Prop :=
  Spares path (· = locate before.workingDir (draft path)) before now ∨ Settled path contents before now

/-- How the replacement of a file ends. If it fails with the file replaced, it is a call on the directory
that failed. -/
structure Ended (path : Path) (name : String) (contents : Bytes) (fails : Call → World → Prop) (before : World)
    (result : Except IoError Unit) (after : World) : Prop where
  done : result = .ok () → Ready path name before ∧ Settled path contents before after
  failed : result ≠ .ok () → Spares path (· = locate before.workingDir (draft path)) before after ∨
    Ready path name before ∧ Settled path contents before after ∧
      ∃ call world, fails call world ∧ OnDirectory path call world

theorem Ended.underway {result : Except IoError Unit} (ended : Ended path name contents fails before result after) :
    Underway path contents before after := by
  by_cases done : result = .ok ()
  · exact .inr (ended.done done).2
  · exact (ended.failed done).imp_right fun replaced => replaced.2.1

theorem safe_replace (named : path.fileName? = some name) (sound : before.tree.Sound) :
    FileTask.Safe fails (Underway path contents before) (Ended path name contents fails before)
      (replace path contents).run before := by
  unfold replace
  refine safe_draft_bind sound (fun _ spares => .inl spares) (fun _ _ spares => ⟨nofun, fun _ => .inl spares⟩) ?_
  intro middle drafted id later made reached opened puts spares
  have fits := fits_of_openToWrite named opened
  refine safe_bind (safe_call (.inl spares) fun _ _ answer => answer.rename) ?_ ?_
  · rintro cause after (⟨_, -, impossible, -⟩ | ⟨-, rfl⟩)
    · cases impossible
    · exact ⟨nofun, fun _ => .inl spares⟩
  · rintro _ after (⟨tree, moved, -, rfl⟩ | ⟨⟨_, impossible⟩, -⟩)
    · obtain ⟨ready, settled⟩ := settled_of_rename named sound made reached puts fits moved
      refine (safe_syncDir settled).mono (fun _ _ settled => .inr settled) fun result last synced => ?_
      exact ⟨fun _ => ⟨ready, synced.1⟩, fun failed => .inr ⟨ready, synced.1, synced.2 failed⟩⟩
    · cases impossible

theorem Underway.spares (underway : Underway path contents before now) :
    Spares path (Involved path before) before now := by
  rcases underway with spares | settled
  · exact spares.mono fun _ touch => .inr touch
  · exact settled.spares

/-- Whether a file is replaced or not, the tree is sound after it. -/
theorem safe_replace_sound (named : path.fileName? = some name) (contents : Bytes) (sound : before.tree.Sound) :
    FileTask.Safe (fun _ _ => False) (fun _ => True) (fun _ after => after.tree.Sound)
      (replace path contents).run before :=
  (safe_replace named sound).mono (fun _ _ _ => trivial) fun _ _ ended => ended.underway.spares.sound

theorem sound_replaced_twice {other : Path} {otherName : String} (named : path.fileName? = some name)
    (otherNamed : other.fileName? = some otherName) (contents otherContents : Bytes)
    (sound : before.tree.Sound) :
    (before.run (replace path contents >>= fun _ => replace other otherContents).run).2.tree.Sound := by
  have safe : FileTask.Safe (fun _ _ => False) (fun _ => True) (fun _ after => after.tree.Sound)
      (replace path contents >>= fun _ => replace other otherContents).run before :=
    safe_bind (safe_replace_sound named contents sound) (fun _ _ sound => sound)
      fun _ _ sound => safe_replace_sound otherNamed otherContents sound
  have after := safe.run
  exact after

/-- What was touched so far is in nobody's way. -/
theorem Ready.stays (ready : Ready path name before) (spares : Spares path (Involved path before) before after) :
    Ready path name after := by
  have same := spares.workingDir
  refine ⟨spares.sound, ready.checked, ⟨?_, ready.passable.short, fun location passes id file => ?_⟩, ready.fits,
    ready.whole, ready.last, ready.plain, ready.short, fun location involved => ?_⟩
  · rw [same]
    exact spares.kept _ ready.passable.start
  · rw [same] at passes
    have found := FileTree.view_of_file file
    rcases spares.others location fun involved => (ready.free location involved).2 passes with stays | there
    · obtain ⟨old, was, -⟩ := FileTree.exists_id_of_view (stays ▸ found)
      exact ready.passable.clear location passes old was
    · rw [there] at found
      cases found
  · rw [Involved, same] at involved
    rw [same]
    refine ⟨fun there => ?_, (ready.free location involved).2⟩
    rcases spares.made location there with was | ⟨-, passes⟩
    · exact (ready.free location involved).1 was
    · exact (ready.free location involved).2 passes

/-- A path ends at its name in the directory that holds it. -/
theorem endsAt_of_leads {tree : FileTree} {workingDir place : Location} (named : path.fileName? = some name)
    (whole : checkPath path = .ok ()) (last : (pathSteps path).getLast? = some (.name name))
    (leads : tree.Leads workingDir path.directory place) : tree.EndsAt workingDir path place name := by
  have names := Path.names_of_fileName? named
  refine ⟨whole, ?_, leads.isDirectory, last⟩
  have steps := congrArg (List.filter fun step => decide (step ≠ .here)) (List.dropLast_append_getLast? _ last)
  rw [List.filter_append, filter_pathSteps, names.moves] at steps
  rw [← FileTree.walk_moves_iff leads.isDirectory, (List.append_inj' steps rfl).1, ← names.start]
  exact (FileTree.leads_iff.1 leads).1

theorem Ready.run_makeDirs (ready : Ready path name before) (named : path.fileName? = some name) :
    ∃ middle, before.run (makeDirs path.directory).run = (.ok (), middle) ∧
      Spares path (fun _ => False) before middle ∧ Reached path.directory before middle := by
  have makes := run_makeDirsFrom_ok path.directory.text.length path.directory (Nat.le_refl _)
    (Path.names_of_fileName? named).tidy ready.sound (fun _ => ready.checked) (fun _ => ready.passable)
    fun _ _ passes => passes
  obtain ⟨middle, run, made, reached⟩ := (safe_makeDirs (.refl ready.sound)).exists_run makes
  exact ⟨middle, run, made, reached rfl⟩

theorem Ready.run_writeDraft (ready : Ready path name now) (named : path.fileName? = some name)
    (leads : now.tree.Leads now.workingDir path.directory (locate now.workingDir path.directory))
    (contents : Bytes) :
    ∃ after, now.run (withFile (draft path) .create fun file => do
        write file contents
        sync file).run = (.ok (), after) ∧ Puts (locate now.workingDir (draft path)) contents now after := by
  have free := (ready.free _ (.inr rfl)).1
  have opens := leads.openToWrite_join ready.fits
  rw [Ne, FileTree.view_eq_directory_iff, locate_draft named] at free
  obtain ⟨id, tree, opened⟩ : ∃ id tree, now.tree.openToWrite now.workingDir (draft path) = .ok (id, tree) := by
    rw [draft, named, Option.getD_some, opens]
    split
    next there => exact (free there).elim
    next => exact ⟨_, _, rfl⟩
    next => exact ⟨_, _, rfl⟩
  have held : now.openFile (draft path) .create =
      .ok (now.nextHandle, ({ now with tree := tree.setData id [] }.hold (.file id (some 0))).2) := by
    simp only [World.openFile, World.openEmpty, opened, bind, Except.bind]
    rfl
  obtain ⟨written, writes, -⟩ :=
    World.run_write (World.lookup_hold { now with tree := tree.setData id [] } _) contents
  have succeeds : (now.run (withFile (draft path) .create fun file => do
      write file contents
      sync file).run).1 = .ok () := by
    rw [run_withFile held, run_bind_ok writes, run_sync]
  obtain ⟨after, run, -, wrote⟩ := (safe_writeDraft (draft path) ready.sound).exists_run succeeds
  exact ⟨after, run, (wrote rfl).1⟩

theorem Ready.rename (ready : Ready path name now) (named : path.fileName? = some name)
    (leads : now.tree.Leads now.workingDir path.directory (locate now.workingDir path.directory))
    (drafted : now.tree.view (locate now.workingDir (draft path)) = some (.file contents)) :
    ∃ tree, now.tree.rename now.workingDir (draft path) path = .ok tree := by
  have free := (ready.free _ (.inl rfl)).1
  rw [Ne, FileTree.view_eq_directory_iff, locate_path named] at free
  obtain ⟨id, file, -⟩ := FileTree.exists_id_of_view drafted
  rw [locate_draft named] at file
  have first := leads.resolveEnd_join ready.fits
  have second := (endsAt_of_leads named ready.whole ready.last leads).resolveEnd
  rw [ready.plain] at second
  rw [draft, named, Option.getD_some]
  exact ⟨_, FileTree.rename_of_resolveEnd first second ready.fits.short ready.short file free⟩

/-- With nothing in the way the file is replaced. -/
theorem Ready.run_replace (ready : Ready path name before) (named : path.fileName? = some name) (contents : Bytes) :
    (before.run (replace path contents).run).1 = .ok () := by
  obtain ⟨middle, makes, made, reached⟩ := ready.run_makeDirs named
  have further := ready.stays (made.mono nofun)
  obtain ⟨drafted, writes, puts⟩ := further.run_writeDraft named reached.leads contents
  have spares : Spares path (Involved path middle) middle drafted :=
    puts.spares (.refl made.sound) (fun _ => id) (.inr rfl)
  have leads : drafted.tree.Leads drafted.workingDir path.directory (locate drafted.workingDir path.directory) := by
    rw [puts.workingDir]
    exact reached.leads.mono puts.kept
  have view : drafted.tree.view (locate drafted.workingDir (draft path)) = some (.file contents) := by
    rw [puts.view, puts.workingDir, Function.update_self]
  obtain ⟨tree, moved⟩ := (further.stays spares).rename named leads view
  have moves := run_rename_ok moved
  have settled := (settled_of_rename named ready.sound made reached puts ready.fits moved).2
  have synced := (safe_syncDir settled).run
  unfold replace
  rw [run_bind_ok makes, run_bind_ok writes, run_bind_ok moves]
  by_contra failed
  obtain ⟨_, _, impossible, -⟩ := synced.2 failed
  exact impossible

/-- What is found after the replacement depends only on what was found before it. -/
theorem Settled.view_eq {other : World} (first : Settled path contents before after)
    (second : Settled path contents before other) : after.tree.view = other.tree.view := by
  have wayside {last : World} (settled : Settled path contents before last) (location : Location)
      (passes : Passes before.workingDir path.directory location) : last.tree.view location = some .directory := by
    rw [FileTree.view_eq_directory_iff]
    have leads := settled.leads
    rw [settled.spares.workingDir] at leads
    exact leads.passes passes
  have elsewhere {last : World} (settled : Settled path contents before last) (location : Location)
      (apart : ¬ Passes before.workingDir path.directory location) (untouched : ¬ Involved path before location) :
      last.tree.view location = before.tree.view location := by
    rcases settled.spares.others location untouched with same | there
    · exact same
    · rcases settled.spares.made location there with was | ⟨-, passes⟩
      · rw [there, was]
      · exact (apart passes).elim
  funext location
  by_cases involved : Involved path before location
  · rcases involved with same | same
    · rw [same, first.target, second.target]
    · rw [same, first.draft, second.draft]
  by_cases passes : Passes before.workingDir path.directory location
  · rw [wayside first location passes, wayside second location passes]
  · rw [elsewhere first location passes involved, elsewhere second location passes involved]

/-- A replacement that comes after what is left of another one comes to the same as without it. -/
theorem Settled.since {middle : World} (settled : Settled path contents middle after)
    (spares : Spares path (Involved path before) before middle) : Settled path contents before after := by
  have same := spares.workingDir
  obtain ⟨later, checked, leads, target, drafted⟩ := settled
  rw [same] at target drafted
  refine ⟨⟨later.sound, later.workingDir.trans same, fun location there => ?_, fun location there => ?_,
    fun location untouched => ?_⟩, checked, leads, target, drafted⟩
  · exact later.directories location (spares.directories location there)
  · rcases later.made location there with was | ⟨missing, passes⟩
    · exact spares.made location was
    rw [same] at passes
    have untouched : ¬ Involved path before location := by
      rintro (involved | involved)
      · rw [involved, target] at there
        cases there
      · rw [involved, drafted] at there
        cases there
    rcases spares.others location untouched with stays | directory
    · exact .inr ⟨stays ▸ missing, passes⟩
    · rw [directory] at missing
      cases missing
  · rcases later.others location (by rwa [Involved, same]) with stays | directory
    · rw [stays]
      exact spares.others location untouched
    · exact .inr directory

end Durable

end DualSlot
