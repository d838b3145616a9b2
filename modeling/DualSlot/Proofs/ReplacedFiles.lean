import DualSlot.Proofs.FoundFiles

/-! The replacement of a file at any path, whichever calls fail, and what becomes of a file that was replaced
while others are. -/

namespace DualSlot

namespace FileTask

open Simulation World

end FileTask

namespace Durable

open Simulation World FileTask

variable {path other : Path} {name : String} {contents : Bytes} {fails : Call → World → Prop} {finished : Prop}
  {before now after : World} {touched : Location → Prop}

/-! A path without a name. -/

/-- The last step of a path with no name goes up or stays. -/
theorem getLast?_of_nameless (nameless : path.fileName? = none) : (pathSteps path).getLast? ≠ some (.name name) := by
  intro last
  have whole := congrArg (List.filter fun step => decide (step ≠ .here))
    (List.dropLast_append_getLast? _ last).symm
  rw [filter_pathSteps, List.filter_append] at whole
  replace whole : (moves path).getLast? = some (.name name) := by rw [whole]; simp
  unfold Path.fileName? at nameless
  split at nameless
  next split =>
    rw [Path.moves_of_splitLast_none split] at whole
    cases whole
  next split =>
    obtain ⟨idle, rest, cut⟩ := Path.cut_of_splitLast split
    rw [cut.isParent.moves, List.getLast?_concat] at whole
    cases whole
  next => cases nameless

theorem rename_nameless (nameless : path.fileName? = none) {tree later : FileTree} {workingDir : Location} :
    tree.rename workingDir other path ≠ .ok later := by
  intro moved
  obtain ⟨⟨_, oldName?, _⟩, -, moved⟩ := Except.bind_eq_ok_iff.1 moved
  obtain ⟨⟨_, newName?, _⟩, second, moved⟩ := Except.bind_eq_ok_iff.1 moved
  cases oldName? with
  | none => cases moved
  | some oldName =>
    cases newName? with
    | none => cases moved
    | some newName => exact getLast?_of_nameless nameless (FileTree.resolveEnd_eq_ok second).1.last

/-- No file is replaced at a path without a name; no more than a draft is made. -/
theorem safe_replace_nameless (nameless : path.fileName? = none) (sound : before.tree.Sound) :
    FileTask.Safe fails (fun _ => True) (fun result after => result ≠ .ok () ∧
        Spares path (· = locate before.workingDir (draft path)) before after)
      (replace path contents).run before := by
  unfold replace
  refine safe_draft_bind sound (fun _ _ => trivial) (fun _ _ spares => ⟨nofun, spares⟩) ?_
  intro middle drafted id later made reached opened puts spares
  refine safe_bind (safe_call trivial fun _ _ answer => answer.rename) ?_ ?_
  · rintro cause after (⟨_, -, impossible, -⟩ | ⟨-, rfl⟩)
    · cases impossible
    · exact ⟨nofun, spares⟩
  · rintro _ after (⟨tree, moved, -⟩ | ⟨⟨_, impossible⟩, -⟩)
    · exact (rename_nameless nameless moved).elim
    · cases impossible

/-- The path is one of a file, and the file there was replaced. -/
def Replaced (path : Path) (contents : Bytes) (before after : World) : Prop :=
  ∃ name, path.fileName? = some name ∧ Ready path name before ∧ Settled path contents before after

/-- How an attempt to replace a file ended, done or not. If it was not done although the file was replaced, it is
a call on the directory that failed. -/
structure Attempted (path : Path) (contents : Bytes) (fails : Call → World → Prop) (before : World)
    (finished : Prop) (after : World) : Prop where
  done : finished → Replaced path contents before after
  failed : ¬ finished → Spares path (· = locate before.workingDir (draft path)) before after ∨
    Replaced path contents before after ∧ ∃ call moment, fails call moment ∧ OnDirectory path call moment

theorem safe_attempt (sound : before.tree.Sound) :
    FileTask.Safe fails (fun _ => True)
      (fun result after => Attempted path contents fails before (result = .ok ()) after)
      (replace path contents).run before := by
  cases named : path.fileName? with
  | none =>
    refine Program.Safe.weaken (safe_replace_nameless named sound) fun result after ended => ?_
    exact ⟨fun done => (ended.1 done).elim, fun _ => .inl ended.2⟩
  | some name =>
    refine (safe_replace named sound).mono (fun _ _ _ => trivial) fun result after ended => ?_
    refine ⟨fun done => ⟨name, named, ended.done done⟩, fun failed => (ended.failed failed).imp_right ?_⟩
    rintro ⟨ready, settled, reason⟩
    exact ⟨⟨name, named, ready, settled⟩, reason⟩

theorem Replaced.spares (replaced : Replaced path contents before after) :
    Spares path (Involved path before) before after := by
  obtain ⟨_, -, -, settled⟩ := replaced
  exact settled.spares

theorem Replaced.congr {later : World} (replaced : Replaced path contents before after)
    (tree : later.tree = after.tree) (workingDir : later.workingDir = after.workingDir) :
    Replaced path contents before later := by
  obtain ⟨name, named, ready, settled⟩ := replaced
  exact ⟨name, named, ready, settled.congr tree workingDir⟩

theorem Attempted.congr {also : Prop} {later : World}
    (attempted : Attempted path contents fails before finished after) (same : also ↔ finished)
    (tree : later.tree = after.tree) (workingDir : later.workingDir = after.workingDir) :
    Attempted path contents fails before also later := by
  refine ⟨fun done => (attempted.done (same.1 done)).congr tree workingDir, fun failed => ?_⟩
  rcases attempted.failed fun done => failed (same.2 done) with spares | ⟨replaced, reason⟩
  · exact .inl (spares.congr tree workingDir)
  · exact .inr ⟨replaced.congr tree workingDir, reason⟩

theorem involved_congr {location : Location} (workingDir : after.workingDir = before.workingDir) :
    Involved path after location ↔ Involved path before location := by
  rw [Involved, Involved, workingDir]

theorem Replaced.since {start : World} (replaced : Replaced path contents before after)
    (tree : before.tree = start.tree) (workingDir : before.workingDir = start.workingDir) :
    Replaced path contents start after := by
  have involved : Involved path before = Involved path start :=
    funext fun _ => propext (involved_congr workingDir)
  obtain ⟨name, named, ⟨sound, checked, passable, fits, whole, last, plain, short, free⟩, settled⟩ := replaced
  obtain ⟨spares, checked', leads, target, undrafted⟩ := settled
  replace spares := spares.since tree workingDir
  simp only [involved, tree, workingDir] at sound passable free spares target undrafted
  exact ⟨name, named, ⟨sound, checked, passable, fits, whole, last, plain, short, free⟩,
    spares, checked', leads, target, undrafted⟩

theorem Attempted.since {start : World} (attempted : Attempted path contents fails before finished after)
    (tree : before.tree = start.tree) (workingDir : before.workingDir = start.workingDir) :
    Attempted path contents fails start finished after := by
  refine ⟨fun done => (attempted.done done).since tree workingDir, fun undone => ?_⟩
  rw [← workingDir]
  exact (attempted.failed undone).imp (fun spares => spares.since tree workingDir)
    fun ⟨replaced, reason⟩ => ⟨replaced.since tree workingDir, reason⟩

theorem Attempted.cases (attempted : Attempted path contents fails before finished after) :
    Spares path (· = locate before.workingDir (draft path)) before after ∨ Replaced path contents before after := by
  by_cases done : finished
  · exact .inr (attempted.done done)
  · exact (attempted.failed done).imp_right And.left

theorem Attempted.spares (attempted : Attempted path contents fails before finished after) :
    Spares path (Involved path before) before after := by
  rcases attempted.cases with spares | replaced
  · exact spares.mono fun _ touch => .inr touch
  · exact replaced.spares

theorem Replaced.keeps_file (replaced : Replaced path contents before after) {location : Location}
    (notDraft : location ≠ locate before.workingDir (draft path)) (there : before.tree.file? location ≠ none) :
    after.tree.file? location ≠ none := by
  obtain ⟨_, -, -, settled⟩ := replaced
  by_cases own : location = locate before.workingDir path
  · rw [own, FileTree.file?, settled.target]
    exact Option.some_ne_none _
  · rwa [settled.spares.file? (not_or.2 ⟨own, notDraft⟩)]

/-- No attempt to replace a file removes one, its own draft apart. -/
theorem Attempted.keeps_file (attempted : Attempted path contents fails before finished after) {location : Location}
    (notDraft : location ≠ locate before.workingDir (draft path)) (there : before.tree.file? location ≠ none) :
    after.tree.file? location ≠ none := by
  rcases attempted.cases with spares | replaced
  · rwa [spares.file? notDraft]
  · exact replaced.keeps_file notDraft there

/-! A file that was replaced. -/

/-- A file with the contents is at the path, nothing is in the way of its replacement, and it has no draft. -/
structure Stands (path : Path) (contents : Bytes) (world : World) : Prop where
  ready : ∃ name, path.fileName? = some name ∧ Ready path name world
  leads : world.tree.Leads world.workingDir path.directory (locate world.workingDir path.directory)
  target : world.tree.view (locate world.workingDir path) = some (.file contents)
  undrafted : world.tree.view (locate world.workingDir (draft path)) = none

theorem Replaced.stands (replaced : Replaced path contents before after) : Stands path contents after := by
  obtain ⟨name, named, ready, settled⟩ := replaced
  have same := settled.spares.workingDir
  refine ⟨⟨name, named, ready.stays settled.spares⟩, settled.leads, ?_, ?_⟩
  · rw [same, settled.target]
  · rw [same, settled.draft]

theorem Stands.readAs (stands : Stands path contents now) :
    now.tree.readAs now.workingDir path = .ok (some contents) := by
  obtain ⟨name, named, ready⟩ := stands.ready
  have target := stands.target
  have ends := endsAt_of_leads named ready.whole ready.last stands.leads
  generalize locate now.workingDir path.directory = dir at ends
  rw [← ends.eq_locate] at target
  obtain ⟨id, node, -⟩ := FileTree.exists_id_of_view target
  have entered : now.tree.enter dir (.name name) = .ok (name :: dir) := by
    rw [FileTree.enter_name ends.isDirectory ready.short, node]
  have walks : now.tree.walk (FileTree.startOf now.workingDir path) (pathSteps path) = .ok (name :: dir) := by
    rw [ends.steps, FileTree.walk_append]
    exact Except.bind_eq_ok_iff.2 ⟨dir, ends.walks, entered⟩
  have resolved : now.tree.resolve now.workingDir path = .ok (name :: dir) := by
    rw [FileTree.resolve, ready.whole, ready.plain]
    exact Except.bind_eq_ok_iff.2 ⟨(), rfl, Except.bind_eq_ok_iff.2 ⟨_, walks, rfl⟩⟩
  simp only [FileTree.readAs, resolved, target]

/-- It stays so while other files are replaced, if neither the file nor its draft is one of them. -/
theorem Stands.spared (stands : Stands path contents before) (spares : Spares other touched before after)
    (untouched : ¬ touched (locate before.workingDir path))
    (undrafted : after.tree.view (locate before.workingDir (draft path)) =
      before.tree.view (locate before.workingDir (draft path))) : Stands path contents after := by
  obtain ⟨name, named, ready⟩ := stands.ready
  have same := spares.workingDir
  have leads : after.tree.Leads after.workingDir path.directory (locate after.workingDir path.directory) := by
    rw [same]
    exact stands.leads.mono spares.kept
  have target := (spares.view_eq untouched fun none => by rw [stands.target] at none; cases none).trans stands.target
  replace undrafted := undrafted.trans stands.undrafted
  refine ⟨⟨name, named, spares.sound, ready.checked, leads.passable, ready.fits, ready.whole, ready.last,
    ready.plain, ready.short, fun location involved => ?_⟩, leads, same ▸ target, same ▸ undrafted⟩
  rw [Involved, same] at involved
  rw [same]
  refine ⟨fun directory => ?_, (ready.free location involved).2⟩
  rcases involved with here | here
  · rw [here, target] at directory
    cases directory
  · rw [here, undrafted] at directory
    cases directory

theorem Stands.unchanged (stands : Stands path contents before) (unchanged : Unchanged before after) :
    Stands path contents after := by
  have same (location : Location) := congrFun unchanged.view location
  have spares : Spares path (fun _ => False) before after :=
    ⟨unchanged.sound, unchanged.workingDir, fun _ there => (same _).trans there,
      fun _ there => .inl ((same _).symm.trans there), fun _ _ => .inl (same _)⟩
  exact stands.spared spares id (same _)

/-- A file that is replaced by one with its contents is the same, and so is all else. -/
theorem Stands.run_replace (stands : Stands path contents now) :
    ∃ after, now.run (replace path contents).run = (.ok (), after) ∧ Unchanged now after := by
  obtain ⟨name, named, ready⟩ := stands.ready
  obtain ⟨after, run, ended⟩ := (safe_replace named ready.sound).exists_run (ready.run_replace named contents)
  obtain ⟨-, settled⟩ := ended.done rfl
  refine ⟨after, run, settled.spares.sound, funext fun location => ?_, settled.spares.workingDir⟩
  by_cases involved : Involved path now location
  · rcases involved with here | here
    · rw [here, settled.target, stands.target]
    · rw [here, settled.draft, stands.undrafted]
  · exact settled.spares.view_of_leads stands.leads involved

end Durable

end DualSlot
