import DualSlot.Proofs.FalteringCalls
import DualSlot.Proofs.TreeWalks

/-! What the replacement of a file leaves alone at each of its points, whichever of its calls fail, and what
it has done when it succeeds. -/

namespace DualSlot

namespace Simulation.World

variable {path dir : Path} {name : String} {contents : Bytes} {touched : Location → Prop}
  {fails : Call → World → Prop} {before now after : World}

/-- No more than the touched locations and the missing directories above the path have changed. -/
structure Spares (path : Path) (touched : Location → Prop) (before after : World) : Prop where
  sound : after.tree.Sound
  workingDir : after.workingDir = before.workingDir
  directories : ∀ location, before.tree.view location = some .directory →
    after.tree.view location = some .directory
  made : ∀ location, after.tree.view location = some .directory → before.tree.view location = some .directory ∨
    before.tree.view location = none ∧ Passes before.workingDir path.directory location
  others : ∀ location, ¬ touched location → after.tree.view location = before.tree.view location ∨
    after.tree.view location = some .directory

theorem Spares.refl (sound : before.tree.Sound) : Spares path touched before before :=
  ⟨sound, rfl, fun _ same => same, fun _ same => .inl same, fun _ _ => .inl rfl⟩

/-- Files have changed at touched locations. -/
theorem Spares.files {further : Location → Prop} (spares : Spares path touched before now)
    (more : ∀ location, touched location → further location) (sound : after.tree.Sound)
    (workingDir : after.workingDir = now.workingDir)
    (directories : ∀ location,
      after.tree.view location = some .directory ↔ now.tree.view location = some .directory)
    (others : ∀ location, ¬ further location → after.tree.view location = now.tree.view location) :
    Spares path further before after := by
  refine ⟨sound, workingDir.trans spares.workingDir, fun location there => ?_, fun location there => ?_,
    fun location untouched => ?_⟩
  · exact (directories location).2 (spares.directories location there)
  · exact spares.made location ((directories location).1 there)
  · rw [others location untouched]
    exact spares.others location fun touch => untouched (more location touch)

theorem Spares.congr (spares : Spares path touched before now) (tree : after.tree = now.tree)
    (workingDir : after.workingDir = now.workingDir) : Spares path touched before after := by
  refine spares.files (fun _ touch => touch) (tree ▸ spares.sound) workingDir (fun _ => ?_) fun _ _ => ?_
  · rw [tree]
  · rw [tree]

theorem Spares.mono {further : Location → Prop} (spares : Spares path touched before after)
    (more : ∀ location, touched location → further location) : Spares path further before after :=
  spares.files more spares.sound rfl (fun _ => Iff.rfl) fun _ _ => rfl

theorem Spares.kept (spares : Spares path touched before after) (location : Location)
    (there : before.tree.node? location = some .directory) : after.tree.node? location = some .directory := by
  rw [← FileTree.view_eq_directory_iff] at there ⊢
  exact spares.directories location there

/-- A file that was not touched has its contents. -/
theorem Spares.file? (spares : Spares path touched before after) {location : Location}
    (untouched : ¬ touched location) : after.tree.file? location = before.tree.file? location := by
  unfold FileTree.file?
  rcases spares.others location untouched with same | there
  · rw [same]
  · rcases spares.made location there with was | ⟨none, -⟩
    · rw [there, was]
    · rw [there, none]

/-- A directory above the path was made. -/
theorem Spares.makeDir {tree : FileTree} (spares : Spares path (fun _ => False) before now)
    (made : now.tree.makeDir now.workingDir dir = .ok tree)
    (within : ∀ location, Passes before.workingDir dir location →
      Passes before.workingDir path.directory location) :
    Spares path (fun _ => False) before { now with tree } := by
  obtain ⟨place, name, ends, -, missing, rfl⟩ := FileTree.makeDir_eq_ok made
  have view := now.tree.view_setNode_directory name place
  have none : now.tree.view (name :: place) = none := FileTree.view_eq_none_iff.2 missing
  have passes : Passes before.workingDir path.directory (name :: place) := by
    refine within _ ⟨_, List.prefix_refl _, ?_⟩
    rw [ends.eq_locate, spares.workingDir]
    rfl
  have absent : before.tree.view (name :: place) = .none := by
    rcases spares.others (name :: place) id with same | there
    · rw [← same, none]
    · rw [none] at there
      cases there
  refine ⟨spares.sound.put ends.isDirectory (by rw [missing]; nofun) nofun, spares.workingDir,
    fun location there => ?_, fun location there => ?_, fun location _ => ?_⟩
  · change (now.tree.setNode _ _).view location = _
    rw [view]
    obtain rfl | different := eq_or_ne location (name :: place)
    · exact Function.update_self ..
    · rw [Function.update_of_ne different]
      exact spares.directories location there
  · change (now.tree.setNode _ _).view location = _ at there
    rw [view] at there
    obtain rfl | different := eq_or_ne location (name :: place)
    · exact .inr ⟨absent, passes⟩
    · rw [Function.update_of_ne different] at there
      exact spares.made location there
  · change (now.tree.setNode _ _).view location = _ ∨ (now.tree.setNode _ _).view location = _
    rw [view]
    obtain rfl | different := eq_or_ne location (name :: place)
    · exact .inr (Function.update_self ..)
    · rw [Function.update_of_ne different]
      exact spares.others location id

end Simulation.World

namespace Durable

open Simulation World FileTask

variable {path dir parent : Path} {name : String} {contents : Bytes} {fails : Call → World → Prop}
  {before now after : World}

/-- A directory was made, or was there, and so were those above it. -/
structure Reached (dir : Path) (now after : World) : Prop where
  checked : checkPath dir = .ok ()
  start : now.tree.node? (FileTree.startOf now.workingDir dir) = some .directory
  leads : after.tree.Leads after.workingDir dir (locate after.workingDir dir)

theorem reached_of_makeDir {tree : FileTree} (made : now.tree.makeDir now.workingDir dir = .ok tree) :
    Reached dir now { now with tree } := by
  obtain ⟨place, name, ends, -⟩ := FileTree.makeDir_eq_ok made
  exact ⟨ends.sound, FileTree.isDirectory_of_walk ends.walks ends.isDirectory, FileTree.leads_of_makeDir made⟩

theorem reached_of_kind? (kind : now.tree.kind? now.workingDir dir = some .directory) : Reached dir now now := by
  obtain ⟨checked, leads⟩ := FileTree.leads_of_kind? kind
  exact ⟨checked, FileTree.isDirectory_of_walk leads.walks leads.isDirectory, leads⟩

theorem safe_unlessDirectory {held : World → Prop} {cause : IoError} (holds : held now) :
    FileTask.Safe fails held (fun result after => after = now ∧
      (result = .ok () → now.tree.kind? now.workingDir dir = some .directory))
      (unlessDirectory dir cause).run now := by
  unfold unlessDirectory
  refine safe_lift_bind (safe_call holds fun _ _ answer => answer.kind) ?_
  rintro kind after ⟨rfl, rfl⟩
  split
  next there => exact .done ⟨rfl, fun _ => there⟩
  next => exact .done ⟨rfl, nofun⟩

/-- What making a directory and those above it has done when it ends. -/
def DirsMade (path : Path) (before now : World) (dir : Path) (result : Except IoError Unit) (after : World) :
    Prop :=
  Spares path (fun _ => False) before after ∧
    (result = .ok () → dir.text = "" ∧ after = now ∨ Reached dir now after)

theorem safe_makeDirThen {handler : IoError → FileTask Unit}
    (spares : Spares path (fun _ => False) before now)
    (within : ∀ location, Passes before.workingDir dir location → Passes before.workingDir path.directory location)
    (handled : ∀ cause, FileTask.Safe fails (Spares path (fun _ => False) before) (DirsMade path before now dir)
      (handler cause).run now) :
    FileTask.Safe fails (Spares path (fun _ => False) before) (DirsMade path before now dir)
      (tryCatch (makeDir dir) handler).run now := by
  refine safe_tryCatch (safe_call spares fun _ _ answer => answer.makeDir) ?_ ?_
  · rintro _ after (⟨tree, made, -, rfl⟩ | ⟨⟨_, impossible⟩, -⟩)
    · exact ⟨spares.makeDir made within, fun _ => .inr (reached_of_makeDir made)⟩
    · cases impossible
  · rintro cause after (⟨_, -, impossible, -⟩ | ⟨-, rfl⟩)
    · cases impossible
    · exact handled cause

theorem safe_orDirectory (spares : Spares path (fun _ => False) before now) (cause : IoError) :
    FileTask.Safe fails (Spares path (fun _ => False) before) (DirsMade path before now dir)
      (unlessDirectory dir cause).run now := by
  refine Program.Safe.weaken (safe_unlessDirectory spares) ?_
  rintro result _ ⟨rfl, there⟩
  exact ⟨spares, fun done => .inr (reached_of_kind? (there done))⟩

theorem not_reached_of_empty (empty : dir.text = "") : ¬ Reached dir now after := by
  intro reached
  have checked := reached.checked
  simp [checkPath, empty] at checked

theorem isParent_of_text (named : dir.parent? = some parent) (given : parent.text ≠ "") :
    ∃ step, IsParent parent dir step := by
  rcases Path.parent?_cases named with ⟨-, empty⟩ | isParent
  · exact (given empty).elim
  · exact isParent

theorem passes_of_isParent {step : PathStep} (isParent : IsParent parent dir step) {workingDir location : Location}
    (passes : Passes workingDir parent location) : Passes workingDir dir location := by
  obtain ⟨passed, begins, rfl⟩ := passes
  refine ⟨passed, ?_, by rw [isParent.start]⟩
  rw [isParent.moves]
  exact begins.trans (List.prefix_append _ _)

/-- What is done in the parent first is part of what was to be done. -/
theorem DirsMade.of_parent {middle : World} {result : Except IoError Unit} (named : dir.parent? = some parent)
    (first : DirsMade path before now parent (.ok ()) middle)
    (second : DirsMade path before middle dir result after) :
    DirsMade path before now dir result after := by
  refine ⟨second.1, fun done => .inr ?_⟩
  rcases second.2 done with ⟨empty, -⟩ | further
  · obtain rfl : dir = ⟨""⟩ := congrArg Path.mk empty
    cases named
  rcases first.2 rfl with ⟨-, rfl⟩ | reached
  · exact further
  have given : parent.text ≠ "" := fun empty => not_reached_of_empty empty reached
  obtain ⟨step, isParent⟩ := isParent_of_text named given
  exact ⟨further.checked, isParent.start _ ▸ reached.start, further.leads⟩

theorem safe_makeDirsFrom (patience : Nat) (dir : Path) (spares : Spares path (fun _ => False) before now)
    (within : dir.text ≠ "" → ∀ location, Passes before.workingDir dir location →
      Passes before.workingDir path.directory location) :
    FileTask.Safe fails (Spares path (fun _ => False) before) (DirsMade path before now dir)
      (makeDirsFrom patience dir).run now := by
  induction patience generalizing dir with
  | zero =>
    unfold makeDirsFrom
    split
    next empty => exact .done ⟨spares, fun _ => .inl ⟨String.isEmpty_iff.1 empty, rfl⟩⟩
    next given =>
      refine safe_makeDirThen spares (within fun empty => given (String.isEmpty_iff.2 empty)) fun cause => ?_
      split
      next => exact safe_orDirectory spares cause
      next => cases dir.parent? <;> exact .done ⟨spares, fun impossible => by cases impossible⟩
  | succ patience ih =>
    unfold makeDirsFrom
    split
    next empty => exact .done ⟨spares, fun _ => .inl ⟨String.isEmpty_iff.1 empty, rfl⟩⟩
    next given =>
      replace within := within fun empty => given (String.isEmpty_iff.2 empty)
      refine safe_makeDirThen spares within fun cause => ?_
      split
      next => exact safe_orDirectory spares cause
      next =>
        cases named : dir.parent? with
        | none => exact .done ⟨spares, fun impossible => by cases impossible⟩
        | some parent =>
          have above (solid : parent.text ≠ "") (location : Location)
              (passes : Passes before.workingDir parent location) :
              Passes before.workingDir path.directory location := by
            obtain ⟨step, isParent⟩ := isParent_of_text named solid
            exact within location (passes_of_isParent isParent passes)
          refine safe_bind (ih parent above) (fun _ _ made => ⟨made.1, fun impossible => by cases impossible⟩) ?_
          intro _ middle made
          refine Program.Safe.weaken (safe_makeDirThen made.1 within fun cause => safe_orDirectory made.1 cause) ?_
          exact fun result after further => made.of_parent named further

theorem directory_text_ne (path : Path) : path.directory.text ≠ "" := by
  unfold Path.directory
  split
  next parent _ =>
    split
    next => decide
    next given => exact fun empty => given (String.isEmpty_iff.2 empty)
  next => decide

/-- The directories above the path are made, and nothing else is done. -/
theorem safe_makeDirs (spares : Spares path (fun _ => False) before now) :
    FileTask.Safe fails (Spares path (fun _ => False) before) (fun result after =>
        Spares path (fun _ => False) before after ∧ (result = .ok () → Reached path.directory now after))
      (makeDirs path.directory).run now := by
  refine Program.Safe.weaken (safe_makeDirsFrom _ _ spares fun _ _ passes => passes) ?_
  intro result after made
  refine ⟨made.1, fun done => ?_⟩
  rcases made.2 done with ⟨empty, -⟩ | reached
  · exact (directory_text_ne path empty).elim
  · exact reached

theorem passable_after (passable : now.tree.Passable now.workingDir dir)
    (spares : Spares path (fun _ => False) now after) : after.tree.Passable after.workingDir dir := by
  rw [spares.workingDir]
  refine ⟨spares.kept _ passable.start, passable.short, fun location passes id file => ?_⟩
  have found := FileTree.view_of_file file
  rcases spares.others location not_false with same | there
  · obtain ⟨old, was, -⟩ := FileTree.exists_id_of_view (same ▸ found)
    exact passable.clear location passes old was
  · rw [there] at found
    cases found

/-- A directory is made or is there, where no file is in the way and the one above it is there. -/
theorem run_makeDirOr {handler : IoError → FileTask Unit} (sound : now.tree.Sound)
    (checked : checkPath dir = .ok ()) (passable : now.tree.Passable now.workingDir dir)
    (ready : now.tree.walk (FileTree.startOf now.workingDir dir) (pathSteps dir).dropLast ≠ .error .notFound)
    (handled : handler .alreadyExists = unlessDirectory dir .alreadyExists) :
    (now.run (tryCatch (makeDir dir) handler).run).1 = .ok () := by
  have makes : now.run (makeDir dir).run = now.settleTree (now.tree.makeDir now.workingDir dir) := rfl
  rcases passable.makeDir sound checked with ⟨tree, made⟩ | ⟨taken, kind⟩ | ⟨-, missing⟩
  · rw [made] at makes
    rw [run_tryCatch_ok makes]
  · rw [taken] at makes
    rw [run_tryCatch_error makes, handled]
    have asked : now.run (Call.perform (.kind dir)) = (some .directory, now) := congrArg (·, now) kind
    unfold unlessDirectory
    rw [run_lift_bind, asked]
    rfl
  · exact (ready missing).elim

theorem checked_of_isParent {step : PathStep} (isParent : IsParent parent dir step) (given : parent.text ≠ "")
    (checked : checkPath dir = .ok ()) : checkPath parent = .ok () := by
  obtain ⟨clean, -, short⟩ := checkPath_eq_ok_iff.1 checked
  obtain ⟨rest, text⟩ := isParent.begins
  refine checkPath_eq_ok_iff.2 ⟨fun inside => clean ?_, given, Nat.lt_of_le_of_lt ?_ short⟩
  · rw [← text]
    exact List.mem_append_left _ inside
  · have whole : dir.text = parent.text ++ .ofList rest := String.toList_inj.1 (by simp [text])
    rw [whole, String.utf8ByteSize_append]
    exact Nat.le_add_right _ _

theorem passable_of_isParent {step : PathStep} (isParent : IsParent parent dir step)
    (passable : now.tree.Passable now.workingDir dir) : now.tree.Passable now.workingDir parent := by
  refine ⟨isParent.start _ ▸ passable.start, fun name inside => passable.short name ?_,
    fun location passes => passable.clear location (passes_of_isParent isParent passes)⟩
  rw [isParent.moves]
  exact List.mem_append_left _ inside

/-- Once those above it are made, a directory is made. -/
theorem run_makeDir_below {middle : World} {step : PathStep} (isParent : IsParent parent dir step) (tidy : Tidy dir)
    (checked : checkPath dir = .ok ()) (passable : now.tree.Passable now.workingDir dir)
    (first : DirsMade path now now parent (.ok ()) middle) :
    (middle.run (tryCatch (makeDir dir) (unlessDirectory dir)).run).1 = .ok () := by
  refine run_makeDirOr first.1.sound checked (passable_after passable first.1) ?_ rfl
  obtain ⟨place, leads⟩ : ∃ place, middle.tree.Leads middle.workingDir parent place := by
    rcases first.2 rfl with ⟨empty, same⟩ | reached
    · obtain rfl : parent = ⟨""⟩ := congrArg Path.mk empty
      exact ⟨_, rfl, (passable_after (passable_of_isParent isParent passable) first.1).start⟩
    · exact ⟨_, reached.leads⟩
  rw [FileTree.walk_dropLast_of_isParent isParent tidy leads]
  simp

/-- The missing directories are made where no file is in the way. -/
theorem run_makeDirsFrom_ok (patience : Nat) (dir : Path) (enough : dir.text.length ≤ patience) (tidy : Tidy dir)
    (sound : now.tree.Sound) (checked : dir.text ≠ "" → checkPath dir = .ok ())
    (passable : dir.text ≠ "" → now.tree.Passable now.workingDir dir)
    (within : dir.text ≠ "" → ∀ location, Passes now.workingDir dir location →
      Passes now.workingDir path.directory location) :
    (now.run (makeDirsFrom patience dir).run).1 = .ok () := by
  induction patience generalizing dir with
  | zero =>
    have empty : dir.text.isEmpty = true := by
      rw [String.isEmpty_iff, ← String.length_eq_zero_iff]
      omega
    unfold makeDirsFrom
    rw [if_pos empty]
    rfl
  | succ patience ih =>
    unfold makeDirsFrom
    split
    next => rfl
    next given =>
      replace given : dir.text ≠ "" := fun empty => given (String.isEmpty_iff.2 empty)
      by_cases ready : now.tree.walk (FileTree.startOf now.workingDir dir) (pathSteps dir).dropLast =
          .error .notFound
      · have makes : now.run (makeDir dir).run = (.error .notFound, now) :=
          congrArg now.settleTree (FileTree.makeDir_missing (checked given) ready)
        have moving : moves dir ≠ [] := by
          intro still
          rw [FileTree.walk_dropLast_of_moves_eq_nil still (passable given).start] at ready
          cases ready
        rw [run_tryCatch_error makes, if_neg (by simp)]
        cases named : dir.parent? with
        | none => exact (moving (Path.moves_of_parent?_none named)).elim
        | some parent =>
          rcases Path.parent?_cases named with ⟨still, -⟩ | ⟨step, isParent⟩
          · exact (moving still).elim
          have above (location : Location) (passes : Passes now.workingDir parent location) :
              Passes now.workingDir path.directory location :=
            within given location (passes_of_isParent isParent passes)
          have made := ih parent (by have := isParent.shorter; omega) isParent.tidy
            (fun solid => checked_of_isParent isParent solid (checked given))
            (fun _ => passable_of_isParent isParent (passable given)) fun _ => above
          obtain ⟨middle, run, first⟩ :=
            (safe_makeDirsFrom patience parent (.refl sound) fun _ => above).exists_run made
          rw [run_bind_ok run]
          exact run_makeDir_below isParent tidy (checked given) (passable given) first
      · exact run_makeDirOr sound (checked given) (passable given) ready (if_pos (by decide))

end Durable

end DualSlot
