import DualSlot.Proofs.StoreReads

/-! What is read at a path depends only on what is found on the way and at its end: of two trees in which the same is
found all is read alike, and where files were only added what was read is read as before. -/

namespace DualSlot

namespace Simulation

variable {name : String}

theorem moves_join (isName : IsName name) (base : Path) : moves (base.join name) = moves base ++ [.name name] := by
  rw [← filter_pathSteps, pathSteps_join isName, List.filter_append, filter_pathSteps]
  rfl

theorem locate_join (isName : IsName name) (workingDir : Location) (base : Path) :
    locate workingDir (base.join name) = name :: locate workingDir base := by
  rw [locate, moves_join isName, List.foldl_append, FileTree.startOf_join isName]
  rfl

namespace FileTree

variable {tree after : FileTree} {workingDir location : Location} {path : Path}

/-- What is read depends on what is on the way, and on what is found at its end. -/
theorem readAs_congr (way : ∀ location, Passes workingDir path location → after.kindAt location = tree.kindAt location)
    (same : after.view (locate workingDir path) = tree.view (locate workingDir path)) :
    after.readAs workingDir path = tree.readAs workingDir path := by
  unfold readAs
  rw [resolve_congr way]
  cases resolved : tree.resolve workingDir path with
  | error cause => rfl
  | ok place =>
    obtain rfl := resolve_eq_ok resolved
    simp only [same]

theorem kind?_eq (tree : FileTree) (workingDir : Location) (path : Path) :
    tree.kind? workingDir path = (tree.resolve workingDir path).toOption.bind tree.kindAt := by
  unfold kind? kindAt view
  cases (tree.resolve workingDir path).toOption with
  | none => rfl
  | some place =>
    cases found : tree.node? place with
    | none => simp [found]
    | some node => cases node <;> simp [found, Found.kind]

/-- Where a file is read there is a file. -/
theorem resolve_of_readAs {bytes : Bytes} (read : tree.readAs workingDir path = .ok (some bytes)) :
    tree.resolve workingDir path = .ok (locate workingDir path) ∧
      tree.view (locate workingDir path) = some (.file bytes) := by
  unfold readAs at read
  cases resolved : tree.resolve workingDir path with
  | error cause =>
    rw [resolved] at read
    dsimp only at read
    split at read <;> cases read
  | ok place =>
    obtain rfl := resolve_eq_ok resolved
    rw [resolved] at read
    dsimp only at read
    split at read
    next => cases read
    next => cases read
    next file =>
      cases read
      exact ⟨rfl, file⟩

end FileTree

namespace World

variable {path : Path} {touched : Location → Prop} {before middle after : World}

/-- The same is found at each place. -/
structure Unchanged (before after : World) : Prop where
  sound : after.tree.Sound
  view : after.tree.view = before.tree.view
  workingDir : after.workingDir = before.workingDir

theorem Unchanged.trans (first : Unchanged before middle) (second : Unchanged middle after) : Unchanged before after :=
  ⟨second.sound, second.view.trans first.view, second.workingDir.trans first.workingDir⟩

theorem Unchanged.readAs (unchanged : Unchanged before after) (path : Path) :
    after.tree.readAs after.workingDir path = before.tree.readAs before.workingDir path := by
  rw [unchanged.workingDir]
  exact FileTree.readAs_congr (fun location _ => FileTree.kindAt_congr (congrFun unchanged.view location))
    (congrFun unchanged.view _)

theorem Unchanged.kind? (unchanged : Unchanged before after) (path : Path) :
    after.tree.kind? after.workingDir path = before.tree.kind? before.workingDir path := by
  have same (location : Location) := FileTree.kindAt_congr (congrFun unchanged.view location)
  rw [unchanged.workingDir, FileTree.kind?_eq, FileTree.kind?_eq,
    FileTree.resolve_congr fun location _ => same location, funext same]

/-- What was not touched is the same, unless a directory was made in its place. -/
theorem Spares.view_eq {location : Location} (spares : Spares path touched before after)
    (untouched : ¬ touched location)
    (clear : before.tree.view location = none → ¬ Passes before.workingDir path.directory location) :
    after.tree.view location = before.tree.view location := by
  rcases spares.others location untouched with same | there
  · exact same
  · rcases spares.made location there with was | ⟨none, passes⟩
    · rw [there, was]
    · exact (clear none passes).elim

/-- If the directories above the path are there, none is made. -/
theorem Spares.view_of_leads {location place : Location} (spares : Spares path touched before after)
    (leads : before.tree.Leads before.workingDir path.directory place) (untouched : ¬ touched location) :
    after.tree.view location = before.tree.view location := by
  refine spares.view_eq untouched fun none passes => ?_
  rw [FileTree.view_eq_directory_iff.2 (leads.passes passes)] at none
  cases none

/-- At no more than the touched locations something has changed, new directories apart. -/
structure Grows (touched : Location → Prop) (before after : World) : Prop where
  workingDir : after.workingDir = before.workingDir
  kept : ∀ location, before.tree.node? location = some .directory → after.tree.node? location = some .directory
  others : ∀ location, ¬ touched location → after.tree.view location = before.tree.view location ∨
    before.tree.view location = none ∧ after.tree.view location = some .directory

theorem Spares.grows {further : Location → Prop} (spares : Spares path touched before after)
    (more : ∀ location, touched location → further location) : Grows further before after := by
  refine ⟨spares.workingDir, spares.kept, fun location untouched => ?_⟩
  rcases spares.others location fun touch => untouched (more location touch) with same | there
  · exact .inl same
  · rcases spares.made location there with was | ⟨none, -⟩
    · exact .inl (there.trans was.symm)
    · exact .inr ⟨none, there⟩

theorem Grows.trans (first : Grows touched before middle) (second : Grows touched middle after) :
    Grows touched before after := by
  refine ⟨second.workingDir.trans first.workingDir,
    fun location there => second.kept location (first.kept location there), fun location untouched => ?_⟩
  rcases first.others location untouched with same | ⟨none, made⟩
  · rw [← same]
    exact second.others location untouched
  · refine .inr ⟨none, ?_⟩
    rw [FileTree.view_eq_directory_iff] at made ⊢
    exact second.kept location made

theorem Grows.file? (grows : Grows touched before after) {location : Location} (untouched : ¬ touched location) :
    after.tree.file? location = before.tree.file? location := by
  unfold FileTree.file?
  rcases grows.others location untouched with same | ⟨none, made⟩
  · rw [same]
  · rw [none, made]

theorem Grows.leads {place : Location} (grows : Grows touched before after)
    (leads : before.tree.Leads before.workingDir path place) : after.tree.Leads after.workingDir path place := by
  rw [grows.workingDir]
  exact leads.mono grows.kept

/-- A file that was read is read as before. -/
theorem Grows.readAs {dir : Path} {bytes : Bytes} (grows : Grows touched before after)
    (isName : IsName name) (untouched : ¬ touched (locate before.workingDir (dir.join name)))
    (read : before.tree.readAs before.workingDir (dir.join name) = .ok (some bytes)) :
    after.tree.readAs after.workingDir (dir.join name) = .ok (some bytes) := by
  obtain ⟨resolved, file⟩ := FileTree.resolve_of_readAs read
  obtain ⟨place, leads⟩ := DirectoryStore.leads_of_resolve_join isName resolved
  have same := (grows.others _ untouched).resolve_right fun ⟨absent, _⟩ => by rw [file] at absent; cases absent
  rw [locate_join isName, ← leads.eq_locate] at same
  rw [← read, grows.workingDir]
  exact leads.readAs_eq (grows.workingDir ▸ grows.leads leads) isName same

/-- A file that is read in a directory that was there was read as the same before. -/
theorem Grows.readAs_before {dir : Path} {bytes : Bytes} {place : Location}
    (grows : Grows touched before after) (isName : IsName name)
    (untouched : ¬ touched (locate before.workingDir (dir.join name)))
    (leads : before.tree.Leads before.workingDir dir place)
    (read : after.tree.readAs after.workingDir (dir.join name) = .ok (some bytes)) :
    before.tree.readAs before.workingDir (dir.join name) = .ok (some bytes) := by
  obtain ⟨-, file⟩ := FileTree.resolve_of_readAs read
  rw [grows.workingDir] at file
  have same := (grows.others _ untouched).resolve_right fun ⟨_, made⟩ => by rw [file] at made; cases made
  rw [locate_join isName, ← leads.eq_locate] at same
  rw [← read, grows.workingDir]
  exact (leads.readAs_eq (grows.workingDir ▸ grows.leads leads) isName same).symm

/-- Of the world before it only the files matter. -/
theorem Spares.since {start : World} (spares : Spares path touched before after) (tree : before.tree = start.tree)
    (workingDir : before.workingDir = start.workingDir) : Spares path touched start after := by
  obtain ⟨sound, same, directories, made, others⟩ := spares
  rw [tree] at directories made others
  rw [workingDir] at same made
  exact ⟨sound, same, directories, made, others⟩

end World

end Simulation

end DualSlot
