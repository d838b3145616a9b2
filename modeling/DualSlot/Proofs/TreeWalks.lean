import DualSlot.Proofs.Results
import DualSlot.Proofs.TreeViews

/-! Where a path leads in a tree if it can be followed: to the location that its text alone stands for,
through directories. A tree in which no file is in the way lets the missing directories be made. -/

namespace DualSlot

namespace Simulation

theorem foldl_moves (steps : List PathStep) (start : Location) :
    (steps.filter fun step => decide (step ≠ .here)).foldl PathStep.carry start =
      steps.foldl PathStep.carry start := by
  induction steps generalizing start with
  | nil => rfl
  | cons step steps ih =>
    by_cases here : step = .here
    · rw [here, List.filter_cons_of_neg (by simp), List.foldl_cons, ih]
      rfl
    · rw [List.filter_cons_of_pos (by simpa using here), List.foldl_cons, List.foldl_cons, ih]

namespace FileTree

variable {tree after : FileTree} {workingDir location start place dir : Location} {path parent : Path}
  {name : String}

section

variable {steps : List PathStep} {step : PathStep}

theorem enter_eq_ok {next : Location} (entered : tree.enter place step = .ok next) : next = step.carry place := by
  cases step with
  | here | up =>
    rw [enter_directory (isDirectory_of_enter entered)] at entered
    exact (Except.ok.inj entered).symm
  | name name => exact enter_name_eq_ok entered

theorem walk_cons_eq_ok (walks : tree.walk start (step :: steps) = .ok place) :
    tree.enter start step = .ok (step.carry start) ∧ tree.walk (step.carry start) steps = .ok place := by
  rw [walk_cons] at walks
  cases entered : tree.enter start step with
  | error cause => rw [entered] at walks; cases walks
  | ok next =>
    obtain rfl := enter_eq_ok entered
    rw [entered] at walks
    exact ⟨rfl, walks⟩

theorem walk_eq_ok (walks : tree.walk start steps = .ok place) : place = steps.foldl PathStep.carry start := by
  induction steps generalizing start with
  | nil => exact (Except.ok.inj walks).symm
  | cons step steps ih => exact ih (walk_cons_eq_ok walks).2

/-- A walk goes through directories only. -/
theorem isDirectory_of_prefix {passed : List PathStep} (walks : tree.walk start steps = .ok place)
    (isDirectory : tree.node? place = some .directory) (before : passed <+: steps) :
    tree.node? (passed.foldl PathStep.carry start) = some .directory := by
  induction passed generalizing start steps with
  | nil => exact isDirectory_of_walk walks isDirectory
  | cons step passed ih =>
    obtain ⟨rest, rfl⟩ := before
    exact ih (walk_cons_eq_ok walks).2 (List.prefix_append passed rest)

theorem short_of_walk (walks : tree.walk start steps = .ok place) (inside : .name name ∈ steps) :
    name.utf8ByteSize ≤ nameLimit := by
  induction steps generalizing start with
  | nil => cases inside
  | cons step steps ih =>
    obtain ⟨entered, walks⟩ := walk_cons_eq_ok walks
    rcases List.mem_cons.1 inside with rfl | later
    · exact short_of_enter entered
    · exact ih walks later

/-- It does not matter to a walk to a directory where it stays in a place. -/
theorem walk_moves_iff (isDirectory : tree.node? place = some .directory) :
    tree.walk start (steps.filter fun step => decide (step ≠ .here)) = .ok place ↔
      tree.walk start steps = .ok place := by
  induction steps generalizing start with
  | nil => exact Iff.rfl
  | cons step steps ih =>
    by_cases here : step = .here
    · subst here
      rw [List.filter_cons_of_neg (by simp), ih, walk_cons]
      constructor
      · intro walks
        rw [enter_directory (isDirectory_of_walk walks isDirectory)]
        exact walks
      · intro walks
        cases entered : tree.enter start .here with
        | error cause => rw [entered] at walks; cases walks
        | ok next =>
          obtain rfl := enter_eq_ok entered
          rwa [entered] at walks
    · rw [List.filter_cons_of_pos (by simpa using here), walk_cons, walk_cons]
      cases tree.enter start step with
      | error cause => exact Iff.rfl
      | ok next => exact ih

end

theorem leads_iff : tree.Leads workingDir path place ↔
    tree.walk (startOf workingDir path) (moves path) = .ok place ∧ tree.node? place = some .directory := by
  rw [← filter_pathSteps]
  exact ⟨fun leads => ⟨(walk_moves_iff leads.isDirectory).2 leads.walks, leads.isDirectory⟩,
    fun ⟨walks, isDirectory⟩ => ⟨(walk_moves_iff isDirectory).1 walks, isDirectory⟩⟩

theorem Leads.eq_locate (leads : tree.Leads workingDir path place) : place = locate workingDir path :=
  walk_eq_ok (leads_iff.1 leads).1

theorem Leads.passes (leads : tree.Leads workingDir path place) (passes : Passes workingDir path location) :
    tree.node? location = some .directory := by
  obtain ⟨passed, before, rfl⟩ := passes
  exact isDirectory_of_prefix (leads_iff.1 leads).1 leads.isDirectory before

/-- How a path was found to end at a name in a directory. -/
structure EndsAt (tree : FileTree) (workingDir : Location) (path : Path) (dir : Location) (name : String) :
    Prop where
  sound : checkPath path = .ok ()
  walks : tree.walk (startOf workingDir path) (pathSteps path).dropLast = .ok dir
  isDirectory : tree.node? dir = some .directory
  last : (pathSteps path).getLast? = some (.name name)

theorem resolveEnd_eq_ok {slash : Bool} (ends : tree.resolveEnd workingDir path = .ok ⟨dir, some name, slash⟩) :
    tree.EndsAt workingDir path dir name ∧ slash = endsWithSlash path := by
  obtain ⟨_, sound, ends⟩ := Except.bind_eq_ok_iff.1 ends
  obtain ⟨place, walks, ends⟩ := Except.bind_eq_ok_iff.1 ends
  by_cases isDirectory : tree.node? place = some .directory
  · dsimp only at ends
    rw [if_neg (not_not.2 isDirectory)] at ends
    split at ends
    next last =>
      cases ends
      exact ⟨⟨sound, walks, isDirectory, last⟩, rfl⟩
    next => cases ends
  · dsimp only at ends
    rw [if_pos isDirectory] at ends
    cases ends

theorem EndsAt.resolveEnd (ends : tree.EndsAt workingDir path dir name) :
    tree.resolveEnd workingDir path = .ok ⟨dir, some name, endsWithSlash path⟩ := by
  unfold FileTree.resolveEnd
  rw [ends.sound]
  simp only [ends.walks, ends.last, bind, Except.bind, ends.isDirectory]
  rfl

theorem EndsAt.steps (ends : tree.EndsAt workingDir path dir name) :
    pathSteps path = (pathSteps path).dropLast ++ [.name name] :=
  (List.dropLast_append_getLast? _ ends.last).symm

theorem EndsAt.moves (ends : tree.EndsAt workingDir path dir name) :
    moves path = (pathSteps path).dropLast.filter (fun step => decide (step ≠ .here)) ++ [.name name] := by
  have split := congrArg (List.filter fun step => decide (step ≠ .here)) ends.steps
  rwa [filter_pathSteps, List.filter_append] at split

theorem EndsAt.eq_locate (ends : tree.EndsAt workingDir path dir name) : name :: dir = locate workingDir path := by
  rw [locate, ends.moves, List.foldl_append, foldl_moves, ← walk_eq_ok ends.walks]
  rfl

theorem EndsAt.mono (ends : tree.EndsAt workingDir path dir name)
    (kept : ∀ location, tree.node? location = some .directory → after.node? location = some .directory) :
    after.EndsAt workingDir path dir name :=
  ⟨ends.sound, walk_of_directories kept ends.walks ends.isDirectory, kept _ ends.isDirectory, ends.last⟩

/-- A path leads to the directory that it ends at. -/
theorem EndsAt.leads (ends : tree.EndsAt workingDir path dir name) (short : name.utf8ByteSize ≤ nameLimit)
    (there : tree.node? (name :: dir) = some .directory) : tree.Leads workingDir path (name :: dir) := by
  refine ⟨?_, there⟩
  rw [ends.steps, walk_append, ends.walks]
  change tree.enter dir (.name name) = _
  rw [enter_name ends.isDirectory short, there]

theorem short_of_child {node : Option Node} (found : tree.child dir name = .ok node) :
    name.utf8ByteSize ≤ nameLimit ∧ node = tree.node? (name :: dir) := by
  unfold child at found
  split at found
  next => cases found
  next long => exact ⟨Nat.not_lt.1 long, (Except.ok.inj found).symm⟩

theorem makeDir_eq_ok (made : tree.makeDir workingDir path = .ok after) :
    ∃ dir name, tree.EndsAt workingDir path dir name ∧ name.utf8ByteSize ≤ nameLimit ∧
      tree.node? (name :: dir) = none ∧ after = tree.setNode (name :: dir) .directory := by
  obtain ⟨⟨dir, name?, slash⟩, ends, made⟩ := Except.bind_eq_ok_iff.1 made
  cases name? with
  | none => cases made
  | some name =>
    obtain ⟨node, child, made⟩ := Except.bind_eq_ok_iff.1 made
    obtain ⟨short, rfl⟩ := short_of_child child
    split at made
    next => cases made
    next missing => exact ⟨dir, name, (resolveEnd_eq_ok ends).1, short, missing, (Except.ok.inj made).symm⟩

/-- A directory that was made can be gone to. -/
theorem leads_of_makeDir (made : tree.makeDir workingDir path = .ok after) :
    after.Leads workingDir path (locate workingDir path) := by
  obtain ⟨dir, name, ends, short, missing, rfl⟩ := makeDir_eq_ok made
  have there : (tree.setNode (name :: dir) .directory).node? (name :: dir) = some .directory :=
    node?_setNode_self (by simp) _
  have kept : ∀ location, tree.node? location = some .directory →
      (tree.setNode (name :: dir) .directory).node? location = some .directory := by
    intro location found
    rw [node?_setNode_of_ne, found]
    rintro rfl
    rw [missing] at found
    cases found
  rw [← ends.eq_locate]
  exact (ends.mono kept).leads short there

theorem leads_of_resolve (resolved : tree.resolve workingDir path = .ok place)
    (isDirectory : tree.node? place = some .directory) :
    checkPath path = .ok () ∧ tree.Leads workingDir path (locate workingDir path) := by
  obtain ⟨_, sound, resolved⟩ := Except.bind_eq_ok_iff.1 resolved
  obtain ⟨found, walks, resolved⟩ := Except.bind_eq_ok_iff.1 resolved
  split at resolved
  next => cases resolved
  next =>
    obtain rfl := Except.ok.inj resolved
    have leads : tree.Leads workingDir path found := ⟨walks, isDirectory⟩
    exact ⟨sound, leads.eq_locate ▸ leads⟩

theorem leads_of_kind? (kind : tree.kind? workingDir path = some .directory) :
    checkPath path = .ok () ∧ tree.Leads workingDir path (locate workingDir path) := by
  unfold kind? at kind
  split at kind
  next => cases kind
  next found =>
    obtain ⟨place, resolved, isDirectory⟩ := Option.bind_eq_some_iff.1 found
    cases result : tree.resolve workingDir path with
    | error cause => rw [result] at resolved; cases resolved
    | ok other =>
      rw [result] at resolved
      cases resolved
      exact leads_of_resolve result isDirectory
  next => cases kind

theorem Leads.resolve (leads : tree.Leads workingDir path place) (sound : checkPath path = .ok ()) :
    tree.resolve workingDir path = .ok place := by
  unfold FileTree.resolve
  rw [sound]
  simp [bind, Except.bind, leads.walks, leads.isDirectory, pure, Except.pure]

theorem Leads.kind? (leads : tree.Leads workingDir path place) (sound : checkPath path = .ok ()) :
    tree.kind? workingDir path = some .directory := by
  unfold FileTree.kind?
  rw [leads.resolve sound]
  simp [leads.isDirectory, Except.toOption]

/-- No file is in the way of making the directory, and no name is too long. -/
structure Passable (tree : FileTree) (workingDir : Location) (path : Path) : Prop where
  start : tree.node? (startOf workingDir path) = some .directory
  short : ∀ name, .name name ∈ moves path → name.utf8ByteSize ≤ nameLimit
  clear : ∀ location, Passes workingDir path location → ∀ id, tree.node? location ≠ some (.file id)

theorem Leads.passable (leads : tree.Leads workingDir path place) : tree.Passable workingDir path := by
  refine ⟨isDirectory_of_walk leads.walks leads.isDirectory, ?_, fun location passes id file => ?_⟩
  · exact fun name inside => short_of_walk (leads_iff.1 leads).1 inside
  · rw [leads.passes passes] at file
    cases file

/-- A walk that meets no file comes to a directory, or to where nothing is. -/
theorem walk_clear {steps : List PathStep} (sound : tree.Sound) (isDirectory : tree.node? start = some .directory)
    (short : ∀ name, .name name ∈ steps → name.utf8ByteSize ≤ nameLimit)
    (clear : ∀ passed, passed <+: steps → ∀ id, tree.node? (passed.foldl PathStep.carry start) ≠ some (.file id)) :
    tree.walk start steps = .error .notFound ∨
      ∃ place, tree.walk start steps = .ok place ∧ tree.node? place = some .directory := by
  induction steps generalizing start with
  | nil => exact .inr ⟨start, rfl, isDirectory⟩
  | cons step steps ih =>
    have further {next : Location} (entered : tree.enter start step = .ok next)
        (there : tree.node? next = some .directory) :
        tree.walk start (step :: steps) = .error .notFound ∨
          ∃ place, tree.walk start (step :: steps) = .ok place ∧ tree.node? place = some .directory := by
      obtain rfl := enter_eq_ok entered
      rw [walk_cons, entered]
      refine ih there (fun name inside => short name (List.mem_cons_of_mem _ inside)) fun passed before => ?_
      exact clear (step :: passed) ((List.prefix_cons_inj step).2 before)
    cases step with
    | here => exact further (enter_directory isDirectory .here) isDirectory
    | up =>
      refine further (enter_directory isDirectory .up) ?_
      cases start with
      | nil => rfl
      | cons name dir => exact sound.nested _ _ _ isDirectory
    | name name =>
      have entered := enter_name isDirectory (short name List.mem_cons_self)
      cases found : tree.node? (name :: start) with
      | none =>
        rw [found] at entered
        rw [walk_cons, entered]
        exact .inl rfl
      | some node =>
        rw [found] at entered
        refine further entered ?_
        cases node with
        | directory => exact found
        | file id => exact (clear [.name name] (List.prefix_append [_] steps) id found).elim

theorem Passable.walk (passable : tree.Passable workingDir path) (sound : tree.Sound) {steps : List PathStep}
    (before : steps.filter (fun step => decide (step ≠ .here)) <+: moves path) :
    tree.walk (startOf workingDir path) steps = .error .notFound ∨
      ∃ place, tree.walk (startOf workingDir path) steps = .ok place ∧ tree.node? place = some .directory := by
  refine walk_clear sound passable.start (fun name inside => passable.short name (before.subset ?_))
    fun passed begins id => passable.clear _ ⟨_, ?_, foldl_moves passed _⟩ id
  · exact List.mem_filter.2 ⟨inside, by simp⟩
  · exact (begins.filter _).trans before

/-- Where a path ends by going up or staying, it leads to a directory. -/
theorem Passable.leads_of_last (passable : tree.Passable workingDir path) (sound : tree.Sound)
    (walks : tree.walk (startOf workingDir path) (pathSteps path).dropLast = .ok dir)
    (isDirectory : tree.node? dir = some .directory)
    (last : ∀ name, (pathSteps path).getLast? ≠ some (.name name)) : ∃ place, tree.Leads workingDir path place := by
  have begins : (pathSteps path).filter (fun step => decide (step ≠ .here)) <+: moves path :=
    (filter_pathSteps path).symm ▸ List.prefix_refl _
  rcases passable.walk sound begins with missing | ⟨place, whole, there⟩
  · exfalso
    rcases List.eq_nil_or_concat (pathSteps path) with none | ⟨before, step, steps⟩
    · rw [none] at missing
      cases missing
    · rw [List.concat_eq_append] at steps
      rw [steps, List.dropLast_concat] at walks
      rw [steps, walk_append, walks] at missing
      change tree.enter dir step = _ at missing
      cases step with
      | here | up => rw [enter_directory isDirectory] at missing; cases missing
      | name name => exact last name (by rw [steps, List.getLast?_concat])
  · exact ⟨place, whole, there⟩

theorem makeDir_missing (checked : checkPath path = .ok ())
    (missing : tree.walk (startOf workingDir path) (pathSteps path).dropLast = .error .notFound) :
    tree.makeDir workingDir path = .error .notFound := by
  unfold FileTree.makeDir resolveEnd
  rw [checked]
  simp only [missing, bind, Except.bind]

theorem makeDir_nameless (checked : checkPath path = .ok ())
    (walks : tree.walk (startOf workingDir path) (pathSteps path).dropLast = .ok dir)
    (isDirectory : tree.node? dir = some .directory)
    (nameless : ∀ name, (pathSteps path).getLast? ≠ some (.name name)) :
    tree.makeDir workingDir path = .error .alreadyExists := by
  have ends : tree.resolveEnd workingDir path = .ok ⟨dir, none, endsWithSlash path⟩ := by
    unfold resolveEnd
    rw [checked]
    simp only [walks, isDirectory, bind, Except.bind]
    cases last : (pathSteps path).getLast? with
    | none => rfl
    | some step =>
      cases step with
      | here | up => rfl
      | name name => exact (nameless name last).elim
  unfold FileTree.makeDir
  rw [ends]
  rfl

/-- A directory can be made where no file is in the way, unless it is there, or one above it is not. -/
theorem Passable.makeDir (passable : tree.Passable workingDir path) (sound : tree.Sound)
    (checked : checkPath path = .ok ()) :
    (∃ after, tree.makeDir workingDir path = .ok after) ∨
      tree.makeDir workingDir path = .error .alreadyExists ∧ tree.kind? workingDir path = some .directory ∨
      tree.makeDir workingDir path = .error .notFound ∧
        tree.walk (startOf workingDir path) (pathSteps path).dropLast = .error .notFound := by
  have begins : (pathSteps path).dropLast.filter (fun step => decide (step ≠ .here)) <+: moves path :=
    filter_pathSteps path ▸ (List.dropLast_prefix _).filter _
  rcases passable.walk sound begins with missing | ⟨dir, walks, isDirectory⟩
  · exact .inr (.inr ⟨makeDir_missing checked missing, missing⟩)
  by_cases named : ∃ name, (pathSteps path).getLast? = some (.name name)
  · obtain ⟨name, last⟩ := named
    have ends : tree.EndsAt workingDir path dir name := ⟨checked, walks, isDirectory, last⟩
    have whole : name :: dir = locate workingDir path := ends.eq_locate
    have short := passable.short name (by rw [ends.moves]; simp)
    have made := makeDir_of_resolveEnd ends.resolveEnd short
    cases found : tree.node? (name :: dir) with
    | none =>
      rw [found] at made
      exact .inl ⟨_, made⟩
    | some node =>
      rw [found] at made
      have there : tree.node? (name :: dir) = some .directory := by
        cases node with
        | directory => exact found
        | file id => exact (passable.clear _ ⟨_, List.prefix_refl _, whole.symm⟩ id found).elim
      exact .inr (.inl ⟨made, (ends.leads short there).kind? checked⟩)
  · rw [not_exists] at named
    obtain ⟨place, leads⟩ := passable.leads_of_last sound walks isDirectory named
    exact .inr (.inl ⟨makeDir_nameless checked walks isDirectory named, leads.kind? checked⟩)

theorem walk_dropLast_of_isParent {step : PathStep} (isParent : IsParent parent path step) (tidy : Tidy path)
    (leads : tree.Leads workingDir parent place) :
    tree.walk (startOf workingDir path) (pathSteps path).dropLast = .ok place := by
  have moves := isParent.moves
  rw [← filter_pathSteps path] at moves
  rcases List.eq_nil_or_concat (pathSteps path) with none | ⟨before, last, steps⟩
  · rw [none] at moves
    exact absurd moves (by simp)
  rw [List.concat_eq_append] at steps
  have busy : last ≠ .here := by
    rintro rfl
    have idle := tidy (by rw [steps, List.getLast?_concat])
    rw [isParent.moves] at idle
    exact absurd idle (by simp)
  rw [steps, List.filter_append, List.filter_cons_of_pos (by simpa using busy), List.filter_nil] at moves
  rw [steps, List.dropLast_concat, ← walk_moves_iff leads.isDirectory, (List.append_inj' moves rfl).1,
    ← isParent.start]
  exact (leads_iff.1 leads).1

/-- A path that moves nowhere leads to where it starts. -/
theorem walk_dropLast_of_moves_eq_nil (still : moves path = [])
    (isDirectory : tree.node? (startOf workingDir path) = some .directory) :
    tree.walk (startOf workingDir path) (pathSteps path).dropLast = .ok (startOf workingDir path) := by
  have begins := (List.dropLast_prefix (pathSteps path)).filter fun step => decide (step ≠ .here)
  rw [filter_pathSteps, still, List.prefix_nil] at begins
  rw [← walk_moves_iff isDirectory, begins]
  rfl

/-- What opening a file to write it did if it succeeded: the file was there, or is new. -/
theorem openToWrite_eq_ok {id : FileId} (opened : tree.openToWrite workingDir path = .ok (id, after)) :
    ∃ dir name, tree.EndsAt workingDir path dir name ∧ name.utf8ByteSize ≤ nameLimit ∧
      (tree.node? (name :: dir) = some (.file id) ∧ after = tree ∨
        tree.node? (name :: dir) = none ∧ tree.addFile (name :: dir) = (id, after)) := by
  obtain ⟨⟨dir, name?, slash⟩, ends, opened⟩ := Except.bind_eq_ok_iff.1 opened
  split at opened
  next dir name same =>
    cases same
    obtain ⟨node, child, opened⟩ := Except.bind_eq_ok_iff.1 opened
    obtain ⟨short, rfl⟩ := short_of_child child
    refine ⟨dir, name, (resolveEnd_eq_ok ends).1, short, ?_⟩
    split at opened
    next => cases opened
    next file =>
      cases opened
      exact .inl ⟨file, rfl⟩
    next missing => exact .inr ⟨missing, Except.ok.inj opened⟩
  next => cases opened

/-- What moving a file did if it succeeded. -/
theorem rename_eq_ok {source target : Path} (moved : tree.rename workingDir source target = .ok after)
    {id : FileId} (file : tree.node? (locate workingDir source) = some (.file id)) :
    ∃ old oldName new newName, tree.EndsAt workingDir source old oldName ∧
      tree.EndsAt workingDir target new newName ∧
      endsWithSlash target = false ∧ newName.utf8ByteSize ≤ nameLimit ∧
      tree.node? (newName :: new) ≠ some .directory ∧
      after = (tree.dropNode (oldName :: old)).setNode (newName :: new) (.file id) := by
  obtain ⟨⟨old, oldName?, oldSlash⟩, first, moved⟩ := Except.bind_eq_ok_iff.1 moved
  obtain ⟨⟨new, newName?, newSlash⟩, second, moved⟩ := Except.bind_eq_ok_iff.1 moved
  cases oldName? with
  | none => cases moved
  | some oldName =>
    cases newName? with
    | none => cases moved
    | some newName =>
      obtain ⟨oldEnds, rfl⟩ := resolveEnd_eq_ok first
      obtain ⟨newEnds, rfl⟩ := resolveEnd_eq_ok second
      obtain ⟨node, child, moved⟩ := Except.bind_eq_ok_iff.1 moved
      obtain ⟨-, rfl⟩ := short_of_child child
      rw [← oldEnds.eq_locate] at file
      simp only [file] at moved
      obtain ⟨node, replaced, moved⟩ := Except.bind_eq_ok_iff.1 moved
      obtain ⟨short, rfl⟩ := short_of_child replaced
      split at moved
      next => cases moved
      next straight =>
        split at moved
        next => cases moved
        next =>
          split at moved
          next => cases moved
          next free =>
            have plain : endsWithSlash source = false ∧ endsWithSlash target = false := by simpa using straight
            exact ⟨old, oldName, new, newName, oldEnds, newEnds, plain.2, short, free, (Except.ok.inj moved).symm⟩

end FileTree

end Simulation

end DualSlot
