import DualSlot.Durable
import DualSlot.Proofs.PathNames
import DualSlot.Simulation.FileTree

/-! Where paths lead in a tree of files, when a name is joined to the path of a directory. -/

namespace DualSlot

/-- A text that is one name of a path and means just that. -/
structure IsName (name : String) : Prop where
  whole : '/' ∉ name.toList
  busy : Path.isIdle name.toList = false
  notUp : name.toList ≠ ['.', '.']

namespace Path

variable {base : Path} {name other : String}

theorem filter_pieces_join (given : IsName name) :
    (base.join name).pieces.filter (fun piece => !piece.isEmpty) =
      base.pieces.filter (fun piece => !piece.isEmpty) ++ [name.toList] := by
  have nonempty : name.toList.isEmpty = false := by
    cases text : name.toList with
    | nil => exact absurd given.busy (by rw [text]; decide)
    | cons _ _ => rfl
  obtain ⟨before, pieces, same⟩ := pieces_join base given.whole
  rw [pieces, List.filter_append, same]
  simp [nonempty]

theorem isAbsolute_join (given : IsName name) : (base.join name).isAbsolute = base.isAbsolute := by
  have relative : name.toList.head? ≠ some '/' := fun first => given.whole (List.mem_of_mem_head? first)
  unfold join
  rw [if_neg relative]
  cases text : base.text.toList with
  | nil => simp [isAbsolute, text, relative]
  | cons c rest =>
    split <;> simp [isAbsolute, text]

theorem ofPieces_pieces (path : Path) (named : path.pieces ≠ [[]]) : ofPieces path.pieces = path := by
  rw [ofPieces, if_neg named, pieces, List.intercalate_splitOn]
  exact congrArg Path.mk String.ofList_toList

theorem exists_text_join (given : IsName name) (base : Path) :
    ∃ before, (base.join name).text.toList = before ++ name.toList := by
  have relative : name.toList.head? ≠ some '/' := fun first => given.whole (List.mem_of_mem_head? first)
  unfold join
  rw [if_neg relative]
  split
  · exact ⟨base.text.toList, by simp⟩
  · exact ⟨base.text.toList, by simp⟩
  · exact ⟨base.text.toList ++ ['/'], by simp⟩

theorem exists_getLast?_join (given : IsName name) (base : Path) :
    ∃ c, (base.join name).text.toList.getLast? = some c ∧ c ≠ '/' := by
  obtain ⟨before, text⟩ := exists_text_join given base
  cases last : name.toList.getLast? with
  | none =>
    have busy := given.busy
    rw [List.getLast?_eq_none_iff.1 last] at busy
    exact absurd busy (by decide)
  | some c =>
    refine ⟨c, by rw [text, List.getLast?_append, last]; rfl, ?_⟩
    rintro rfl
    exact given.whole (List.mem_of_mem_getLast? last)

/-- What is joined to a name stands after a slash. -/
theorem join_join (given : IsName other) (second : IsName name) :
    (base.join other).join name = ⟨(base.join other).text ++ "/" ++ name⟩ := by
  have relative : name.toList.head? ≠ some '/' := fun first => second.whole (List.mem_of_mem_head? first)
  obtain ⟨c, last, solid⟩ := exists_getLast?_join given base
  rw [join, if_neg relative, last]
  split
  next none => cases none
  next slash => exact (solid (Option.some_inj.1 slash)).elim
  next => rfl

theorem pieces_join_join (given : IsName other) (second : IsName name) :
    ((base.join other).join name).pieces = (base.join other).pieces ++ [name.toList] := by
  have text : ((base.join other).text ++ "/" ++ name).toList = (base.join other).text.toList ++ '/' :: name.toList := by
    simp
  rw [join_join given second, pieces, text, List.splitOn_append_cons_self, List.splitOn_eq_singleton second.whole]
  rfl

theorem directory_join_join (given : IsName other) (second : IsName name) :
    ((base.join other).join name).directory = base.join other := by
  obtain ⟨before, pieces, -⟩ := pieces_join base given.whole
  obtain ⟨head, body, split, together⟩ := splitHead_append given.busy before [name.toList]
  have parts : ((base.join other).join name).pieces = before ++ [other.toList, name.toList] := by
    rw [pieces_join_join given second, pieces]
    simp
  have last : ((base.join other).join name).splitLast = (head, body ++ [other.toList], some name.toList) := by
    have whole : body ++ [other.toList, name.toList] = (body ++ [other.toList]) ++ [name.toList] := by simp
    rw [splitLast, parts, split]
    simp only [whole, dropIdleEnd_append second.busy, List.dropLast_concat, dropIdleEnd_append given.busy,
      List.getLast?_concat]
  have parent : ((base.join other).join name).parent? = some (base.join other) := by
    rw [parent?, last]
    simp only [← List.append_assoc, together, ← pieces]
    rw [ofPieces_pieces]
    intro root
    have piece := congrArg List.getLast? (pieces.symm.trans root)
    simp only [List.getLast?_append, List.getLast?_singleton, Option.some_or, Option.some_inj] at piece
    exact absurd given.busy (by rw [piece]; decide)
  have nonempty : (base.join other).text.isEmpty = false := by
    obtain ⟨c, last, -⟩ := exists_getLast?_join given base
    by_contra empty
    rw [Bool.not_eq_false, String.isEmpty_iff] at empty
    rw [empty] at last
    cases last
  rw [directory, parent]
  simp [nonempty]

theorem draft_join (given : IsName other) (second : IsName name) :
    Durable.draft ((base.join other).join name) = (base.join other).join (name ++ ".new") := by
  rw [Durable.draft, directory_join_join given second, fileName?_join second.whole second.busy second.notUp]
  rfl

end Path

namespace Simulation

open DualSlot.Path

variable {base : Path} {name : String}

theorem pathSteps_join (given : IsName name) (base : Path) :
    pathSteps (base.join name) = pathSteps base ++ [.name name] := by
  have step : PathStep.ofText name.toList = .name name := by
    unfold PathStep.ofText
    split
    · next dot => exact absurd given.busy (by rw [dot]; decide)
    · next up => exact (given.notUp up).elim
    · exact congrArg PathStep.name String.ofList_toList
  rw [pathSteps, filter_pieces_join given, List.map_append, List.map_singleton, step]
  rfl

theorem endsWithSlash_join (given : IsName name) (base : Path) : endsWithSlash (base.join name) = false := by
  obtain ⟨c, last, solid⟩ := exists_getLast?_join given base
  simp [endsWithSlash, last, solid]

theorem checkPath_eq_ok_iff {path : Path} :
    checkPath path = .ok () ↔ '\x00' ∉ path.text.toList ∧ path.text ≠ "" ∧ path.text.utf8ByteSize < pathLimit := by
  unfold checkPath
  split
  next inside => simp [inside]
  next clean =>
    split
    next empty => simp [String.isEmpty_iff.1 empty]
    next named =>
      rw [String.isEmpty_iff] at named
      split <;> simp_all

/-- The path of a name in a directory can be looked up. -/
structure Fits (dir : Path) (name : String) : Prop where
  isName : IsName name
  short : name.utf8ByteSize ≤ nameLimit
  sound : checkPath (dir.join name) = .ok ()

namespace FileTree

variable {tree after : FileTree} {workingDir place start : Location}

/-- The path leads to a directory. -/
structure Leads (tree : FileTree) (workingDir : Location) (path : Path) (place : Location) : Prop where
  walks : tree.walk (startOf workingDir path) (pathSteps path) = .ok place
  isDirectory : tree.node? place = some .directory

theorem startOf_join (given : IsName name) (workingDir : Location) (base : Path) :
    startOf workingDir (base.join name) = startOf workingDir base := by
  rw [startOf, startOf, isAbsolute_join given]

theorem walk_cons (start : Location) (step : PathStep) (steps : List PathStep) :
    tree.walk start (step :: steps) = tree.enter start step >>= fun next => tree.walk next steps := by
  rw [walk, List.foldlM_cons]
  rfl

theorem walk_append (start : Location) (steps : List PathStep) (step : PathStep) :
    tree.walk start (steps ++ [step]) = tree.walk start steps >>= fun place => tree.enter place step := by
  rw [walk, List.foldlM_append]
  exact congrArg (tree.walk start steps >>= ·) (funext fun place => by rw [List.foldlM_cons]; simp)

theorem isDirectory_of_enter {step : PathStep} {next : Location} (entered : tree.enter place step = .ok next) :
    tree.node? place = some .directory := by
  by_contra other
  unfold enter at entered
  rw [if_pos other] at entered
  cases entered

theorem enter_directory (isDirectory : tree.node? place = some .directory) (step : PathStep) :
    tree.enter place step = match step with
      | .here => .ok place
      | .up => .ok place.tail
      | .name name => tree.child place name >>= fun
        | some _ => .ok (name :: place)
        | none => .error .notFound := by
  unfold enter
  rw [if_neg (not_not.2 isDirectory)]
  cases step <;> rfl

theorem child_short (short : name.utf8ByteSize ≤ nameLimit) (place : Location) :
    tree.child place name = .ok (tree.node? (name :: place)) :=
  if_neg (Nat.not_lt.2 short)

theorem enter_name (isDirectory : tree.node? place = some .directory) (short : name.utf8ByteSize ≤ nameLimit) :
    tree.enter place (.name name) = match tree.node? (name :: place) with
      | some _ => .ok (name :: place)
      | none => .error .notFound := by
  simp only [enter_directory isDirectory, child_short short]
  cases found : tree.node? (name :: place) <;> rfl

theorem short_of_enter {next : Location} (entered : tree.enter place (.name name) = .ok next) :
    name.utf8ByteSize ≤ nameLimit := by
  by_contra long
  rw [enter_directory (isDirectory_of_enter entered)] at entered
  simp only [child, if_pos (Nat.not_le.1 long)] at entered
  cases entered

theorem enter_name_eq_ok {next : Location} (entered : tree.enter place (.name name) = .ok next) :
    next = name :: place := by
  rw [enter_name (isDirectory_of_enter entered) (short_of_enter entered)] at entered
  split at entered
  · exact (Except.ok.inj entered).symm
  · cases entered

theorem isDirectory_of_walk {steps : List PathStep} (walks : tree.walk start steps = .ok place)
    (isDirectory : tree.node? place = some .directory) : tree.node? start = some .directory := by
  cases steps with
  | nil =>
    obtain rfl : start = place := Except.ok.inj walks
    exact isDirectory
  | cons step steps =>
    rw [walk_cons] at walks
    cases entered : tree.enter start step with
    | error cause => rw [entered] at walks; cases walks
    | ok next => exact isDirectory_of_enter entered

/-- Where a walk ends at a directory it has passed through directories only, so it ends there as long
as those are left. -/
theorem walk_of_directories
    (kept : ∀ location, tree.node? location = some .directory → after.node? location = some .directory)
    {steps : List PathStep} (walks : tree.walk start steps = .ok place)
    (isDirectory : tree.node? place = some .directory) : after.walk start steps = .ok place := by
  induction steps generalizing start with
  | nil => exact walks
  | cons step steps ih =>
    rw [walk_cons] at walks ⊢
    cases entered : tree.enter start step with
    | error cause => rw [entered] at walks; cases walks
    | ok next =>
      rw [entered] at walks
      have same : after.enter start step = .ok next := by
        have left := kept _ (isDirectory_of_enter entered)
        cases step with
        | here | up =>
          rw [enter_directory (isDirectory_of_enter entered)] at entered
          rw [enter_directory left]
          exact entered
        | name name =>
          obtain rfl := enter_name_eq_ok entered
          rw [enter_name left (short_of_enter entered), kept _ (isDirectory_of_walk walks isDirectory)]
      rw [same]
      exact ih walks

theorem Leads.mono {path : Path} (leads : tree.Leads workingDir path place)
    (kept : ∀ location, tree.node? location = some .directory → after.node? location = some .directory) :
    after.Leads workingDir path place :=
  ⟨walk_of_directories kept leads.walks leads.isDirectory, kept _ leads.isDirectory⟩

theorem Leads.walk_join {path : Path} (leads : tree.Leads workingDir path place) (fits : Fits path name) :
    tree.walk (startOf workingDir (path.join name)) (pathSteps (path.join name)) =
      match tree.node? (name :: place) with
      | some _ => .ok (name :: place)
      | none => .error .notFound := by
  rw [startOf_join fits.isName, pathSteps_join fits.isName, walk_append, leads.walks]
  exact enter_name leads.isDirectory fits.short

theorem Leads.join {path : Path} (leads : tree.Leads workingDir path place) (fits : Fits path name)
    (isDirectory : tree.node? (name :: place) = some .directory) :
    tree.Leads workingDir (path.join name) (name :: place) :=
  ⟨by rw [leads.walk_join fits, isDirectory], isDirectory⟩

theorem Leads.resolve_join {path : Path} (leads : tree.Leads workingDir path place) (fits : Fits path name) :
    tree.resolve workingDir (path.join name) =
      match tree.node? (name :: place) with
      | some _ => .ok (name :: place)
      | none => .error .notFound := by
  rw [FileTree.resolve, fits.sound, leads.walk_join fits, endsWithSlash_join fits.isName]
  cases tree.node? (name :: place) <;> rfl

theorem Leads.resolveEnd_join {path : Path} (leads : tree.Leads workingDir path place) (fits : Fits path name) :
    tree.resolveEnd workingDir (path.join name) = .ok ⟨place, some name, false⟩ := by
  have last : (pathSteps path ++ [PathStep.name name]).getLast? = some (.name name) := List.getLast?_concat
  rw [resolveEnd, fits.sound, startOf_join fits.isName, pathSteps_join fits.isName, endsWithSlash_join fits.isName]
  simp only [List.dropLast_concat, leads.walks, last]
  change (if tree.node? place ≠ some .directory then _ else _) = _
  rw [if_neg (not_not.2 leads.isDirectory)]
  rfl

variable {path : Path}

theorem makeDir_of_resolveEnd {slash : Bool} (ends : tree.resolveEnd workingDir path = .ok ⟨place, some name, slash⟩)
    (short : name.utf8ByteSize ≤ nameLimit) :
    tree.makeDir workingDir path = match tree.node? (name :: place) with
      | some _ => .error .alreadyExists
      | none => .ok (tree.setNode (name :: place) .directory) := by
  unfold FileTree.makeDir
  rw [ends]
  change (tree.child place name >>= _) = _
  rw [child_short short]
  cases found : tree.node? (name :: place) <;> simp [bind, Except.bind] <;> rfl

theorem Leads.makeDir_join (leads : tree.Leads workingDir path place) (fits : Fits path name) :
    tree.makeDir workingDir (path.join name) = match tree.node? (name :: place) with
      | some _ => .error .alreadyExists
      | none => .ok (tree.setNode (name :: place) .directory) :=
  makeDir_of_resolveEnd (leads.resolveEnd_join fits) fits.short

theorem Leads.remove_join (leads : tree.Leads workingDir path place) (fits : Fits path name) :
    tree.remove workingDir (path.join name) = match tree.node? (name :: place) with
      | none => .error .notFound
      | some .directory => .error .isDirectory
      | some (.file _) => .ok (tree.dropNode (name :: place)) := by
  unfold FileTree.remove
  rw [leads.resolveEnd_join fits]
  change (tree.child place name >>= _) = _
  rw [child_short fits.short]
  cases found : tree.node? (name :: place) with
  | none => rfl
  | some node => cases node <;> rfl

theorem Leads.openToWrite_join (leads : tree.Leads workingDir path place) (fits : Fits path name) :
    tree.openToWrite workingDir (path.join name) = match tree.node? (name :: place) with
      | some .directory => .error .isDirectory
      | some (.file number) => .ok (number, tree)
      | none => .ok (tree.addFile (name :: place)) := by
  unfold FileTree.openToWrite
  rw [leads.resolveEnd_join fits]
  change (tree.child place name >>= _) = _
  rw [child_short fits.short]
  cases found : tree.node? (name :: place) with
  | none => rfl
  | some node => cases node <;> rfl

/-- A file takes the place of another one in its directory, if that is not a directory. -/
theorem rename_of_resolveEnd {source target : Path} {old new : String} {number : FileId}
    (first : tree.resolveEnd workingDir source = .ok ⟨place, some old, false⟩)
    (second : tree.resolveEnd workingDir target = .ok ⟨place, some new, false⟩)
    (oldShort : old.utf8ByteSize ≤ nameLimit) (newShort : new.utf8ByteSize ≤ nameLimit)
    (file : tree.node? (old :: place) = some (.file number)) (free : tree.node? (new :: place) ≠ some .directory) :
    tree.rename workingDir source target =
      .ok ((tree.dropNode (old :: place)).setNode (new :: place) (.file number)) := by
  have apart : (new :: place).isSuffixOf place = false := by
    rw [Bool.eq_false_iff]
    intro within
    exact Nat.not_succ_le_self _ (List.isSuffixOf_iff_suffix.1 within).length_le
  unfold FileTree.rename
  rw [first, second]
  simp only [bind, Except.bind, child_short oldShort, child_short newShort, file, apart, free]
  rfl

theorem Leads.rename_join {target : String} {number : FileId} (leads : tree.Leads workingDir path place)
    (fits : Fits path name) (targetFits : Fits path target)
    (file : tree.node? (name :: place) = some (.file number))
    (free : tree.node? (target :: place) ≠ some .directory) :
    tree.rename workingDir (path.join name) (path.join target) =
      .ok ((tree.dropNode (name :: place)).setNode (target :: place) (.file number)) :=
  rename_of_resolveEnd (leads.resolveEnd_join fits) (leads.resolveEnd_join targetFits) fits.short targetFits.short
    file free

/-- There is nothing below what is not there. -/
theorem resolve_missing
    (missing : tree.walk (startOf workingDir path) (pathSteps path) = .error .notFound) (fits : Fits path name) :
    tree.resolve workingDir (path.join name) = .error .notFound := by
  rw [FileTree.resolve, fits.sound, startOf_join fits.isName, pathSteps_join fits.isName, walk_append, missing]
  rfl

theorem resolveEnd_missing
    (missing : tree.walk (startOf workingDir path) (pathSteps path) = .error .notFound) (fits : Fits path name) :
    tree.resolveEnd workingDir (path.join name) = .error .notFound := by
  rw [resolveEnd, fits.sound, startOf_join fits.isName, pathSteps_join fits.isName]
  simp only [List.dropLast_concat, missing]
  rfl

end FileTree

end Simulation

end DualSlot
