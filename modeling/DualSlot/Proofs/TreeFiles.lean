import DualSlot.Proofs.PartitionWrites
import DualSlot.Proofs.TreePaths
import Mathlib.Logic.Function.Basic

/-! The files of one directory in a tree, which may have yet to be made, and what is left of them when one
is made, written, moved, or dropped. -/

namespace DualSlot

namespace Simulation

theorem lookup_assign_of_ne [DecidableEq κ] [BEq κ] [LawfulBEq κ] {key other : κ} (different : other ≠ key) (value : α)
    (pairs : List (κ × α)) : (assign key value pairs).lookup other = pairs.lookup other := by
  induction pairs with
  | nil => simp [assign, List.lookup_cons, beq_false_of_ne different]
  | cons pair rest ih =>
    obtain ⟨first, old⟩ := pair
    by_cases same : first = key
    · subst same
      simp [assign, List.lookup_cons, beq_false_of_ne different]
    · simp [assign, same, List.lookup_cons, ih]

theorem lookup_unassign_self [DecidableEq κ] [BEq κ] [LawfulBEq κ] (key : κ) (pairs : List (κ × α)) :
    (unassign key pairs).lookup key = none := by
  rw [List.lookup_eq_none_iff]
  intro pair inside
  have other : pair.1 ≠ key := by simpa using (List.mem_filter.1 inside).2
  simpa using Ne.symm other

theorem lookup_unassign_of_ne [DecidableEq κ] [BEq κ] [LawfulBEq κ] {key other : κ} (different : other ≠ key)
    (pairs : List (κ × α)) : (unassign key pairs).lookup other = pairs.lookup other := by
  induction pairs with
  | nil => rfl
  | cons pair rest ih =>
    obtain ⟨first, old⟩ := pair
    by_cases same : first = key
    · subst same
      have skipped : unassign first ((first, old) :: rest) = unassign first rest := by simp [unassign]
      rw [skipped, ih, List.lookup_cons, beq_false_of_ne different]
    · have kept : unassign key ((first, old) :: rest) = (first, old) :: unassign key rest := by
        simp [unassign, same]
      rw [kept, List.lookup_cons, List.lookup_cons, ih]

namespace FileTree

variable {tree : FileTree} {location other : Location}

theorem node?_setNode_self (named : location ≠ []) (node : Node) :
    (tree.setNode location node).node? location = some node := by
  cases location with
  | nil => exact (named rfl).elim
  | cons name dir => exact lookup_assign_self ..

theorem node?_setNode_of_ne (different : other ≠ location) (node : Node) :
    (tree.setNode location node).node? other = tree.node? other := by
  cases other with
  | nil => rfl
  | cons name dir => exact lookup_assign_of_ne different ..

theorem node?_dropNode_self (named : location ≠ []) : (tree.dropNode location).node? location = none := by
  cases location with
  | nil => exact (named rfl).elim
  | cons name dir => exact lookup_unassign_self ..

theorem node?_dropNode_of_ne (different : other ≠ location) :
    (tree.dropNode location).node? other = tree.node? other := by
  cases other with
  | nil => rfl
  | cons name dir => exact lookup_unassign_of_ne different ..

theorem data_setData_of_ne {id file : FileId} (different : file ≠ id) (bytes : Bytes) :
    (tree.setData id bytes).data file = tree.data file := by
  rw [data, data, setData, lookup_assign_of_ne different]

end FileTree

/-- The files of a directory by their names, each with its number and its contents. -/
abbrev NamedFiles := String → Option (FileId × Bytes)

/-- What there is in a directory that lies in another one. All of it is files, and no two names are of the
same file. -/
structure Drawer (outer : Path) (base : Location) (label : String) (workingDir : Location) (files : NamedFiles)
    (tree : FileTree) : Prop where
  leads : tree.Leads workingDir outer base
  made : tree.node? (label :: base) = some .directory ∨
    tree.node? (label :: base) = none ∧ ∀ name, files name = none
  nodes : ∀ name, tree.node? (name :: label :: base) = ((files name).map Prod.fst).map .file
  holds : ∀ name number bytes, files name = some (number, bytes) →
    tree.data number = bytes ∧ number < tree.nextId
  apart : ∀ name other number, (files name).map Prod.fst = some number →
    (files other).map Prod.fst = some number → name = other

namespace Drawer

variable {outer : Path} {base workingDir : Location} {label name : String} {files : NamedFiles} {tree : FileTree}
  {number : FileId} {bytes old : Bytes}

theorem cons_ne (name : String) (place : Location) : name :: place ≠ place := fun same =>
  Nat.succ_ne_self _ (congrArg List.length same)

/-- The directory is made. -/
theorem make (drawer : Drawer outer base label workingDir files tree) (missing : tree.node? (label :: base) = none) :
    Drawer outer base label workingDir files (tree.setNode (label :: base) .directory) := by
  refine ⟨drawer.leads.mono fun location isDirectory => ?_, .inl (FileTree.node?_setNode_self (by simp) _), ?_,
    drawer.holds, drawer.apart⟩
  · rw [FileTree.node?_setNode_of_ne, isDirectory]
    rintro rfl
    rw [missing] at isDirectory
    cases isDirectory
  · intro name
    rw [FileTree.node?_setNode_of_ne (cons_ne name _), drawer.nodes]

/-- A directory with a file in it is there. -/
theorem there (drawer : Drawer outer base label workingDir files tree) (file : files name = some (number, bytes)) :
    tree.node? (label :: base) = some .directory := by
  rcases drawer.made with there | ⟨-, none⟩
  · exact there
  · rw [none] at file
    cases file

/-- A file gets other contents. -/
theorem setData (drawer : Drawer outer base label workingDir files tree) (file : files name = some (number, old))
    (bytes : Bytes) : Drawer outer base label workingDir (Function.update files name (some (number, bytes)))
      (tree.setData number bytes) := by
  have same (other : String) : (Function.update files name (some (number, bytes)) other).map Prod.fst =
      (files other).map Prod.fst := by
    obtain rfl | different := eq_or_ne other name
    · rw [Function.update_self, file]
      rfl
    · rw [Function.update_of_ne different]
  refine ⟨⟨drawer.leads.walks, drawer.leads.isDirectory⟩, .inl (drawer.there file), fun other => ?_, ?_, ?_⟩
  · rw [same]
    exact drawer.nodes other
  · intro other found contents known
    obtain rfl | different := eq_or_ne other name
    · rw [Function.update_self] at known
      cases known
      exact ⟨data_setData .., (drawer.holds _ _ _ file).2⟩
    · rw [Function.update_of_ne different] at known
      have elsewhere : found ≠ number := by
        rintro rfl
        exact different (drawer.apart _ _ found (by rw [known]; rfl) (by rw [file]; rfl))
      rw [FileTree.data_setData_of_ne elsewhere]
      exact drawer.holds _ _ _ known
  · intro first second found known other
    rw [same] at known other
    exact drawer.apart _ _ _ known other

theorem not_directory (drawer : Drawer outer base label workingDir files tree) (name : String) :
    tree.node? (name :: label :: base) ≠ some .directory := by
  rw [drawer.nodes]
  cases files name <;> simp

/-- A name comes to stand for another file, which has no other name there, or for none. -/
theorem rename {later : FileTree} {file? : Option (FileId × Bytes)}
    (drawer : Drawer outer base label workingDir files tree)
    (there : tree.node? (label :: base) = some .directory)
    (here : later.node? (name :: label :: base) = (file?.map Prod.fst).map .file)
    (elsewhere : ∀ location ≠ name :: label :: base, later.node? location = tree.node? location)
    (data : later.data = tree.data) (nextId : later.nextId = tree.nextId)
    (holds : ∀ number bytes, file? = some (number, bytes) → tree.data number = bytes ∧ number < tree.nextId)
    (nameless : ∀ number other, file?.map Prod.fst = some number → (files other).map Prod.fst ≠ some number) :
    Drawer outer base label workingDir (Function.update files name file?) later := by
  refine ⟨drawer.leads.mono fun location isDirectory => ?_, .inl ?_, fun other => ?_, ?_, ?_⟩
  · rw [elsewhere, isDirectory]
    rintro rfl
    exact drawer.not_directory name isDirectory
  · rw [elsewhere _ (cons_ne name _).symm, there]
  · obtain rfl | different := eq_or_ne other name
    · rw [Function.update_self, here]
    · rw [Function.update_of_ne different, elsewhere _ (by simp [different]), drawer.nodes]
  · intro other found contents known
    rw [data, nextId]
    obtain rfl | different := eq_or_ne other name
    · rw [Function.update_self] at known
      exact holds _ _ known
    · rw [Function.update_of_ne different] at known
      exact drawer.holds _ _ _ known
  · intro first second found known other
    obtain rfl | differs := eq_or_ne first name
    · obtain rfl | different := eq_or_ne second first
      · rfl
      · rw [Function.update_self] at known
        rw [Function.update_of_ne different] at other
        exact (nameless _ _ known other).elim
    · rw [Function.update_of_ne differs] at known
      obtain rfl | different := eq_or_ne second name
      · rw [Function.update_self] at other
        exact (nameless _ _ other known).elim
      · rw [Function.update_of_ne different] at other
        exact drawer.apart _ _ _ known other

/-- A file that has no name there gets one. -/
theorem put (drawer : Drawer outer base label workingDir files tree)
    (there : tree.node? (label :: base) = some .directory)
    (nameless : ∀ other, (files other).map Prod.fst ≠ some number) (holds : tree.data number = bytes)
    (older : number < tree.nextId) :
    Drawer outer base label workingDir (Function.update files name (some (number, bytes)))
      (tree.setNode (name :: label :: base) (.file number)) := by
  refine drawer.rename there (FileTree.node?_setNode_self (by simp) _)
    (fun _ different => FileTree.node?_setNode_of_ne different _) rfl rfl ?_ ?_
  · rintro _ _ ⟨⟩
    exact ⟨holds, older⟩
  · rintro _ other ⟨⟩
    exact nameless other

/-- A name is dropped. -/
theorem drop (drawer : Drawer outer base label workingDir files tree)
    (there : tree.node? (label :: base) = some .directory) (name : String) :
    Drawer outer base label workingDir (Function.update files name none) (tree.dropNode (name :: label :: base)) :=
  drawer.rename there (FileTree.node?_dropNode_self (by simp))
    (fun _ different => FileTree.node?_dropNode_of_ne different) rfl rfl nofun nofun

/-- A new empty file. -/
theorem add (drawer : Drawer outer base label workingDir files tree)
    (there : tree.node? (label :: base) = some .directory) (name : String) :
    Drawer outer base label workingDir (Function.update files name (some (tree.nextId, [])))
      (tree.addFile (name :: label :: base)).2 := by
  have fresh : Drawer outer base label workingDir files
      { tree.setData tree.nextId [] with nextId := tree.nextId + 1 } := by
    refine ⟨⟨drawer.leads.walks, drawer.leads.isDirectory⟩, drawer.made, drawer.nodes, ?_, drawer.apart⟩
    intro other found contents known
    have older := (drawer.holds _ _ _ known).2
    refine ⟨?_, Nat.lt_succ_of_lt older⟩
    exact (FileTree.data_setData_of_ne (Nat.ne_of_lt older) []).trans (drawer.holds _ _ _ known).1
  refine fresh.put there (fun other known => ?_) (data_setData ..) (Nat.lt_succ_self _)
  obtain ⟨⟨found, contents⟩, known, rfl⟩ := Option.map_eq_some_iff.1 known
  exact Nat.lt_irrefl _ (drawer.holds _ _ _ known).2

/-- A file is moved to another name, and is found only there. -/
theorem move {source target : String} (drawer : Drawer outer base label workingDir files tree)
    (file : files source = some (number, bytes)) :
    Drawer outer base label workingDir
      (Function.update (Function.update files source none) target (some (number, bytes)))
      ((tree.dropNode (source :: label :: base)).setNode (target :: label :: base) (.file number)) := by
  refine (drawer.drop (drawer.there file) source).put ?_ ?_ (drawer.holds _ _ _ file).1 (drawer.holds _ _ _ file).2
  · rw [FileTree.node?_dropNode_of_ne (cons_ne source _).symm, drawer.there file]
  · intro other known
    obtain rfl | different := eq_or_ne other source
    · rw [Function.update_self] at known
      cases known
    · rw [Function.update_of_ne different] at known
      exact different (drawer.apart _ _ _ known (by rw [file]; rfl))

end Drawer

end Simulation

end DualSlot
