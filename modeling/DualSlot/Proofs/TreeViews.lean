import DualSlot.Proofs.PathAncestry
import DualSlot.Proofs.TreeFiles

/-! A tree of files by what is found at each location, without the numbers of the files, and what is found
after a change of the tree. Walks through it depend on its directories only. -/

namespace DualSlot

namespace Simulation

/-- What is found at a location. -/
inductive Found where
  | directory
  | file (bytes : Bytes)
  deriving DecidableEq

namespace FileTree

variable {tree after : FileTree} {workingDir location other start place : Location} {path : Path} {name : String}

def view (tree : FileTree) (location : Location) : Option Found :=
  (tree.node? location).map fun
    | .directory => .directory
    | .file id => .file (tree.data id)

/-- The contents of the file at a location, if it is one. -/
def file? (tree : FileTree) (location : Location) : Option Bytes :=
  match tree.view location with
  | some (.file bytes) => some bytes
  | _ => none

/-- Everything is in a directory, and no two names are of one file. -/
structure Sound (tree : FileTree) : Prop where
  nested : ∀ name dir node, tree.node? (name :: dir) = some node → tree.node? dir = some .directory
  apart : ∀ location other id, tree.node? location = some (.file id) → tree.node? other = some (.file id) →
    location = other
  older : ∀ location id, tree.node? location = some (.file id) → id < tree.nextId

theorem view_eq_none_iff : tree.view location = none ↔ tree.node? location = none := by
  rw [view, Option.map_eq_none_iff]

theorem view_eq_directory_iff : tree.view location = some .directory ↔ tree.node? location = some .directory := by
  unfold view
  cases tree.node? location with
  | none => simp
  | some node => cases node <;> simp

theorem view_of_file {id : FileId} (file : tree.node? location = some (.file id)) :
    tree.view location = some (.file (tree.data id)) := by
  rw [view, file]
  rfl

theorem exists_id_of_view {bytes : Bytes} (found : tree.view location = some (.file bytes)) :
    ∃ id, tree.node? location = some (.file id) ∧ tree.data id = bytes := by
  unfold view at found
  cases node : tree.node? location with
  | none => rw [node] at found; cases found
  | some kind =>
    rw [node] at found
    cases kind with
    | directory => cases found
    | file id => exact ⟨id, rfl, Found.file.inj (Option.some_inj.1 found)⟩

theorem view_setNode_directory (tree : FileTree) (name : String) (place : Location) :
    (tree.setNode (name :: place) .directory).view =
      Function.update tree.view (name :: place) (some .directory) := by
  funext other
  obtain rfl | different := eq_or_ne other (name :: place)
  · rw [Function.update_self, view_eq_directory_iff, node?_setNode_self (by simp)]
  · rw [Function.update_of_ne different, view, node?_setNode_of_ne different]
    rfl

theorem view_setNode_file (tree : FileTree) (name : String) (place : Location) (id : FileId) :
    (tree.setNode (name :: place) (.file id)).view =
      Function.update tree.view (name :: place) (some (.file (tree.data id))) := by
  funext other
  obtain rfl | different := eq_or_ne other (name :: place)
  · rw [Function.update_self, view_of_file (node?_setNode_self (by simp) _)]
    rfl
  · rw [Function.update_of_ne different, view, node?_setNode_of_ne different]
    rfl

theorem view_dropNode (tree : FileTree) (name : String) (place : Location) :
    (tree.dropNode (name :: place)).view = Function.update tree.view (name :: place) none := by
  funext other
  obtain rfl | different := eq_or_ne other (name :: place)
  · rw [Function.update_self, view_eq_none_iff, node?_dropNode_self (by simp)]
  · rw [Function.update_of_ne different, view, node?_dropNode_of_ne different]
    rfl

theorem view_move (tree : FileTree) (source name : String) (place : Location) (id : FileId) :
    ((tree.dropNode (source :: place)).setNode (name :: place) (.file id)).view =
      Function.update (Function.update tree.view (source :: place) none) (name :: place)
        (some (.file (tree.data id))) := by
  rw [view_setNode_file, view_dropNode]
  rfl

/-- A file that is moved to where no directory is leaves the directories alone. -/
theorem directory_move_iff {source : String} {id : FileId} (file : tree.node? (source :: place) = some (.file id))
    (free : tree.node? (name :: place) ≠ some .directory) :
    ((tree.dropNode (source :: place)).setNode (name :: place) (.file id)).view location = some .directory ↔
      tree.view location = some .directory := by
  rw [view_move]
  obtain rfl | different := eq_or_ne location (name :: place)
  · rw [Function.update_self, view_eq_directory_iff]
    exact iff_of_false (by simp) free
  obtain rfl | differs := eq_or_ne location (source :: place)
  · rw [Function.update_of_ne different, Function.update_self, view_of_file file]
    simp
  · rw [Function.update_of_ne different, Function.update_of_ne differs]

/-- A file gets other contents, and no other file does. -/
theorem Sound.view_setData (sound : tree.Sound) {id : FileId} (file : tree.node? location = some (.file id))
    (bytes : Bytes) : (tree.setData id bytes).view = Function.update tree.view location (some (.file bytes)) := by
  funext other
  obtain rfl | different := eq_or_ne other location
  · have found : (tree.setData id bytes).view other = some (.file _) := view_of_file file
    rw [Function.update_self, found, data_setData]
  · rw [Function.update_of_ne different]
    change (tree.node? other).map _ = (tree.node? other).map _
    cases node : tree.node? other with
    | none => rfl
    | some kind =>
      cases kind with
      | directory => rfl
      | file found =>
        have elsewhere : found ≠ id := by
          rintro rfl
          exact different (sound.apart _ _ _ node file)
        simp only [Option.map_some, data_setData_of_ne elsewhere]

theorem node?_addFile (tree : FileTree) (name : String) (place : Location) :
    (tree.addFile (name :: place)).2.node? (name :: place) = some (.file tree.nextId) := by
  have node : (tree.setNode (name :: place) (.file tree.nextId)).node? (name :: place) =
    some (.file tree.nextId) := node?_setNode_self (by simp) _
  exact node

theorem Sound.view_addFile (sound : tree.Sound) (name : String) (place : Location) :
    (tree.addFile (name :: place)).2.view = Function.update tree.view (name :: place) (some (.file [])) := by
  funext other
  obtain rfl | different := eq_or_ne other (name :: place)
  · have found := view_of_file (tree.node?_addFile name place)
    have data : (tree.addFile (name :: place)).2.data tree.nextId = [] := data_setData ..
    rw [Function.update_self, found, data]
  · have node : (tree.addFile (name :: place)).2.node? other = tree.node? other := node?_setNode_of_ne different _
    rw [Function.update_of_ne different, view, view, node]
    cases found : tree.node? other with
    | none => rfl
    | some kind =>
      cases kind with
      | directory => rfl
      | file id =>
        have data : (tree.setData tree.nextId []).data id = tree.data id :=
          data_setData_of_ne (Nat.ne_of_lt (sound.older _ _ found)) []
        exact congrArg (fun bytes => some (Found.file bytes)) data

theorem Sound.congr (sound : tree.Sound) (nodes : ∀ location, after.node? location = tree.node? location)
    (ids : tree.nextId ≤ after.nextId) : after.Sound := by
  refine ⟨fun name dir node found => ?_, fun location other id first second => ?_, fun location id found => ?_⟩
  · rw [nodes] at found ⊢
    exact sound.nested _ _ _ found
  · rw [nodes] at first second
    exact sound.apart _ _ _ first second
  · rw [nodes] at found
    exact Nat.lt_of_lt_of_le (sound.older _ _ found) ids

/-- Something is put in a directory, a file only if it has no other name. -/
theorem Sound.put {node : Node} (sound : tree.Sound) (inside : tree.node? place = some .directory)
    (free : tree.node? (name :: place) ≠ some .directory)
    (nameless : ∀ id, node = .file id → id < tree.nextId ∧ ∀ other, tree.node? other = some (.file id) →
      other = name :: place) : (tree.setNode (name :: place) node).Sound := by
  have directory {dir : Location} (found : tree.node? dir = some .directory) :
      (tree.setNode (name :: place) node).node? dir = some .directory := by
    rw [node?_setNode_of_ne, found]
    rintro rfl
    exact free found
  have file {location : Location} {id : FileId}
      (found : (tree.setNode (name :: place) node).node? location = some (.file id)) :
      location = name :: place ∧ node = .file id ∨
        location ≠ name :: place ∧ tree.node? location = some (.file id) := by
    obtain rfl | different := eq_or_ne location (name :: place)
    · rw [node?_setNode_self (by simp)] at found
      exact .inl ⟨rfl, Option.some_inj.1 found⟩
    · rw [node?_setNode_of_ne different] at found
      exact .inr ⟨different, found⟩
  refine ⟨fun last dir below found => ?_, fun location other id first second => ?_, fun location id found => ?_⟩
  · by_cases same : last :: dir = name :: place
    · obtain ⟨rfl, rfl⟩ := List.cons.inj same
      exact directory inside
    · rw [node?_setNode_of_ne same] at found
      exact directory (sound.nested _ _ _ found)
  · rcases file first with ⟨rfl, new⟩ | ⟨different, old⟩
    · rcases file second with ⟨rfl, -⟩ | ⟨different, old⟩
      · rfl
      · exact (different ((nameless id new).2 _ old)).elim
    · rcases file second with ⟨rfl, new⟩ | ⟨-, older⟩
      · exact (different ((nameless id new).2 _ old)).elim
      · exact sound.apart _ _ _ old older
  · rcases file found with ⟨-, new⟩ | ⟨-, old⟩
    · exact (nameless id new).1
    · exact sound.older _ _ old

theorem Sound.addFile (sound : tree.Sound) (inside : tree.node? place = some .directory)
    (free : tree.node? (name :: place) ≠ some .directory) : (tree.addFile (name :: place)).2.Sound := by
  have grown : ({ tree with nextId := tree.nextId + 1 } : FileTree).Sound :=
    sound.congr (fun _ => rfl) (Nat.le_succ _)
  have added : (({ tree with nextId := tree.nextId + 1 } : FileTree).setNode (name :: place)
      (.file tree.nextId)).Sound := by
    refine grown.put inside free fun id same => ?_
    obtain rfl := Node.file.inj same
    exact ⟨Nat.lt_succ_self _, fun other found => (Nat.lt_irrefl _ (sound.older _ _ found)).elim⟩
  exact added.congr (fun _ => rfl) (Nat.le_refl _)

/-- A file takes the place of another one in its directory. -/
theorem Sound.move {source : String} {id : FileId} (sound : tree.Sound)
    (file : tree.node? (source :: place) = some (.file id)) (free : tree.node? (name :: place) ≠ some .directory) :
    ((tree.dropNode (source :: place)).setNode (name :: place) (.file id)).Sound := by
  have kept {location : Location} {node : Node}
      (found : (tree.dropNode (source :: place)).node? location = some node) :
      location ≠ source :: place ∧ tree.node? location = some node := by
    obtain rfl | different := eq_or_ne location (source :: place)
    · rw [node?_dropNode_self (by simp)] at found
      cases found
    · rw [node?_dropNode_of_ne different] at found
      exact ⟨different, found⟩
  have directory {dir : Location} (found : tree.node? dir = some .directory) :
      (tree.dropNode (source :: place)).node? dir = some .directory := by
    rw [node?_dropNode_of_ne, found]
    rintro rfl
    rw [file] at found
    cases found
  have dropped : (tree.dropNode (source :: place)).Sound :=
    ⟨fun _ _ _ found => directory (sound.nested _ _ _ (kept found).2),
      fun _ _ _ first second => sound.apart _ _ _ (kept first).2 (kept second).2,
      fun _ _ found => sound.older _ _ (kept found).2⟩
  refine dropped.put (directory (sound.nested _ _ _ file)) (fun found => free (kept found).2) fun other same => ?_
  obtain rfl := Node.file.inj same
  exact ⟨sound.older _ _ file, fun other found => ((kept found).1 (sound.apart _ _ _ (kept found).2 file)).elim⟩

end FileTree

end Simulation

end DualSlot
