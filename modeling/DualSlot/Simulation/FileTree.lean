import DualSlot.Call

/-!
A tree of directories and files, and how paths lead through it. A file is known by a number, so that
it can lose its place in the tree and still be open.
-/

namespace DualSlot.Simulation

/-- Sets the value of a key in a list of pairs; a new key comes last. -/
def assign [DecidableEq κ] (key : κ) (value : α) : List (κ × α) → List (κ × α)
  | [] => [(key, value)]
  | (other, old) :: rest =>
    if other = key then (key, value) :: rest else (other, old) :: assign key value rest

def unassign [DecidableEq κ] (key : κ) (pairs : List (κ × α)) : List (κ × α) :=
  pairs.filter fun (other, _) => other ≠ key

/-- Where something is in the tree: the names that lead to it, the last one first. -/
abbrev Location := List String

abbrev FileId := Nat

inductive Node where
  | directory
  | file (id : FileId)
  deriving DecidableEq, Repr

structure FileTree where
  /-- What there is below the root, the oldest first. -/
  nodes : List (Location × Node)
  contents : List (FileId × Bytes)
  nextId : FileId
  deriving DecidableEq, Repr

/-- What a part of a path does. -/
inductive PathStep where
  | here
  | up
  | name (name : String)
  deriving DecidableEq, Repr

def PathStep.ofText (text : List Char) : PathStep :=
  match text with
  | ['.'] => here
  | ['.', '.'] => up
  | text => name (.ofList text)

/-- The steps that a path consists of. -/
def pathSteps (path : Path) : List PathStep :=
  (path.pieces.filter fun piece => !piece.isEmpty).map PathStep.ofText

def endsWithSlash (path : Path) : Bool := path.text.toList.getLast? = some '/'

/-- No path may be this long. -/
def pathLimit : Nat := 4096

def nameLimit : Nat := 255

/-- Whether a path can be looked up at all. -/
def checkPath (path : Path) : Except IoError Unit :=
  if '\x00' ∈ path.text.toList then .error .nulInName
  else if path.text.isEmpty then .error .notFound
  else if pathLimit ≤ path.text.utf8ByteSize then .error .nameTooLong
  else .ok ()

/-- The end of a path: the directory that its last name is looked up in, and that name. -/
structure PathEnd where
  dir : Location
  /-- None if the path ends by going up, staying, or at the root. -/
  name : Option String
  /-- Whether the path asks for a directory by its final slash. -/
  slash : Bool

namespace FileTree

def node? (tree : FileTree) : Location → Option Node
  | [] => some .directory
  | location => tree.nodes.lookup location

def data (tree : FileTree) (id : FileId) : Bytes := (tree.contents.lookup id).getD []

def setData (tree : FileTree) (id : FileId) (bytes : Bytes) : FileTree :=
  { tree with contents := assign id bytes tree.contents }

def setNode (tree : FileTree) (location : Location) (node : Node) : FileTree :=
  { tree with nodes := assign location node tree.nodes }

def dropNode (tree : FileTree) (location : Location) : FileTree :=
  { tree with nodes := unassign location tree.nodes }

/-- A new empty file at a location. -/
def addFile (tree : FileTree) (location : Location) : FileId × FileTree :=
  let added := { tree.setNode location (.file tree.nextId) with nextId := tree.nextId + 1 }
  (tree.nextId, added.setData tree.nextId [])

/-- What a directory has under a name. -/
def child (tree : FileTree) (dir : Location) (name : String) : Except IoError (Option Node) :=
  if nameLimit < name.utf8ByteSize then .error .nameTooLong else .ok (tree.node? (name :: dir))

def enter (tree : FileTree) (place : Location) (step : PathStep) : Except IoError Location :=
  if tree.node? place ≠ some .directory then .error .notDirectory
  else
    match step with
    | .here => .ok place
    | .up => .ok place.tail
    | .name name => do
      match ← tree.child place name with
      | some _ => return name :: place
      | none => throw .notFound

def walk (tree : FileTree) (start : Location) (steps : List PathStep) : Except IoError Location :=
  steps.foldlM tree.enter start

/-- Where a path begins that is looked up in a directory. -/
def startOf (workingDir : Location) (path : Path) : Location :=
  if path.isAbsolute then [] else workingDir

/-- The location that a path leads to. -/
def resolve (tree : FileTree) (workingDir : Location) (path : Path) : Except IoError Location := do
  checkPath path
  let place ← tree.walk (startOf workingDir path) (pathSteps path)
  if endsWithSlash path && tree.node? place ≠ some .directory then throw .notDirectory
  return place

def resolveEnd (tree : FileTree) (workingDir : Location) (path : Path) :
    Except IoError PathEnd := do
  checkPath path
  let steps := pathSteps path
  let dir ← tree.walk (startOf workingDir path) steps.dropLast
  if tree.node? dir ≠ some .directory then throw .notDirectory
  match steps.getLast? with
  | some (.name name) => return ⟨dir, some name, endsWithSlash path⟩
  | _ => return ⟨dir, none, endsWithSlash path⟩

def kind? (tree : FileTree) (workingDir : Location) (path : Path) : Option FileKind :=
  match (tree.resolve workingDir path).toOption.bind tree.node? with
  | none => none
  | some .directory => some .directory
  | some (.file _) => some .file

def makeDir (tree : FileTree) (workingDir : Location) (path : Path) : Except IoError FileTree := do
  let ⟨dir, some name, _⟩ ← tree.resolveEnd workingDir path | throw .alreadyExists
  match ← tree.child dir name with
  | some _ => throw .alreadyExists
  | none => return tree.setNode (name :: dir) .directory

def remove (tree : FileTree) (workingDir : Location) (path : Path) : Except IoError FileTree := do
  let ⟨dir, some name, slash⟩ ← tree.resolveEnd workingDir path | throw .isDirectory
  match ← tree.child dir name with
  | none => throw .notFound
  | some .directory => throw .isDirectory
  | some (.file _) => if slash then throw .notDirectory else return tree.dropNode (name :: dir)

/-- The source is a file; it takes the place of the file at the target, if there is one. -/
def rename (tree : FileTree) (workingDir : Location) (source target : Path) :
    Except IoError FileTree := do
  let old ← tree.resolveEnd workingDir source
  let new ← tree.resolveEnd workingDir target
  let some oldName := old.name | throw .busy
  let some newName := new.name | throw .busy
  let some node ← tree.child old.dir oldName | throw .notFound
  let replaced ← tree.child new.dir newName
  if node ≠ .directory && (old.slash || new.slash) then throw .notDirectory
  if (newName :: new.dir).isSuffixOf old.dir then throw .notEmpty
  if replaced = some .directory then throw .isDirectory
  return (tree.dropNode (oldName :: old.dir)).setNode (newName :: new.dir) node

def list (tree : FileTree) (workingDir : Location) (path : Path) :
    Except IoError (List String) := do
  let place ← tree.resolve workingDir path
  if tree.node? place ≠ some .directory then throw .notDirectory
  return tree.nodes.filterMap fun (location, _) =>
    match location with
    | name :: dir => if dir = place then some name else none
    | [] => none

/-- The file to write to, which is made if it is missing. -/
def openToWrite (tree : FileTree) (workingDir : Location) (path : Path) :
    Except IoError (FileId × FileTree) := do
  let ⟨dir, some name, false⟩ ← tree.resolveEnd workingDir path | throw .isDirectory
  match ← tree.child dir name with
  | some .directory => throw .isDirectory
  | some (.file id) => return (id, tree)
  | none => return tree.addFile (name :: dir)

/-- Drops a directory with all that is in it. -/
def uproot (tree : FileTree) (place : Location) : FileTree :=
  { tree with nodes := tree.nodes.filter fun (location, _) => !place.isSuffixOf location }

end FileTree

end DualSlot.Simulation
