import DualSlot.Durable
import DualSlot.Log.Filter
import DualSlot.Simulation.FileTree

/-!
A system to run programs on without a machine: a tree of files, a clock, and an operator who reads
what is printed.
-/

namespace DualSlot.Simulation

/-- What is behind a handle. -/
inductive OpenFile where
  | directory
  /-- A file, and where the next write goes; without a place, to the end. -/
  | file (id : FileId) (offset : Option Nat)
  | stream (stream : Stream)

structure World where
  tree : FileTree
  workingDir : Location
  openFiles : List (Handle × OpenFile)
  nextHandle : Handle
  /-- The locked files, and the handles through which they are locked. -/
  locks : List (FileId × Handle)
  clock : UInt64
  cancelled : Bool
  filter : LogFilter
  output : String
  notices : String

/-- A file whose contents are written over from an offset. -/
def overwrite (old : Bytes) (offset : Nat) (new : Bytes) : Bytes :=
  if new.isEmpty then old
  else Bytes.padded offset (old.take offset) ++ new ++ old.drop (offset + new.length)

namespace World

/-- A system with nothing but an empty working directory. -/
def fresh (clock : UInt64) : World where
  tree := ⟨[(["work"], .directory)], [], 0⟩
  workingDir := ["work"]
  openFiles := []
  nextHandle := 0
  locks := []
  clock := clock
  cancelled := false
  filter := .off
  output := ""
  notices := ""

/-- Puts something behind a new handle. -/
def hold (world : World) (file : OpenFile) : Handle × World :=
  (world.nextHandle, { world with
    openFiles := (world.nextHandle, file) :: world.openFiles, nextHandle := world.nextHandle + 1 })

def release (world : World) (handle : Handle) : World :=
  { world with
    openFiles := unassign handle world.openFiles
    locks := world.locks.filter fun (_, holder) => holder ≠ handle }

def openToRead (world : World) (path : Path) : Except IoError (Handle × World) := do
  let place ← world.tree.resolve world.workingDir path
  match world.tree.node? place with
  | some .directory => return world.hold .directory
  | some (.file id) => return world.hold (.file id (some 0))
  | none => throw .notFound

def openToChange (world : World) (path : Path) : Except IoError (Handle × World) := do
  let place ← world.tree.resolve world.workingDir path
  match world.tree.node? place with
  | some .directory => throw .isDirectory
  | some (.file id) => return world.hold (.file id (some 0))
  | none => throw .notFound

def openOrMake (world : World) (path : Path) (offset : Option Nat) :
    Except IoError (Handle × World) := do
  let (id, tree) ← world.tree.openToWrite world.workingDir path
  return { world with tree }.hold (.file id offset)

def openEmpty (world : World) (path : Path) : Except IoError (Handle × World) := do
  let (id, tree) ← world.tree.openToWrite world.workingDir path
  return { world with tree := tree.setData id [] }.hold (.file id (some 0))

def openFile (world : World) (path : Path) : Access → Except IoError (Handle × World)
  | .read => world.openToRead path
  | .overwrite => world.openToChange path
  | .create => world.openEmpty path
  | .append => world.openOrMake path none
  | .hold => world.openOrMake path (some 0)

/-- The first of the names with the stem that is free in a directory. -/
def freeName (world : World) (dir : Location) (stem : String) : String :=
  let names := (List.range (world.tree.nodes.length + 1)).map fun n => s!"{stem}{100000 + n}"
  (names.find? fun name => (world.tree.node? (name :: dir)).isNone).getD stem

def createTemp (world : World) (dir : Path) (stem : String) :
    Except IoError ((Path × Handle) × World) := do
  let place := (world.tree.resolve world.workingDir dir).toOption.getD []
  let path := dir.join (world.freeName place stem)
  let (handle, world) ← (world.openEmpty path).mapError fun cause => .located cause path.text
  return ((path, handle), world)

def write (world : World) (handle : Handle) (bytes : Bytes) : Except IoError World :=
  match world.openFiles.lookup handle with
  | some (.file id offset) =>
    let old := world.tree.data id
    let start := offset.getD old.length
    let moved := OpenFile.file id (offset.map (· + bytes.length))
    .ok { world with
      tree := world.tree.setData id (overwrite old start bytes)
      openFiles := assign handle moved world.openFiles }
  | _ => .error (.system 9)

def receive (world : World) (handle : Handle) : Stream :=
  match world.openFiles.lookup handle with
  | some (.file id _) => .ofBytes (world.tree.data id)
  | some (.stream stream) => stream
  | some .directory => .broken .isDirectory
  | none => .broken (.system 9)

/-- A lock belongs to a file and not to its place in the tree. -/
def lock (world : World) (handle : Handle) : Except IoError (Bool × World) :=
  match world.openFiles.lookup handle with
  | some (.file id _) =>
    match world.locks.lookup id with
    | some holder => .ok (holder = handle, world)
    | none => .ok (true, { world with locks := (id, handle) :: world.locks })
  | _ => .error (.system 9)

def print (world : World) (channel : Channel) (text : String) : World :=
  match channel with
  | .output => { world with output := world.output ++ text }
  | .notices => { world with notices := world.notices ++ text }

/-- What an operation came to, and the world after it, which a failure leaves as it was. -/
def settle (world : World) : Except IoError (α × World) → Except IoError α × World
  | .ok (value, world) => (.ok value, world)
  | .error cause => (.error cause, world)

def settleTree (world : World) : Except IoError FileTree → Except IoError Unit × World
  | .ok tree => (.ok (), { world with tree })
  | .error cause => (.error cause, world)

/-- How the world replies to a call. -/
def answer : (call : Call) → World → call.Reply × World
  | .makeDir path, world => world.settleTree (world.tree.makeDir world.workingDir path)
  | .kind path, world => (world.tree.kind? world.workingDir path, world)
  | .openFile path access, world => world.settle (world.openFile path access)
  | .createTemp dir stem, world => world.settle (world.createTemp dir stem)
  | .write handle bytes, world =>
    world.settle ((world.write handle bytes).map fun world => ((), world))
  | .receive handle, world => (world.receive handle, world)
  | .sync _, world => (.ok (), world)
  | .close handle, world => ((), world.release handle)
  | .rename source target, world =>
    world.settleTree (world.tree.rename world.workingDir source target)
  | .remove path, world => world.settleTree (world.tree.remove world.workingDir path)
  | .list dir, world => (world.tree.list world.workingDir dir, world)
  | .lock handle, world => world.settle (world.lock handle)
  | .now, world => (world.clock, world)
  | .cancelled, world => (world.cancelled, world)
  | .attended, world => (false, world)
  | .log topic level text, world =>
    ((), if world.filter.admits topic level then world.print .notices (level.line text ++ "\n")
      else world)
  | .print channel text, world => ((), world.print channel text)

/-- Runs a program in the world. -/
def run (world : World) (program : Hosted α) : α × World := program.run World.answer world

end World

/-- A change that somebody else makes to the files. -/
inductive FileChange where
  | write (path : Path) (contents : Bytes)
  | makeDirs (path : Path)
  | remove (path : Path)
  deriving DecidableEq, Repr

def writeFile (path : Path) (contents : Bytes) : FileTask Unit := do
  Durable.makeDirs (path.parent?.getD ⟨""⟩)
  FileTask.withFile path .create fun file => FileTask.write file contents

/-- The change, with the directories that it needs; directories go with all that is in them. -/
def World.change (world : World) : FileChange → Except IoError Unit × World
  | .write path contents => world.run (writeFile path contents).run
  | .makeDirs path => world.run (Durable.makeDirs path).run
  | .remove path =>
    match world.tree.resolve world.workingDir path with
    | .ok place =>
      if world.tree.node? place = some .directory then
        (.ok (), { world with tree := world.tree.uproot place })
      else world.run (FileTask.remove path).run
    | .error _ => world.run (FileTask.remove path).run

end DualSlot.Simulation
