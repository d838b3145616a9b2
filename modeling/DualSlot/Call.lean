import DualSlot.Log
import DualSlot.Path
import DualSlot.Program
import DualSlot.Stream

/-!
The calls with which a program acts on the system it runs on: files, locks, the clock, and the
operator's terminal.
-/

namespace DualSlot

/-- An open file. -/
abbrev Handle := Nat

inductive FileKind where
  | file
  | directory
  deriving DecidableEq, Repr

/-- What a file is opened for. -/
inductive Access where
  | read
  /-- Writing from the beginning; what is not written over stays. -/
  | overwrite
  /-- Writing to a new or emptied file. -/
  | create
  /-- Writing at the end of a file that is made if it is missing. -/
  | append
  /-- Locking a file that is made if it is missing. -/
  | hold
  deriving DecidableEq, Repr

/-- Where text for the operator goes. -/
inductive Channel where
  | output
  | notices
  deriving DecidableEq, Repr

inductive Call where
  | makeDir (path : Path)
  /-- What there is at a path, if anything can be reached there. -/
  | kind (path : Path)
  | openFile (path : Path) (access : Access)
  /-- Makes a file with a new name that begins with the stem. -/
  | createTemp (dir : Path) (stem : String)
  | write (file : Handle) (bytes : Bytes)
  /-- Reads a file to its end. -/
  | receive (file : Handle)
  | sync (file : Handle)
  | close (file : Handle)
  | rename (source target : Path)
  | remove (path : Path)
  | list (dir : Path)
  /-- Locks an open file, unless it is locked through another. -/
  | lock (file : Handle)
  | now
  /-- Whether the operator wants the program to stop. -/
  | cancelled
  /-- Whether somebody watches the terminal. -/
  | attended
  | log (topic : LogTopic) (level : LogLevel) (text : String)
  | print (channel : Channel) (text : String)
  deriving DecidableEq, Repr

namespace Call

@[reducible] def Reply : Call → Type
  | makeDir _ => Except IoError Unit
  | kind _ => Option FileKind
  | openFile _ _ => Except IoError Handle
  | createTemp _ _ => Except IoError (Path × Handle)
  | write _ _ => Except IoError Unit
  | receive _ => Stream
  | sync _ => Except IoError Unit
  | close _ => Unit
  | rename _ _ => Except IoError Unit
  | remove _ => Except IoError Unit
  | list _ => Except IoError (List String)
  | lock _ => Except IoError Bool
  | now => UInt64
  | cancelled => Bool
  | attended => Bool
  | log _ _ _ => Unit
  | print _ _ => Unit

end Call

abbrev calls : Interface := ⟨Call, Call.Reply⟩

/-- A program over calls. -/
abbrev Hosted := Program calls

/-- A program over calls that ends at its first failure. -/
abbrev FileTask := ExceptT IoError Hosted

def Call.perform (call : Call) : Hosted call.Reply := Program.perform (I := calls) call

namespace FileTask

def makeDir (path : Path) : FileTask Unit := .mk (Call.perform (.makeDir path))

def openFile (path : Path) (access : Access) : FileTask Handle :=
  .mk (Call.perform (.openFile path access))

def createTemp (dir : Path) (stem : String) : FileTask (Path × Handle) :=
  .mk (Call.perform (.createTemp dir stem))

def write (file : Handle) (bytes : Bytes) : FileTask Unit := .mk (Call.perform (.write file bytes))

def sync (file : Handle) : FileTask Unit := .mk (Call.perform (.sync file))

def rename (source target : Path) : FileTask Unit := .mk (Call.perform (.rename source target))

def remove (path : Path) : FileTask Unit := .mk (Call.perform (.remove path))

def list (dir : Path) : FileTask (List String) := .mk (Call.perform (.list dir))

def lock (file : Handle) : FileTask Bool := .mk (Call.perform (.lock file))

/-- Reads a file to its end and closes it. -/
def readAll (file : Handle) : Hosted Stream := do
  let stream ← Call.perform (.receive file)
  Call.perform (.close file)
  return stream

/-- Whatever comes of the task, the file is closed after it. -/
def closing (file : Handle) (task : FileTask α) : FileTask α := .mk do
  let result ← task.run
  Call.perform (.close file)
  return result

/-- A task on a file that is open for its duration. -/
def withFile (path : Path) (access : Access) (task : Handle → FileTask α) : FileTask α := do
  let file ← openFile path access
  closing file (task file)

/-- The stream goes into the file. A failing read stops it after what arrived. -/
def copy (stream : Stream) (file : Handle) : FileTask Nat := do
  let (bytes, failure) := stream.drain
  write file bytes
  match failure with
  | none => return bytes.length
  | some cause => throw cause

end FileTask

end DualSlot
