import DualSlot.Log.Filter
import DualSlot.Operator
import Std.Time.DateTime.Timestamp

/-!
The program: calls are made to the system it runs on. What the system has no call for here is left
to it: files reach stable storage in its own time, and nobody cancels.
-/

namespace DualSlot

/-- The files that are open, and the next handle. -/
structure OpenFiles where
  files : List (Handle × IO.FS.Handle)
  next : Handle

/-- The system's number of an error, if it gave one. -/
def systemCode : IO.Error → Option UInt32
  | .alreadyExists _ code _ | .otherError code _ | .resourceBusy code _ | .resourceVanished code _
  | .unsupportedOperation code _ | .hardwareFault code _ | .unsatisfiedConstraints code _
  | .illegalOperation code _ | .protocolError code _ | .timeExpired code _ | .interrupted _ code _
  | .noFileOrDirectory _ code _ | .invalidArgument _ code _ | .permissionDenied _ code _
  | .resourceExhausted _ code _ | .inappropriateType _ code _ | .noSuchThing _ code _ => some code
  | .unexpectedEof | .userError _ => none

/-- Some calls report the number with a minus sign. -/
def ioError (error : IO.Error) : IoError :=
  match systemCode error with
  | some code => .system code.toInt32.toInt.natAbs
  | none => .other (toString error)

def attempt (action : IO α) : IO (Except IoError α) := do
  match ← action.toBaseIO with
  | .ok value => return .ok value
  | .error error => return .error (ioError error)

/-- An action on a path, which has to be one that the system can take. -/
def attemptAt (path : Path) (action : IO α) : IO (Except IoError α) :=
  if '\x00' ∈ path.text.toList then return .error .nulInName else attempt action

abbrev Files := IO.Ref OpenFiles

def hold (files : Files) (file : IO.FS.Handle) : IO Handle :=
  files.modifyGet fun held => (held.next, ⟨(held.next, file) :: held.files, held.next + 1⟩)

def withHandle (files : Files) (handle : Handle) (action : IO.FS.Handle → IO α) :
    IO (Except IoError α) := do
  match (← files.get).files.lookup handle with
  | some file => attempt (action file)
  | none => return .error (.system 9)

def Access.mode : Access → IO.FS.Mode
  | .read => .read
  | .overwrite => .readWrite
  | .create => .write
  | .append | .hold => .append

/-- Makes a file with a name that nothing has yet. -/
def makeTemp (files : Files) (dir : Path) (stem : String) :
    Nat → IO (Except IoError (Path × Handle))
  | 0 => return .error .alreadyExists
  | patience + 1 => do
    let path := dir.join s!"{stem}{← IO.rand 100000 999999}"
    match ← attemptAt path (IO.FS.Handle.mk path.text .writeNew) with
    | .ok file => return .ok (path, ← hold files file)
    | .error cause =>
      if cause = .alreadyExists then makeTemp files dir stem patience
      else return .error (.located cause path.text)

def kindOf (path : Path) : IO (Option FileKind) := do
  match ← attemptAt path (System.mkFilePath [path.text]).metadata with
  | .ok found => return some (if found.type == .dir then .directory else .file)
  | .error _ => return none

def renameTo (source target : Path) : IO (Except IoError Unit) :=
  if '\x00' ∈ source.text.toList then return .error .nulInName
  else attemptAt target (IO.FS.rename source.text target.text)

def namesIn (path : Path) : IO (Except IoError (List String)) :=
  attemptAt path do
    let entries ← (System.mkFilePath [path.text]).readDir
    return entries.toList.map fun entry => entry.fileName

def readToEnd (files : Files) (handle : Handle) : IO Stream := do
  match ← withHandle files handle fun file => file.readBinToEnd with
  | .ok bytes => return .ofBytes bytes.data.toList
  | .error cause => return .broken cause

def seconds : IO UInt64 := do
  let now ← Std.Time.Timestamp.now
  return .ofNat now.toSecondsSinceUnixEpoch.val.toNat

def channel : Channel → IO IO.FS.Stream
  | .output => IO.getStdout
  | .notices => IO.getStderr

def answer (files : Files) (filter : LogFilter) : (call : Call) → IO call.Reply
  | .makeDir path => attemptAt path (IO.FS.createDir path.text)
  | .kind path => kindOf path
  | .openFile path access =>
    attemptAt path do hold files (← IO.FS.Handle.mk path.text access.mode)
  | .createTemp dir stem => makeTemp files dir stem 100
  | .write handle bytes => withHandle files handle fun file => do
    file.write ⟨bytes.toArray⟩
    file.flush
  | .receive handle => readToEnd files handle
  | .sync handle => withHandle files handle fun file => file.flush
  | .close handle =>
    files.modify fun held =>
      { held with files := held.files.filter fun (other, _) => other ≠ handle }
  | .rename source target => renameTo source target
  | .remove path => attemptAt path (IO.FS.removeFile path.text)
  | .list dir => namesIn dir
  | .lock handle => withHandle files handle fun file => file.tryLock
  | .now => seconds
  | .cancelled => return false
  | .attended => do (← IO.getStderr).isTty
  | .log topic level text => do
    if filter.admits topic level then (← IO.getStderr).putStrLn (level.line text)
  | .print target text => do (← channel target).putStr text

/-- Carries out the command that the arguments spell. -/
def runCommand (arguments : List String) : IO UInt32 := do
  let files ← IO.mkRef ⟨[], 0⟩
  let filter := match ← IO.getEnv "TWINBOOT_LOG" with
    | some text => LogFilter.ofText text
    | none => .upTo .info
  (Operator.run arguments).interpret (answer files filter)

end DualSlot

def main (arguments : List String) : IO UInt32 := DualSlot.runCommand arguments
