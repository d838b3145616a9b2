import DualSlot.Artifact
import DualSlot.Settings
import DualSlot.Store.Directory

/-!
The updater's actions on a machine that keeps its state in a directory and has a partition for each
slot.
-/

namespace DualSlot

structure Host where
  store : DirectoryStore
  partition : Slot → Path

namespace Host

def ofSettings (settings : Settings) : Host :=
  ⟨.within settings.stateDir, settings.partition⟩

open FileTask

/-- All that an opened stream delivers up to its limit. -/
def contents (opened : Opened) : Hosted Stream := do
  let stream ← Call.perform (.receive opened.file)
  return match opened.limit with
    | none => stream
    | some limit => stream.take limit

/-- Reads a stream, which is closed after it. -/
def receive (opened : Opened) : Hosted Stream := do
  let stream ← contents opened
  Call.perform (.close opened.file)
  return stream

def opening (file : FileTask Handle) : FileTask Opened := return ⟨← file, none⟩

def stage (dir : Path) : FileTask Staged := do
  Durable.makeDirs dir
  let (path, file) ← createTemp dir Artifact.stagedStem
  return ⟨path, file⟩

/-- Writes over the beginning of the partition, which exists beforehand: no file is made in its
place. -/
def writePartition (path : Path) (image : Opened) : FileTask Nat :=
  closing image.file do
    Call.perform (.log .device .debug s!"writing image to {path.quoted}")
    withFile path .overwrite fun file => do
      let count ← copy (← contents image) file
      sync file
      return count

def fill (staged : Staged) (image : Opened) : FileTask Nat :=
  closing image.file do copy (← contents image) staged.file

def realise (host : Host) : (action : Action) → Hosted action.Reply
  | .store request => host.store.realise request
  | .present path => return (← Call.perform (.kind path)).isSome
  | .read path => (Durable.read? path).run
  | .replace path contents => (Durable.replace path contents).run
  | .list dir => Call.perform (.list dir)
  | .remove path => Call.perform (.remove path)
  | .stage dir => (stage dir).run
  | .fill staged image => (fill staged image).run
  | .discard staged => do
    let _ ← Call.perform (.remove staged.path)
    Call.perform (.close staged.file)
  | .openSource (.directory base) name => (opening (openFile (base.join name) .read)).run
  | .openSource (.web base) name => do
    Call.perform (.log .source .debug s!"requesting {base}/{name}")
    return .error (.other "no connection to the web")
  | .openStaged staged =>
    ((opening (openFile staged.path .read)).adapt fun cause => .located cause staged.path.text).run
  | .receive opened _ => receive opened
  | .writeSlot slot image => (writePartition (host.partition slot) image).run
  | .openSlot slot length => ExceptT.run do
    return ⟨← openFile (host.partition slot) .read, some length⟩
  | .now => Call.perform .now
  | .cancelled => Call.perform .cancelled
  | .log topic level text => Call.perform (.log topic level text)

end Host

end DualSlot
