import DualSlot.Failure
import DualSlot.Source

/-!
What the updater does to the machine: it asks the store, reads and replaces the loader's files,
stages images, and writes and reads back slots.
-/

namespace DualSlot

/-- A stream that was opened and not yet read, and how much of it is wanted. -/
structure Opened where
  file : Handle
  limit : Option Nat
  deriving DecidableEq, Repr

/-- A file for an image that is being checked. -/
structure Staged where
  path : Path
  file : Handle
  deriving DecidableEq, Repr

/-- What a stream is read for. -/
inductive Purpose where
  | sidecar
  | checksum
  | tree
  deriving DecidableEq, Repr

inductive Action where
  | store (request : StoreRequest)
  /-- Whether there is anything at a path. -/
  | present (path : Path)
  /-- The contents of a file, if there is one. -/
  | read (path : Path)
  /-- Replaces a file as a whole. -/
  | replace (path : Path) (contents : Bytes)
  | list (dir : Path)
  | remove (path : Path)
  /-- Makes an empty file in a directory, which is made first if need be. -/
  | stage (dir : Path)
  /-- Copies a stream into a staged file and counts its bytes. -/
  | fill (staged : Staged) (image : Opened)
  | discard (staged : Staged)
  | openSource (source : Source) (name : String)
  | openStaged (staged : Staged)
  | receive (stream : Opened) (purpose : Purpose)
  /-- Writes an image to a slot and counts its bytes. -/
  | writeSlot (slot : Slot) (image : Opened)
  /-- Opens a slot for reading its first bytes. -/
  | openSlot (slot : Slot) (length : Nat)
  | now
  | cancelled
  | log (topic : LogTopic) (level : LogLevel) (text : String)
  deriving DecidableEq, Repr

namespace Action

@[reducible] def Reply : Action → Type
  | store request => request.Reply
  | present _ => Bool
  | read _ => Except IoError (Option Bytes)
  | replace _ _ => Except IoError Unit
  | list _ => Except IoError (List String)
  | remove _ => Except IoError Unit
  | stage _ => Except IoError Staged
  | fill _ _ => Except IoError Nat
  | discard _ => Unit
  | openSource _ _ => Except IoError Opened
  | openStaged _ => Except IoError Opened
  | receive _ _ => Stream
  | writeSlot _ _ => Except IoError Nat
  | openSlot _ _ => Except IoError Opened
  | now => UInt64
  | cancelled => Bool
  | log _ _ _ => Unit

end Action

abbrev actions : Interface := ⟨Action, Action.Reply⟩

/-- A program over actions. -/
abbrev Acting := Program actions

/-- A program over actions that ends at its first failure. -/
abbrev Task (ε : Type) := ExceptT ε Acting

def Action.perform (action : Action) : Acting action.Reply := Program.perform (I := actions) action

def log (topic : LogTopic) (level : LogLevel) (text : String) : Acting Unit :=
  Action.perform (.log topic level text)

namespace Task

/-- A reply that may be a refusal, and the error that this stands for. -/
def of (reason : ε → ε') (reply : Acting (Except ε α)) : Task ε' α :=
  .mk do return (← reply).mapError reason

/-- What comes of a task, success or not, as a value. -/
def outcome (task : Task ε α) : Task ε' (Except ε α) := ExceptT.lift task.run

/-- Whatever comes of the task, something is done after it. -/
def followedBy (task : Task ε α) (after : Acting Unit) : Task ε α := .mk do
  let result ← task.run
  after
  return result

end Task

end DualSlot
