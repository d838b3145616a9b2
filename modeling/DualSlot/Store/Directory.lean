import DualSlot.Durable
import DualSlot.Record.Codec
import DualSlot.Store
import DualSlot.Text.Utf8

/-!
A store in a directory: a JSON file for each record, a history of one line for each entry, and a
file that sessions lock.
-/

namespace DualSlot

structure DirectoryStore where
  root : Path
  deriving DecidableEq, Repr

namespace DirectoryStore

/-- The store in the directory where a machine keeps its state. -/
def within (stateDir : Path) : DirectoryStore := ⟨stateDir.join "twinboot"⟩

def bootStateFile (store : DirectoryStore) : Path := store.root.join "boot-state.json"

def recordFile (store : DirectoryStore) (slot : Slot) : Path :=
  store.root.join s!"verity-{slot.lower}.json"

def historyFile (store : DirectoryStore) : Path := store.root.join "history.jsonl"

def lockFile (store : DirectoryStore) : Path := store.root.join "update.lock"

def stagingDir (store : DirectoryStore) : Path := store.root.join "staging"

/-- A program over calls that the store may refuse. -/
abbrev StoreTask := ExceptT StoreError Hosted

def isAsciiSpace (byte : UInt8) : Bool :=
  byte == 0x20 || byte == 0x09 || byte == 0x0a || byte == 0x0c || byte == 0x0d

/-- The record in a file. A file of nothing but space holds none. -/
def readFrom (α : Type) [JsonRecord α] (path : Path) : StoreTask (Option α) := do
  match ← (Durable.read? path).adapt (.unreadable path) with
  | none => return none
  | some contents =>
    if contents.all isAsciiSpace then return none
    else
      match JsonRecord.read? contents with
      | some record => return some record
      | none => throw (.corrupt path)

def writeTo [JsonRecord α] (path : Path) (record : α) : StoreTask Unit :=
  (Durable.replace path (JsonRecord.file record)).adapt (.unwritable path)

/-- The record of a slot. One that names the other slot does not count. -/
def readRecord (store : DirectoryStore) (slot : Slot) : StoreTask (Option SlotRecord) := do
  match ← readFrom SlotRecord (store.recordFile slot) with
  | none => return none
  | some record =>
    if record.slot = slot then return some record
    else
      Call.perform (.log .records .warn
        s!"integrity record of slot {slot.name} names slot {record.slot.name}")
      return none

/-- The entry on a line. A line that holds none, such as one cut short, is skipped. -/
def readEntry (line : List Char) : Hosted (Option HistoryEntry) := do
  if (Text.trim line).isEmpty then return none
  else
    match JsonRecord.read? (Bytes.ofString (.ofList line)) with
    | some entry => return some entry
    | none =>
      Call.perform (.log .records .warn "skipping invalid history line: no such record in JSON")
      return none

def readHistory (store : DirectoryStore) : StoreTask (List HistoryEntry) := do
  match ← (Durable.read? store.historyFile).adapt (.unreadable store.historyFile) with
  | none => return []
  | some contents => (Text.lines (Text.lossy contents)).filterMapM fun line => readEntry line

def lock (store : DirectoryStore) : StoreTask Guard := do
  (Durable.makeDirs store.root).adapt .noDirectory
  let file ← (FileTask.openFile store.lockFile .hold).adapt (.unopenable store.lockFile)
  match ← Call.perform (.lock file) with
  | .ok true => return .file file
  | .ok false =>
    Call.perform (.close file)
    throw .locked
  | .error cause =>
    Call.perform (.close file)
    throw (.unlockable store.lockFile cause)

/-- How the store replies to a request. -/
def realise (store : DirectoryStore) : (request : StoreRequest) → Hosted request.Reply
  | .readBootState => (readFrom BootState store.bootStateFile).run
  | .writeBootState state => (writeTo store.bootStateFile state).run
  | .readRecord slot => (store.readRecord slot).run
  | .writeRecord record => (writeTo (store.recordFile record.slot) record).run
  | .clearRecord slot =>
    ((Durable.erase (store.recordFile slot)).adapt (.unremovable (store.recordFile slot))).run
  | .appendHistory entry =>
    ((Durable.append store.historyFile (JsonRecord.line entry)).adapt
      (.unextendable store.historyFile)).run
  | .readHistory => store.readHistory.run
  | .lock => store.lock.run
  | .unlock (.file file) => Call.perform (.close file)
  | .unlock .flag => return ()

end DirectoryStore

end DualSlot
