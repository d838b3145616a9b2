import DualSlot.Action

/-!
An artifact at hand: the image in a staged file, and the text of the files beside it. The staged
file is there for as long as the artifact is used.
-/

namespace DualSlot

structure Artifact where
  name : String
  staged : Staged
  /-- The number of bytes that were staged. -/
  imageSize : Nat
  checksumText : String
  metadataText : String
  deriving DecidableEq

namespace Artifact

/-- The files beside an image are small: nothing after this many bytes is read. -/
def sidecarLimit : Nat := 64 * 1024

/-- What the names of staged files begin with. -/
def stagedStem : String := "image-"

def checksum (artifact : Artifact) : Except SidecarError Digest :=
  parseChecksum artifact.checksumText

def metadata (artifact : Artifact) : Except SidecarError Metadata :=
  Metadata.parse artifact.metadataText

/-- Opens the staged image from its beginning. -/
def openImage (artifact : Artifact) : Task IoError Opened :=
  .mk (Action.perform (.openStaged artifact.staged))

def openSource (source : Source) (name : String) : Task IoError Opened :=
  .mk (Action.perform (.openSource source name))

/-- The beginning of a stream as text. -/
def sidecarText (stream : Stream) : Except IoError String := do
  match (← (stream.take sidecarLimit).contents).text? with
  | some text => return text
  | none => throw .invalidText

def readSidecar (source : Source) (name : String) : Task Failure String :=
  ExceptT.adapt (.download name) do
    let opened ← openSource source name
    sidecarText (← Action.perform (.receive opened .sidecar))

/-- Stages the image, or leaves nothing staged. -/
def stageImage (source : Source) (name : String) (dir : Path) :
    Task IoError (Staged × Nat) := do
  let staged ← Task.of id (Action.perform (.stage dir))
  let copied ← Task.outcome do
    let image ← openSource source name
    Task.of id (Action.perform (.fill staged image))
  match copied with
  | .ok size => return (staged, size)
  | .error cause =>
    Action.perform (.discard staged)
    throw cause

/-- Reads the files beside the image and stages the image. -/
def fetch (source : Source) (name : String) (stagingDir : Path) : Task Failure Artifact := do
  log .source .info s!"fetching {Text.quote name} from {source.location}"
  let checksumText ← readSidecar source (name ++ ".sha256")
  let metadataText ← readSidecar source (name ++ ".verity")
  let (staged, imageSize) ← (stageImage source name stagingDir).adapt (.download name)
  log .source .info s!"staged image of {imageSize} bytes"
  return { name, staged, imageSize, checksumText, metadataText }

/-- Something is done with the artifact, whose image is discarded in the end. -/
def consumedBy (artifact : Artifact) (task : Task ε α) : Task ε α :=
  task.followedBy (Action.perform (.discard artifact.staged))

def removeLeftover (dir : Path) (name : String) : Task IoError Unit := do
  let path := dir.join name
  log .source .debug s!"removing leftover staged image {path.quoted}"
  Task.of id (Action.perform (.remove path))

/-- Removes the images of attempts that never ended. Only the holder of a session may do this. -/
def cleanStaging (dir : Path) : Task IoError Nat := .mk do
  match ← Action.perform (.list dir) with
  | .error cause => return if cause = .notFound then .ok 0 else .error cause
  | .ok names =>
    let leftovers := names.filter fun name => stagedStem.toList.isPrefixOf name.toList
    let removed ← (leftovers.forM (removeLeftover dir)).run
    return removed.map fun () => leftovers.length

end Artifact

end DualSlot
