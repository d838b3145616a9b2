import DualSlot.Artifact
import DualSlot.BootMenu
import DualSlot.Record.Codec
import DualSlot.Session
import DualSlot.Store.Directory
import DualSlot.Update.Progress

/-!
Updates. An update fetches an artifact, checks it against its checksum and its hash tree, writes it
to the inactive slot, reads the slot back, and only then makes that slot active. From before the
first write until the read-back the slot has no record, and the loader passes it over.
-/

namespace DualSlot

structure Updater where
  maxBootCount : UInt32
  menu : BootMenu
  stagingDir : Path
  /-- The parameters of trees whose metadata names none. -/
  treeParams : HashTree.Params
  hash : Bytes → Digest

structure UpdateReport where
  previousSlot : Slot
  activeSlot : Slot
  rootHash : Digest
  imageSize : Nat
  deriving DecidableEq

def UpdateReport.json (report : UpdateReport) : Json := .ofMembers
  [("state", .text Stage.committed.name), ("previous_slot", report.previousSlot.json),
    ("active_slot", report.activeSlot.json), ("root_hash", report.rootHash.json),
    ("image_size", .natural report.imageSize)]

structure VerifyReport where
  image : String
  imageSize : Nat
  checksum : Digest
  rootHash : Digest
  dataBlocks : Nat
  deriving DecidableEq

def VerifyReport.json (report : VerifyReport) : Json := .ofMembers
  [("state", .text Stage.integrityVerified.name), ("image", .text report.image),
    ("image_size", .natural report.imageSize), ("sha256", report.checksum.json),
    ("root_hash", report.rootHash.json), ("data_blocks", .natural report.dataBlocks)]

namespace Updater

/-- The updater of a machine with the given settings. -/
def ofSettings (settings : Settings) : Updater where
  maxBootCount := settings.maxBootCount
  menu := .ofSettings settings.boot settings.maxBootCount
  stagingDir := (DirectoryStore.within settings.stateDir).stagingDir
  treeParams := settings.treeParams
  hash := Sha256.digest

/-- Checks the staged image against the checksum file. -/
def verifyChecksum (updater : Updater) (artifact : Artifact) : Task Failure Unit := do
  let unreadable (cause : IoError) : Failure := .verification (.unreadable cause)
  let image ← artifact.openImage.adapt unreadable
  match (← Action.perform (.receive image .checksum)).contents with
  | .error cause => throw (unreadable cause)
  | .ok bytes =>
    let found := updater.hash bytes
    let mismatch : Failure := .checksumMismatch (checksumWord artifact.checksumText) found
    match artifact.checksum with
    | .ok expected => if expected ≠ found then throw mismatch
    | .error error =>
      log .update .warn s!"unable to parse checksum file: {error.message}"
      throw mismatch

/-- Checks the tree of the staged image against the metadata file. -/
def verifyIntegrity (updater : Updater) (artifact : Artifact) : Task Failure HashTree := do
  match artifact.metadata with
  | .error cause => throw (.integrityMismatch (.metadata cause))
  | .ok metadata =>
    let params := metadata.params updater.treeParams
    match params.validate with
    | .error cause => throw (.integrityMismatch (.params cause))
    | .ok () =>
      let image ← artifact.openImage.adapt fun cause => .verification (.unreadable cause)
      match HashTree.build updater.hash params (← Action.perform (.receive image .tree)) with
      | .error cause => throw (.verification (.tree cause))
      | .ok tree =>
        match metadata.dataBlocks.filter (· ≠ tree.dataBlocks) with
        | some described => throw (.integrityMismatch (.dataBlocks described tree.dataBlocks))
        | none =>
          if tree.rootHash = metadata.rootHash then return tree
          else throw (.integrityMismatch (.rootHash metadata.rootHash tree.rootHash))

/-- Fetches an artifact and checks it; what follows gets it with its tree. -/
def withVerified (updater : Updater) (source : Source) (image : String)
    (next : Progress → Artifact → HashTree → Task UpdateFailure α) : Task UpdateFailure α := do
  let progress := Progress.start
  progress.unlessCancelled .fetching
  let artifact ← progress.toward .fetching (Artifact.fetch source image updater.stagingDir)
  artifact.consumedBy do
    let progress ← progress.reached .fetching
    progress.unlessCancelled .checksumVerified
    progress.toward .checksumVerified (updater.verifyChecksum artifact)
    let progress ← progress.reached .checksumVerified
    progress.unlessCancelled .integrityVerified
    let tree ← progress.toward .integrityVerified (updater.verifyIntegrity artifact)
    next (← progress.reached .integrityVerified) artifact tree

/-- Fetches an artifact and checks it, and touches no slot. -/
def verify (updater : Updater) (source : Source) (image : String) :
    Task UpdateFailure VerifyReport :=
  updater.withVerified source image fun progress artifact tree =>
    progress.toward .checksumVerified do
      match artifact.checksum with
      | .error cause => throw (.verification (.sidecar cause))
      | .ok checksum =>
        return {
          image := artifact.name, imageSize := artifact.imageSize, checksum,
          rootHash := tree.rootHash, dataBlocks := tree.dataBlocks }

def writeSlot (slot : Slot) (artifact : Artifact) : Task Failure Unit := do
  let failed (cause : IoError) : Failure := .slotWrite slot (.failed cause)
  let image ← artifact.openImage.adapt failed
  let written ← Task.of failed (Action.perform (.writeSlot slot image))
  if written ≠ artifact.imageSize then
    throw (.slotWrite slot (.incomplete written artifact.imageSize))

/-- Reads the slot back and compares its tree with that of the image. -/
def verifyWritten (updater : Updater) (slot : Slot) (artifact : Artifact) (expected : HashTree) :
    Task Failure Unit := do
  match artifact.metadata with
  | .error cause => throw (.slotRead slot (.sidecar cause))
  | .ok metadata =>
    let params := metadata.params updater.treeParams
    let written ← Task.of (fun cause => .slotRead slot (.unreadable cause))
      (Action.perform (.openSlot slot artifact.imageSize))
    match HashTree.build updater.hash params (← Action.perform (.receive written .tree)) with
    | .error cause => throw (.slotRead slot (.tree cause))
    | .ok found =>
      if found.rootHash ≠ expected.rootHash ∨ found.imageSize ≠ expected.imageSize then
        throw (.writeVerification slot expected.rootHash found.rootHash)
      else log .update .info s!"slot {slot.name} holds root hash {found.rootHash.hex}"

/-- Removes what earlier attempts left behind. An update does not depend on it. -/
def cleanUp (updater : Updater) : Acting Unit := do
  match ← (Artifact.cleanStaging updater.stagingDir).run with
  | .ok 0 => return ()
  | .ok removed => log .update .info s!"removed {removed} leftover staged images"
  | .error cause => log .update .warn s!"unable to clean staging directory: {cause.message}"

/-- Writes a checked image to a slot and makes the slot active. -/
def install (updater : Updater) (target : Slot) (progress : Progress) (artifact : Artifact)
    (tree : HashTree) : Task UpdateFailure Unit := do
  progress.unlessCancelled .writing
  log .update .info s!"writing image to inactive slot {target.name}"
  let progress := { progress with impact := .inactiveSlotUnknown }
  progress.toward .writing do
    (updater.menu.disable target).adapt .bootMenu
    Slots.clearRecord target
    writeSlot target artifact
  let progress ← progress.reached .writing
  progress.toward .writtenVerified (updater.verifyWritten target artifact tree)
  let progress ← progress.reached .writtenVerified
  progress.toward .committed do
    let _ ← Slots.recordHash target tree.rootHash.hex
    let _ ← Slots.commit updater.maxBootCount target
  let progress := { progress with impact := .splitBrain }
  progress.toward .committed updater.menu.refresh
  let _ ← progress.reached .committed

/-- Fetches an artifact, checks it, and installs it into the inactive slot. -/
def update (updater : Updater) (source : Source) (image : String) :
    Task UpdateFailure UpdateReport := do
  let progress := Progress.start
  let held ← progress.toward .fetching Session.begin
  Session.during held do
    let state ← progress.toward .fetching Slots.bootState
    updater.cleanUp
    updater.withVerified source image fun progress artifact tree => do
      let target := state.activeSlot.other
      updater.install target progress artifact tree
      return {
        previousSlot := state.activeSlot, activeSlot := target, rootHash := tree.rootHash,
        imageSize := artifact.imageSize }

end Updater

end DualSlot
