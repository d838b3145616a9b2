import DualSlot.CommandLine
import DualSlot.Host
import DualSlot.Machine
import DualSlot.Settings.Load

/-!
Commands of the operator: what each does on this machine and what it prints.
-/

namespace DualSlot

/-- The source and the image that the operator means by a location. -/
def Source.resolve (location : String) (image : Option String) : Hosted (Source × String) := do
  match splitAddress location with
  | some (scheme, rest) => return resolveAddress location scheme rest image
  | none =>
    let path : Path := ⟨location⟩
    return resolvePath path ((← Call.perform (.kind path)) = some .file) image

namespace Operator

/-- Why a command was not carried out. -/
inductive CommandError where
  | settings (cause : SettingsError)
  | machine (cause : Failure)
  | update (cause : UpdateFailure)
  deriving DecidableEq

def CommandError.explanation : CommandError → Explanation
  | settings cause => "invalid configuration" :: cause.explanation
  | machine cause => cause.explanation
  | update cause => cause.explanation

abbrev CommandTask := ExceptT CommandError Hosted

def notice (text : String) : Hosted Unit := Call.perform (.print .notices (text ++ "\n"))

/-- Reports are also written as JSON if asked for, or if nobody reads the notices. -/
def report (value : Json) (wanted : Bool) : Hosted Unit := do
  if wanted || !(← Call.perform .attended) then
    Call.perform (.print .output (value.compact ++ "\n"))

/-- A task of the updater on this machine. -/
def onMachine (settings : Settings) (failed : ε → CommandError) (task : Updater → Task ε α) :
    CommandTask α := .mk do
  let result ← ((task (.ofSettings settings)).run).translate (Host.ofSettings settings).realise
  return result.mapError failed

/-- A task of an update. The operator is warned if it must not be tried again. -/
def updating (settings : Settings) (task : Updater → Task UpdateFailure α) : CommandTask α :=
  tryCatch (onMachine settings .update task) fun error => do
    if let .update failure := error then
      if !failure.impact.retryPermitted then
        notice ("Do not retry the update. " ++
          "Run `twinboot-ctrl system rollback` to restore a consistent state.")
    throw error

def slotLine (status : SlotStatus) : String :=
  let state := if status.active then "active" else "inactive"
  let hash := (status.record.map SlotRecord.rootHash).getD "<unknown>"
  s!"Slot {status.slot.name}: {state} ({hash})"

def historyLine (entry : HistoryEntry) : String :=
  s!"{entry.timestamp.toNat} {entry.outcome.name} slot={entry.activeSlot.name}"

def restartNotice (wanted : Bool) : Hosted Unit := do
  if wanted then notice "Reboot to start the active slot."

def execute (settings : Settings) : Command → CommandTask Unit
  | .install location image reboot => do
    let (source, image) ← Source.resolve location image
    let installed ← updating settings fun updater => updater.update source image
    notice (s!"Installed {Text.quote image} into slot {installed.activeSlot.name} " ++
      s!"(root hash {installed.rootHash.hex}).")
    notice s!"Slot {installed.previousSlot.name} remains available as fallback."
    restartNotice reboot
  | .verify location image json => do
    let (source, image) ← Source.resolve location image
    let found ← updating settings fun updater => updater.verify source image
    notice s!"Image: {found.image}"
    notice s!"Size: {found.imageSize} bytes"
    notice s!"SHA256: {found.checksum.hex}"
    notice s!"Root Hash: {found.rootHash.hex}"
    report found.json json
  | .info json => do
    let status ← onMachine settings .machine fun updater => updater.status settings.historyLimit
    notice s!"Active Slot: {status.state.activeSlot.name}"
    notice s!"Boot Count: {status.state.bootCount.toNat}/{status.maxBootCount.toNat}"
    let defaultEntry := (status.defaultEntry.map Slot.name).getD "<unknown>"
    notice s!"Default Entry: {defaultEntry}"
    status.slots.forM fun slot => notice (slotLine slot)
    report status.json json
  | .rollback reboot => do
    let switched ← onMachine settings .machine Updater.rollback
    notice (s!"Rolled back from slot {switched.previousSlot.name} " ++
      s!"to slot {switched.activeSlot.name}.")
    restartNotice reboot
  | .confirm => do
    let state ← onMachine settings .machine Updater.confirm
    notice (s!"Slot {state.activeSlot.name} confirmed, " ++
      s!"{state.bootCount.toNat} boot attempts available.")
  | .init active rootHash force => do
    let _ ← onMachine settings .machine fun updater => updater.provision active rootHash force
    notice s!"Initialized state with active slot {active.name}."
  | .bootAttempt => do
    let state ← onMachine settings .machine Updater.bootAttempt
    notice s!"Boot attempts left: {state.bootCount.toNat}"
  | .history limit json => do
    let limit := limit.getD settings.historyLimit
    let entries ← onMachine settings .machine fun _ => Slots.history limit
    entries.forM fun entry => notice (historyLine entry)
    report (historyJson entries) json

def usage : String :=
  "usage: update install|verify, system info|rollback|confirm, state init|boot-attempt|history"

/-- Carries out the command that the arguments spell, and says how the program ends. -/
def run (arguments : List String) : Hosted UInt32 := do
  match Invocation.parse arguments with
  | .error .help =>
    Call.perform (.print .output (usage ++ "\n"))
    return 0
  | .error _ =>
    notice usage
    return 2
  | .ok invocation =>
    let outcome ← ExceptT.run do
      let settings ← (Settings.load (invocation.config.map Path.mk)).adapt CommandError.settings
      execute settings invocation.command
    match outcome with
    | .ok () => return 0
    | .error error =>
      notice ("error: " ++ error.explanation.text)
      return 1

end Operator

end DualSlot
