import DualSlot.Host
import DualSlot.Simulation.Media
import DualSlot.Simulation.World
import DualSlot.Store.Memory

/-!
A bench for the updater: a simulated system on which the store and the slots may be in memory,
sources may fail, and something may happen just before an action.
-/

namespace DualSlot.Simulation

/-- What happens before an action. -/
inductive Disturbance where
  | cancel
  /-- From now on the store in memory rejects writes, or takes them. -/
  | reject (value : Bool)
  /-- The action fails, and nothing else happens before it. -/
  | fail (reason : String)
  | change (change : FileChange)
  deriving DecidableEq, Repr

/-- What happens on an event, which is named, with or without a number after it that says which
occurrence is meant. -/
structure Hook where
  event : String
  disturbances : List Disturbance

structure Bench where
  world : World
  host : Host
  /-- The store, if it is not on disk. -/
  store : Option MemoryStore
  /-- The slots, if they are not on disk. -/
  media : Option Media
  hooks : List Hook
  /-- How often each event has occurred. -/
  occurrences : List (String × Nat)
  /-- How the streams of a source behave, by their names. -/
  sourceFaults : List (String × (Bytes → Stream))

namespace Bench

def disturb (bench : Bench) : List Disturbance → Except IoError Unit × Bench
  | [] => (.ok (), bench)
  | .cancel :: rest => disturb { bench with world.cancelled := true } rest
  | .reject value :: rest =>
    disturb { bench with
      store := bench.store.map fun store => { store with rejecting := value } } rest
  | .fail reason :: _ => (.error (.other reason), bench)
  | .change change :: rest => disturb { bench with world := (bench.world.change change).2 } rest

/-- Lets happen what is to happen on an event. -/
def fire (event : String) (bench : Bench) : Except IoError Unit × Bench :=
  let count := (bench.occurrences.lookup event).getD 0 + 1
  let due := bench.hooks.filter fun hook =>
    hook.event = event || hook.event = s!"{event}#{count}"
  disturb { bench with occurrences := assign event count bench.occurrences }
    (due.flatMap Hook.disturbances)

/-- Runs a program over calls in the bench's world. -/
def onWorld (program : Hosted α) (bench : Bench) : α × Bench :=
  let (value, world) := bench.world.run program
  (value, { bench with world })

/-- An action that what happens before it may keep from being done. -/
def after (event : String) (action : Bench → Except IoError α × Bench) (bench : Bench) :
    Except IoError α × Bench :=
  match bench.fire event with
  | (.ok (), bench) => action bench
  | (.error cause, bench) => (.error cause, bench)

def serve (stream : Stream) (bench : Bench) : Except IoError Opened × Bench :=
  let (handle, world) := bench.world.hold (.stream stream)
  (.ok ⟨handle, none⟩, { bench with world })

/-- A stream that is to misbehave is read as it is first. -/
def openSource (source : Source) (name : String) (bench : Bench) :
    Except IoError Opened × Bench :=
  let (reply, bench) := bench.onWorld (bench.host.realise (.openSource source name))
  match reply, bench.sourceFaults.lookup name with
  | .ok opened, some misbehave =>
    let (stream, bench) := bench.onWorld (Host.receive opened)
    match stream.contents with
    | .ok bytes => bench.serve (misbehave bytes)
    | .error cause => (.error cause, bench)
  | reply, _ => (reply, bench)

def writeSlot (slot : Slot) (image : Opened) (bench : Bench) :
    Except IoError Nat × Bench :=
  match bench.media with
  | none => bench.onWorld (bench.host.realise (.writeSlot slot image))
  | some media =>
    let (stream, bench) := bench.onWorld (Host.receive image)
    let (reply, media) := media.write slot stream
    (reply, { bench with media := some media })

def openSlot (slot : Slot) (length : Nat) (bench : Bench) :
    Except IoError Opened × Bench :=
  match bench.media with
  | none => bench.onWorld (bench.host.realise (.openSlot slot length))
  | some media => bench.serve (media.read slot length)

def askStore (request : StoreRequest) (bench : Bench) : request.Reply × Bench :=
  match bench.store with
  | none => bench.onWorld (bench.host.store.realise request)
  | some store =>
    let (reply, store) := store.answer request
    (reply, { bench with store := some store })

/-- How the bench replies to an action. -/
def answer : (action : Action) → Bench → action.Reply × Bench
  | .store request, bench => askStore request bench
  | .openSource source name, bench => after s!"open:{name}" (openSource source name) bench
  | .receive opened .tree, bench =>
    match bench.fire "build" with
    | (.ok (), bench) => bench.onWorld (Host.receive opened)
    | (.error cause, bench) => (.broken cause, bench)
  | .writeSlot slot image, bench => after "write" (writeSlot slot image) bench
  | .openSlot slot length, bench => after "read_back" (openSlot slot length) bench
  | action, bench => bench.onWorld (bench.host.realise action)

/-- Runs a program over actions on the bench. -/
def run (bench : Bench) (program : Acting α) : α × Bench := program.run Bench.answer bench

end Bench

end DualSlot.Simulation
