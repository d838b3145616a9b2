import DualSlot.Proofs.ObligingMachine
import DualSlot.Proofs.StreamDelivery
import DualSlot.Proofs.TaskEndings

/-! A machine on which it is seen what becomes of an image: which stream each open file delivers, which
streams were handed to a slot, and where images were staged. It replies as a machine does, and its
staging area keeps what is written there. -/

namespace DualSlot

/-- What is outside of the machine's own storage. -/
structure Peripherals where
  offers : Source → String → Stream
  /-- What writing a stream to a slot that reports no failure may make of the slot's bytes. -/
  stores : (image : Stream) → (before after : Bytes) → Prop

/-- A machine and what was seen of its streams. -/
structure Observed where
  machine : Machine
  behind : Handle → Stream
  /-- The streams that were handed to slots, the earliest first. -/
  writes : List (Slot × Stream)
  staged : List Path

namespace Observed

def ofMachine (machine : Machine) : Observed := ⟨machine, fun _ => .ofBytes [], [], []⟩

def turned (before : Observed) (machine : Machine) : Observed := { before with machine }

def opening (before : Observed) (opened : Opened) (stream : Stream) (machine : Machine) : Observed :=
  { before with machine, behind := Function.update before.behind opened.file stream }

def delivers (observed : Observed) (opened : Opened) : Stream :=
  match opened.limit with
  | none => observed.behind opened.file
  | some limit => (observed.behind opened.file).take limit

/-- What is seen of an action beside the machine's reply. -/
def Follows (peripherals : Peripherals) :
    (action : Action) → Observed → action.Reply → Observed → Prop
  | .openSource source name, before, reply, after =>
    match reply with
    | .ok opened => opened.limit = none ∧
      after = before.opening opened (peripherals.offers source name) after.machine
    | .error _ => after = before.turned after.machine
  | .openStaged staged, before, reply, after =>
    match reply with
    | .ok opened => opened.limit = none ∧ ∃ stream : Stream,
      (∀ image, before.machine.storage.files staged.path = some image → stream.Carries image) ∧
      after = before.opening opened stream after.machine
    | .error _ => after = before.turned after.machine
  | .receive opened _, before, stream, after =>
    after = before.turned after.machine ∧
      (before.machine.readers opened.file = none → stream = before.delivers opened)
  | .fill staged image, before, reply, after =>
    after = before.turned after.machine ∧
      ∀ count, reply = .ok count → ∃ bytes, (before.delivers image).drain = (bytes, none) ∧
        count = bytes.length ∧ after.machine.storage.files staged.path = some bytes
  | .stage dir, before, reply, after =>
    match reply with
    | .ok staged => (∃ suffix : String, '/' ∉ suffix.toList ∧
        staged.path = dir.join (Artifact.stagedStem ++ suffix)) ∧
      after = { before with machine := after.machine, staged := before.staged ++ [staged.path] }
    | .error _ => after = before.turned after.machine
  | .discard staged, before, _, after =>
    after = before.turned after.machine ∧ after.machine.storage.files staged.path = none
  | .writeSlot slot image, before, reply, after =>
    after = { before with
      machine := after.machine, writes := before.writes ++ [(slot, before.delivers image)] } ∧
      ∀ count, reply = .ok count → peripherals.stores (before.delivers image)
        (before.machine.storage.bytes slot) (after.machine.storage.bytes slot)
  | _, before, _, after => after = before.turned after.machine

def answers (faults : Faults) (peripherals : Peripherals) : Surroundings actions Observed :=
  fun action before reply after =>
    Machine.answers faults action before.machine reply after.machine ∧
      Follows peripherals action before reply after

/-- No image was staged and none handed to a slot in between. -/
structure Spared (before after : Observed) : Prop where
  writes : after.writes = before.writes
  staged : after.staged = before.staged

theorem Spared.trans {before middle after : Observed} (first : Spared before middle)
    (last : Spared middle after) : Spared before after :=
  ⟨last.writes.trans first.writes, last.staged.trans first.staged⟩

variable {faults : Faults} {peripherals : Peripherals} {start final : Observed} {ε α : Type}

theorem eq_of_turned {before after : Observed} (same : after.machine = before.machine)
    (turned : after = before.turned after.machine) : after = before := by
  rw [turned, same]
  rfl

theorem answers_silent (faults : Faults) (peripherals : Peripherals) :
    Surroundings.Silent (answers faults peripherals) where
  log _ _ _ _ _ _ answer := eq_of_turned answer.1 answer.2
  cancelled _ _ _ answer := eq_of_turned answer.1 answer.2

end Observed

def Action.Sparing : Action → Prop
  | stage _ | writeSlot _ _ => False
  | _ => True

theorem Action.Quiet.sparing {action : Action} (quiet : action.Quiet) : action.Sparing := by
  cases action with
  | stage _ | writeSlot _ _ => exact quiet
  | _ => trivial

def Discipline.sparing : Discipline := ⟨fun action _ => action.Sparing, fun _ _ quiet => quiet.sparing⟩

namespace Observed

variable {faults : Faults} {peripherals : Peripherals} {start final : Observed} {ε α : Type}

theorem Follows.spared {action : Action} (sparing : action.Sparing) {before after : Observed}
    {reply : action.Reply} (follows : Follows peripherals action before reply after) :
    Spared before after := by
  have unseen (turned : after = before.turned after.machine) : Spared before after := by
    rw [turned]
    exact ⟨rfl, rfl⟩
  cases action with
  | stage _ | writeSlot _ _ => exact sparing.elim
  | openSource _ _ =>
    cases reply with
    | ok opened =>
      rw [follows.2]
      exact ⟨rfl, rfl⟩
    | error _ => exact unseen follows
  | openStaged _ =>
    cases reply with
    | ok opened =>
      obtain ⟨-, stream, -, seen⟩ := follows
      rw [seen]
      exact ⟨rfl, rfl⟩
    | error _ => exact unseen follows
  | receive _ _ | fill _ _ | discard _ => exact unseen follows.1
  | _ => exact unseen follows

theorem ends_machine {program : Acting α} {value : α}
    (ended : Program.Ends (answers faults peripherals) program start value final) :
    Program.Ends (Machine.answers faults) program start.machine value final.machine :=
  Program.Reaches.seen Observed.machine (fun _ _ _ _ answer => answer.1) ended

/-- What is known of a program that stages no image and writes to no slot holds on the machine, and
nothing of the kind is seen of it. -/
theorem ends_spared {program : Acting α} {value : α} {post : α → Machine → Prop}
    (ended : Program.Ends (answers faults peripherals) program start value final)
    (safe : Acting.Safe faults .sparing post program start.machine) :
    post value final.machine ∧ Spared start final := by
  have seen : Program.Safe (answers faults peripherals) (fun action _ => action.Sparing)
      (fun value (state : Observed) => post value state.machine) program start :=
    Program.Safe.seen Observed.machine (fun _ _ _ _ answer => answer.1) safe
  refine ⟨seen.ends ended, ?_⟩
  refine seen.invariant (Spared start) ?_ ended ⟨rfl, rfl⟩
  exact fun action before reply after sparing spared answer => spared.trans (answer.2.spared sparing)

theorem yields_spared {task : Task ε α} {value : α} {post : Except ε α → Machine → Prop}
    (ended : Task.Yields (answers faults peripherals) task start value final)
    (safe : Task.Safe faults .sparing post task start.machine) :
    post (.ok value) final.machine ∧ Spared start final :=
  ends_spared ended safe

end Observed

/-- Sources that deliver what they have in one piece, and slots that a stream is written to in some way. -/
structure Outfit where
  offers : Source → String → Bytes
  stores : (image before : Bytes) → Bytes

namespace Outfit

def peripherals (outfit : Outfit) : Peripherals where
  offers source name := .ofBytes (outfit.offers source name)
  stores image before after := ∃ bytes, image.drain = (bytes, none) ∧ after = outfit.stores bytes before

/-- Anything may be refused, and what is read of a slot is a beginning of its bytes. -/
def faults : Faults := ⟨fun _ => True, fun bytes served => served <+: bytes⟩

theorem faults_honest : faults.Honest := fun _ _ served => served

def readable (opened : Opened) (bytes : Bytes) : Bytes :=
  match opened.limit with
  | some limit => bytes.take limit
  | none => bytes

theorem readable_prefix (opened : Opened) (bytes : Bytes) : readable opened bytes <+: bytes := by
  unfold readable
  split
  · exact List.take_prefix _ _
  · exact List.prefix_rfl

/-- The machine does what it is asked for, and streams go where they are sent. -/
def answer (outfit : Outfit) : (action : Action) → Observed → action.Reply × Observed
  | .openSource source name, before => (.ok ⟨0, none⟩,
      before.opening ⟨0, none⟩ (.ofBytes (outfit.offers source name)) (before.machine.reading 0 none))
  | .openStaged staged, before => (.ok ⟨0, none⟩, before.opening ⟨0, none⟩
      (.ofBytes ((before.machine.storage.files staged.path).getD [])) (before.machine.reading 0 none))
  | .receive opened _, before =>
    (match before.machine.readers opened.file with
      | some slot => .ofBytes (readable opened (before.machine.storage.bytes slot))
      | none => before.delivers opened, before)
  | .fill staged image, before =>
    match (before.delivers image).drain with
    | (bytes, none) => (.ok bytes.length, before.turned
        (before.machine.put (before.machine.storage.setFile staged.path (some bytes))))
    | (_, some cause) => (.error cause, before)
  | .stage dir, before =>
    match before.machine.obliges (fun _ => []) (.stage dir) with
    | (.ok staged, machine) =>
      (.ok staged, { before with machine, staged := before.staged ++ [staged.path] })
    | (.error cause, machine) => (.error cause, before.turned machine)
  | .writeSlot slot image, before =>
    let handed := { before with writes := before.writes ++ [(slot, before.delivers image)] }
    match (before.delivers image).drain with
    | (bytes, none) => (.ok bytes.length, handed.turned (before.machine.put
        (before.machine.storage.setBytes slot (outfit.stores bytes (before.machine.storage.bytes slot)))))
    | (_, some cause) => (.error cause, handed)
  | action, before =>
    ((before.machine.obliges (fun _ => []) action).1,
      before.turned (before.machine.obliges (fun _ => []) action).2)

theorem sound (outfit : Outfit) (action : Action) (before : Observed) :
    Observed.answers faults outfit.peripherals action before (outfit.answer action before).1
      (outfit.answer action before).2 := by
  have obliges : Machine.answers faults action before.machine
      (before.machine.obliges (fun _ => []) action).1 (before.machine.obliges (fun _ => []) action).2 :=
    Machine.obliges_answers _ (fun _ => trivial) (fun _ => List.prefix_rfl) action
  cases action with
  | openSource source name => exact ⟨rfl, rfl, rfl⟩
  | openStaged staged =>
    refine ⟨rfl, rfl, _, fun image found => ?_, rfl⟩
    rw [found]
    exact .ofBytes image
  | receive opened purpose =>
    refine ⟨⟨rfl, fun slot reads => ?_⟩, rfl, fun reads => ?_⟩
    · simp only [answer, reads]
      exact readable_prefix opened _
    · simp only [answer, reads]
  | fill staged image =>
    simp only [answer]
    split
    next bytes drained =>
      refine ⟨⟨trivial, some bytes, rfl⟩, rfl, ?_⟩
      rintro _ ⟨⟩
      exact ⟨bytes, drained, rfl, Function.update_self ..⟩
    next =>
      refine ⟨⟨trivial, before.machine.storage.files staged.path, ?_⟩, rfl, ?_⟩
      · rw [Storage.setFile_self]
        rfl
      · exact fun _ impossible => by cases impossible
  | stage dir =>
    simp only [answer]
    split
    next staged machine made =>
      rw [made] at obliges
      have place : staged.path = dir.join Machine.stagedName := by
        simp only [Machine.obliges] at made
        split at made <;> cases made
        rfl
      exact ⟨obliges, ⟨"0", by decide, place⟩, rfl⟩
    next cause machine refused =>
      rw [refused] at obliges
      exact ⟨obliges, rfl⟩
  | writeSlot slot image =>
    simp only [answer]
    split
    next bytes drained =>
      refine ⟨⟨trivial, _, rfl⟩, rfl, fun _ _ => ⟨bytes, drained, ?_⟩⟩
      exact Function.update_self ..
    next =>
      refine ⟨⟨trivial, before.machine.storage.bytes slot, ?_⟩, rfl, ?_⟩
      · rw [Storage.setBytes_self]
        rfl
      · exact fun _ impossible => by cases impossible
  | discard staged => exact ⟨obliges, rfl, Function.update_self ..⟩
  | store _ | present _ | read _ | replace _ _ | list _ | remove _ | openSlot _ _ | now | cancelled
  | log _ _ _ => exact ⟨obliges, rfl⟩

end Outfit

end DualSlot
