import DualSlot.Proofs.UpdateProtocol

/-! A machine that does what it is asked for as plainly as it can, or refuses it. It is one of the
machines that updaters may meet, and its runs can be computed. -/

namespace DualSlot

/-- What a machine refuses, and what the sources that it reaches deliver. -/
structure Temper where
  refuses : Action → Bool
  delivers : Purpose → Bytes

/-- How the store refuses a request, if it can. -/
def StoreRequest.refusal : (request : StoreRequest) → Option request.Reply
  | readBootState | writeBootState _ | readRecord _ | writeRecord _ | clearRecord _
  | appendHistory _ | readHistory => some (.error .rejected)
  | lock => some (.error .locked)
  | unlock _ => none

def Action.refusal : (action : Action) → Option action.Reply
  | store request => request.refusal
  | read _ | replace _ _ | list _ | remove _ | stage _ | fill _ _ | openSource _ _ | openStaged _
  | writeSlot _ _ | openSlot _ _ => some (.error .notFound)
  | present _ | discard _ | receive _ _ | now | cancelled | log _ _ _ => none

namespace Machine

def locking (machine : Machine) (locked : Bool) : Machine := { machine with locked }

def reading (machine : Machine) (file : Handle) (slot? : Option Slot) : Machine :=
  { machine with readers := Function.update machine.readers file slot? }

/-- The store does what it is asked for. -/
def storeObliges : (request : StoreRequest) → Machine → request.Reply × Machine
  | .readBootState, machine => (.ok machine.storage.bootState, machine)
  | .writeBootState state, machine => (.ok (), machine.put (machine.storage.setBootState state))
  | .readRecord slot, machine => (.ok (machine.storage.record slot), machine)
  | .writeRecord record, machine =>
    (.ok (), machine.put (machine.storage.setRecord record.slot (some record)))
  | .clearRecord slot, machine => (.ok (), machine.put (machine.storage.setRecord slot none))
  | .appendHistory entry, machine => (.ok (), machine.put (machine.storage.addHistory entry))
  | .readHistory, machine => (.ok machine.storage.history, machine)
  | .lock, machine =>
    if machine.locked then (.error .locked, machine) else (.ok .flag, machine.locking true)
  | .unlock _, machine => ((), machine.locking false)

def stagedName : String := Artifact.stagedStem ++ "0"

/-- The machine does what it is asked for. An image has to be staged where nothing is. -/
def obliges (delivers : Purpose → Bytes) : (action : Action) → Machine → action.Reply × Machine
  | .store request, machine => storeObliges request machine
  | .present path, machine => ((machine.storage.files path).isSome, machine)
  | .read path, machine => (.ok (machine.storage.files path), machine)
  | .replace path contents, machine => (.ok (), machine.put
      ((machine.storage.setFile (Durable.draft path) none).setFile path (some contents)))
  | .list dir, machine =>
    (.ok ([stagedName].filter fun name => (machine.storage.files (dir.join name)).isSome), machine)
  | .remove path, machine => (.ok (), machine.put (machine.storage.setFile path none))
  | .stage dir, machine =>
    let path := dir.join stagedName
    if (machine.storage.files path).isSome then (.error .alreadyExists, machine)
    else (.ok ⟨path, 0⟩, machine.put (machine.storage.setFile path (some [])))
  | .fill staged _, machine =>
    (.ok (delivers .tree).length, machine.put (machine.storage.setFile staged.path (delivers .tree)))
  | .discard staged, machine => ((), machine.put (machine.storage.setFile staged.path none))
  | .openSource _ _, machine => (.ok ⟨0, none⟩, machine.reading 0 none)
  | .openStaged _, machine => (.ok ⟨0, none⟩, machine.reading 0 none)
  | .receive opened purpose, machine =>
    (.ofBytes ((machine.readers opened.file).elim (delivers purpose) machine.storage.bytes), machine)
  | .writeSlot slot _, machine =>
    (.ok (delivers .tree).length, machine.put (machine.storage.setBytes slot (delivers .tree)))
  | .openSlot slot length, machine => (.ok ⟨0, some length⟩, machine.reading 0 (some slot))
  | .now, machine => (0, machine)
  | .cancelled, machine => (false, machine)
  | .log _ _ _, machine => ((), machine)

end Machine

namespace Temper

def answer (temper : Temper) (action : Action) (machine : Machine) : action.Reply × Machine :=
  match action.refusal with
  | some refusal =>
    if temper.refuses action then (refusal, machine) else machine.obliges temper.delivers action
  | none => machine.obliges temper.delivers action

def faults (temper : Temper) : Faults where
  refuses action := temper.refuses action = true ∨ ∃ dir, action = .stage dir
  serves bytes served := served = bytes

theorem honest (temper : Temper) : temper.faults.Honest := by
  rintro bytes _ rfl
  exact List.prefix_rfl

end Temper

namespace Machine

variable {faults : Faults} {machine : Machine}

/-- A refusal leaves everything as it was. -/
theorem refusal_answers {action : Action} {refusal : action.Reply}
    (refusable : action.refusal = some refusal) (refused : faults.refuses action) :
    answers faults action machine refusal machine := by
  cases action with
  | store request =>
    cases request with
    | unlock _ => cases refusable
    | readBootState | readRecord _ | readHistory =>
      obtain rfl := Option.some_inj.1 refusable
      exact ⟨rfl, refused⟩
    | writeBootState _ | writeRecord _ | clearRecord _ | appendHistory _ =>
      obtain rfl := Option.some_inj.1 refusable
      exact ⟨refused, rfl⟩
    | lock =>
      obtain rfl := Option.some_inj.1 refusable
      exact ⟨.inl refused, rfl⟩
  | read _ | list _ =>
    obtain rfl := Option.some_inj.1 refusable
    exact ⟨rfl, refused⟩
  | remove _ | stage _ | openSource _ _ | openStaged _ | openSlot _ _ =>
    obtain rfl := Option.some_inj.1 refusable
    exact ⟨refused, rfl⟩
  | replace path contents =>
    obtain rfl := Option.some_inj.1 refusable
    exact ⟨_, _, by rw [Storage.setFile_self, Storage.setFile_self]; rfl, refused, .inr rfl⟩
  | fill staged image =>
    obtain rfl := Option.some_inj.1 refusable
    exact ⟨refused, _, by rw [Storage.setFile_self]; rfl⟩
  | writeSlot slot image =>
    obtain rfl := Option.some_inj.1 refusable
    exact ⟨refused, _, by rw [Storage.setBytes_self]; rfl⟩
  | present _ | discard _ | receive _ _ | now | cancelled | log _ _ _ => cases refusable

theorem storeObliges_answers {refused : Prop} (request : StoreRequest) :
    storeAnswers refused request machine (storeObliges request machine).1
      (storeObliges request machine).2 := by
  cases request with
  | lock =>
    cases held : machine.locked with
    | true =>
      simp only [storeObliges, held, if_true]
      exact ⟨.inr held, rfl⟩
    | false =>
      simp only [storeObliges, held]
      exact ⟨held, rfl⟩
  | readBootState | readRecord _ | readHistory => exact ⟨rfl, rfl⟩
  | writeBootState _ | writeRecord _ | clearRecord _ | appendHistory _ | unlock _ => exact rfl

theorem obliges_answers (delivers : Purpose → Bytes) (occupied : ∀ dir, faults.refuses (.stage dir))
    (served : ∀ bytes, faults.serves bytes bytes) (action : Action) :
    answers faults action machine (obliges delivers action machine).1
      (obliges delivers action machine).2 := by
  cases action with
  | store request => exact storeObliges_answers request
  | present _ | read _ => exact ⟨rfl, rfl⟩
  | list _ => exact ⟨rfl, trivial⟩
  | replace path contents => exact ⟨_, _, rfl, rfl⟩
  | stage dir =>
    by_cases found : (machine.storage.files (dir.join stagedName)).isSome = true
    · simp only [obliges, found, if_true]
      exact ⟨occupied dir, rfl⟩
    · simp only [obliges, found]
      exact ⟨Option.not_isSome_iff_eq_none.1 found, ⟨"0", rfl⟩, rfl⟩
  | discard staged => exact ⟨none, .inl rfl, rfl⟩
  | fill staged image => exact ⟨trivial, _, rfl⟩
  | writeSlot slot image => exact ⟨trivial, _, rfl⟩
  | receive opened purpose =>
    refine ⟨rfl, fun slot reads => ?_⟩
    simp only [obliges, reads]
    exact served _
  | remove _ | openSource _ _ | openStaged _ | openSlot _ _ | now | cancelled | log _ _ _ => exact rfl

end Machine

/-- The machine replies as updaters may be replied to. -/
theorem Temper.sound (temper : Temper) (action : Action) (machine : Machine) :
    Machine.answers temper.faults action machine (temper.answer action machine).1
      (temper.answer action machine).2 := by
  have obliging : Machine.answers temper.faults action machine
      (machine.obliges temper.delivers action).1 (machine.obliges temper.delivers action).2 :=
    Machine.obliges_answers _ (fun dir => Or.inr ⟨dir, rfl⟩) (fun _ => rfl) action
  unfold answer
  cases refusable : action.refusal with
  | none => exact obliging
  | some refusal =>
    by_cases refused : temper.refuses action = true
    · simp only [if_pos refused]
      exact Machine.refusal_answers refusable (.inl refused)
    · simp only [if_neg refused]
      exact obliging

def Action.overwrites : Action → Bool
  | writeSlot _ _ => true
  | _ => false

def Action.activates : Action → Bool
  | store (.writeBootState _) => true
  | _ => false

def Action.replaces (path : Path) : Action → Bool
  | replace other _ => other == path
  | _ => false

/-- A small updater: its entries hold nothing but their fields, and it takes every image for another. -/
def Updater.small : Updater where
  maxBootCount := 3
  menu := ⟨⟨"/e"⟩, ⟨"/l"⟩, ⟨"", "", "", "", "", 3⟩, 3⟩
  stagingDir := ⟨"/s"⟩
  treeParams := ⟨512, 64, []⟩
  hash _ := .zero

theorem Updater.small_plain : small.menu.templates.Plain := by
  constructor
  all_goals
    intro slot
    cases slot <;> decide

theorem Updater.small_apart : small.Apart := by
  have below (path : Path) (outside : ¬ small.stagingDir.text.toList <+: path.text.toList) :
      ¬ Artifact.StagedIn small.stagingDir path := fun inside => outside inside.below
  refine ⟨fun slot => ?_, fun slot => ?_, fun slot => ?_, fun slot => below _ ?_, below _ ?_⟩
  · cases slot <;> exact not_or.2 (by decide +kernel)
  · cases slot <;> exact not_or.2 (by decide +kernel)
  · cases slot <;> exact not_or.2 (by decide +kernel)
  · cases slot <;> decide +kernel
  · decide +kernel

/-- It finds its root hash in everything. -/
theorem Updater.small_isRootWithin (bytes : Bytes) :
    HashTree.IsRootWithin small.hash .zero bytes :=
  ⟨small.treeParams, 0, rfl, by rw [List.take_zero]; rfl⟩

/-- A machine that refuses some requests, with sources that deliver an image of one byte. -/
def Temper.refusing (refuses : Action → Bool) : Temper where
  refuses
  delivers
    | .sidecar => Bytes.ofString Digest.zero.hex
    | .checksum | .tree => [1]

/-- A machine that refuses nothing that it can do. -/
def Temper.obliging : Temper := refusing fun _ => false

/-- A machine that nothing was ever installed on. -/
def Machine.blank : Machine :=
  ⟨⟨none, fun _ => none, [], fun _ => [], fun _ => none⟩, false, fun _ => none⟩

/-- A machine that runs a slot, which has a record. -/
def Machine.running (slot : Slot) : Machine :=
  blank.put ((blank.storage.setBootState ⟨slot, 3⟩).setRecord slot (some ⟨slot, Digest.zero.hex, 0⟩))

end DualSlot
