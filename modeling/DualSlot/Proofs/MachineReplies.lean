import DualSlot.Proofs.MachineStorage
import DualSlot.Proofs.ProgramSafety

/-! A machine as its updater meets it: what each action may be replied to, and what it does. A store
that refuses a write is as it was, a file that is not replaced has its old or its new contents, and
writing a slot may leave any bytes in that slot. -/

namespace DualSlot

structure Machine where
  storage : Storage
  /-- Whether a session holds the lock. -/
  locked : Bool
  /-- The slot that an open file reads, if it was opened for reading a slot. -/
  readers : Handle → Option Slot

/-- What may go wrong on a machine. -/
structure Faults where
  refuses : Action → Prop
  /-- What reading a slot may serve in place of its bytes. -/
  serves : (bytes served : Bytes) → Prop

/-- What is read of a slot is a beginning of its bytes. -/
def Faults.Honest (faults : Faults) : Prop :=
  ∀ bytes served, faults.serves bytes served → served <+: bytes

/-- A request is granted, with what then holds of the reply, or refused. -/
def Grants (refused : Prop) (granted : α → Prop) : Except ε α → Prop
  | .ok value => granted value
  | .error _ => refused

namespace Machine

def put (machine : Machine) (storage : Storage) : Machine := { machine with storage }

/-- The machine after a loss of power or the end of the program that was running. -/
def restarted (machine : Machine) : Machine := ⟨machine.storage, false, fun _ => none⟩

def storeAnswers (refused : Prop) :
    (request : StoreRequest) → Machine → request.Reply → Machine → Prop
  | .readBootState, before, reply, after =>
    after = before ∧ Grants refused (· = before.storage.bootState) reply
  | .writeBootState state, before, reply, after =>
    Grants (refused ∧ after = before)
      (fun _ => after = before.put (before.storage.setBootState state)) reply
  | .readRecord slot, before, reply, after =>
    after = before ∧ Grants refused (· = before.storage.record slot) reply
  | .writeRecord record, before, reply, after =>
    Grants (refused ∧ after = before)
      (fun _ => after = before.put (before.storage.setRecord record.slot (some record))) reply
  | .clearRecord slot, before, reply, after =>
    Grants (refused ∧ after = before)
      (fun _ => after = before.put (before.storage.setRecord slot none)) reply
  | .appendHistory entry, before, reply, after =>
    Grants (refused ∧ after = before)
      (fun _ => after = before.put (before.storage.addHistory entry)) reply
  | .readHistory, before, reply, after =>
    after = before ∧ Grants refused (· = before.storage.history) reply
  | .lock, before, reply, after =>
    Grants ((refused ∨ before.locked = true) ∧ after = before)
      (fun _ => before.locked = false ∧ after = { before with locked := true }) reply
  | .unlock _, before, _, after => after = { before with locked := false }

/-- What the machine may reply to an action, and the machine after it. An action fails only if it is
one that may be refused. -/
def answers (faults : Faults) :
    (action : Action) → Machine → action.Reply → Machine → Prop
  | .store request, before, reply, after =>
    storeAnswers (faults.refuses (.store request)) request before reply after
  | .present path, before, reply, after =>
    after = before ∧ reply = (before.storage.files path).isSome
  | .read path, before, reply, after =>
    after = before ∧ Grants (faults.refuses (.read path)) (· = before.storage.files path) reply
  | .replace path contents, before, reply, after =>
    ∃ draft found,
      after = before.put ((before.storage.setFile (Durable.draft path) draft).setFile path found) ∧
      Grants (faults.refuses (.replace path contents) ∧
          (found = some contents ∨ found = before.storage.files path))
        (fun _ => found = some contents) reply
  | .list dir, before, reply, after =>
    after = before ∧ Grants (faults.refuses (.list dir)) (fun _ => True) reply
  | .remove path, before, reply, after =>
    Grants (faults.refuses (.remove path) ∧ after = before)
      (fun _ => after = before.put (before.storage.setFile path none)) reply
  | .stage dir, before, reply, after =>
    Grants (faults.refuses (.stage dir) ∧ after = before)
      (fun staged => before.storage.files staged.path = none ∧
        (∃ suffix, staged.path = dir.join (Artifact.stagedStem ++ suffix)) ∧
        after = before.put (before.storage.setFile staged.path (some []))) reply
  | .fill staged image, before, reply, after =>
    Grants (faults.refuses (.fill staged image)) (fun _ => True) reply ∧
      ∃ contents, after = before.put (before.storage.setFile staged.path contents)
  | .discard staged, before, _, after =>
    ∃ left, (left = none ∨ left = before.storage.files staged.path) ∧
      after = before.put (before.storage.setFile staged.path left)
  | .openSource source name, before, reply, after =>
    Grants (faults.refuses (.openSource source name) ∧ after = before)
      (fun opened => after =
        { before with readers := Function.update before.readers opened.file none }) reply
  | .openStaged staged, before, reply, after =>
    Grants (faults.refuses (.openStaged staged) ∧ after = before)
      (fun opened => after =
        { before with readers := Function.update before.readers opened.file none }) reply
  | .receive opened _, before, stream, after =>
    after = before ∧
      ∀ slot, before.readers opened.file = some slot →
        faults.serves (before.storage.bytes slot) stream.rest
  | .writeSlot slot image, before, reply, after =>
    Grants (faults.refuses (.writeSlot slot image)) (fun _ => True) reply ∧
      ∃ bytes, after = before.put (before.storage.setBytes slot bytes)
  | .openSlot slot length, before, reply, after =>
    Grants (faults.refuses (.openSlot slot length) ∧ after = before)
      (fun opened => after =
        { before with readers := Function.update before.readers opened.file (some slot) }) reply
  | .now, before, _, after => after = before
  | .cancelled, before, _, after => after = before
  | .log _ _ _, before, _, after => after = before

end Machine

/-- Actions that leave everything that persists as it is. -/
def Action.Quiet : Action → Prop
  | .store (.writeBootState _) | .store (.writeRecord _) | .store (.clearRecord _)
  | .store (.appendHistory _) | .replace _ _ | .remove _ | .stage _ | .fill _ _ | .discard _
  | .writeSlot _ _ => False
  | _ => True

variable {faults : Faults}

theorem Action.Quiet.keeps {action : Action} {before after : Machine} {reply : action.Reply}
    (quiet : action.Quiet) (answer : Machine.answers faults action before reply after) :
    after.storage = before.storage := by
  cases action with
  | store request =>
    cases request with
    | readBootState | readRecord _ | readHistory => rw [answer.1]
    | unlock _ => rw [show after = _ from answer]
    | lock =>
      cases reply with
      | ok _ => rw [answer.2]
      | error _ => rw [answer.2]
    | _ => exact quiet.elim
  | present _ | read _ | list _ | receive _ _ => rw [answer.1]
  | openSource _ _ | openStaged _ | openSlot _ _ =>
    cases reply with
    | ok _ => rw [show after = _ from answer]
    | error _ => rw [answer.2]
  | now | cancelled | log _ _ _ => rw [show after = _ from answer]
  | _ => exact quiet.elim

end DualSlot
