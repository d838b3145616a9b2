import DualSlot.Proofs.UpdateProtocol

/-! What a permitted request can do to what persists: change a staged image, the books, the bytes of a
slot, or a file of the menu. -/

namespace DualSlot

/-- What persists after the store carried out a request. -/
def StoreRequest.carriedOut : StoreRequest → Storage → Storage
  | writeBootState state, storage => storage.setBootState state
  | writeRecord record, storage => storage.setRecord record.slot (some record)
  | clearRecord slot, storage => storage.setRecord slot none
  | appendHistory entry, storage => storage.addHistory entry
  | readBootState, storage | readRecord _, storage | readHistory, storage | lock, storage
  | unlock _, storage => storage

theorem StoreRequest.carriedOut_quiet {request : StoreRequest} (quiet : (Action.store request).Quiet)
    (storage : Storage) : request.carriedOut storage = storage := by
  cases request with
  | writeBootState _ | writeRecord _ | clearRecord _ | appendHistory _ => exact quiet.elim
  | readBootState | readRecord _ | readHistory | lock | unlock _ => rfl

namespace Machine

variable {faults : Faults} {before after : Machine}

/-- The store carries out a request or leaves everything as it was. -/
theorem storage_of_storeAnswers {refused : Prop} {request : StoreRequest} {reply : request.Reply}
    (answer : storeAnswers refused request before reply after) :
    after.storage = before.storage ∨ after.storage = request.carriedOut before.storage := by
  cases request with
  | readBootState | readRecord _ | readHistory => exact .inl (congrArg storage answer.1)
  | unlock _ =>
    rw [show after = _ from answer]
    exact .inl rfl
  | lock =>
    cases reply with
    | ok _ =>
      rw [answer.2]
      exact .inl rfl
    | error _ => exact .inl (congrArg storage answer.2)
  | writeBootState _ | writeRecord _ | clearRecord _ | appendHistory _ =>
    cases reply with
    | ok _ => exact .inr (congrArg storage (show after = _ from answer))
    | error _ => exact .inl (congrArg storage answer.2)

end Machine

/-- A path at which an action may put or remove a staged image. -/
def Action.StagesAt : Action → Path → Prop
  | .stage dir, path => ∃ suffix, path = dir.join (Artifact.stagedStem ++ suffix)
  | .fill staged _, path | .discard staged, path => path = staged.path
  | .remove removed, path => path = removed
  | _, _ => False

theorem Action.Quiet.not_stagesAt {action : Action} {path : Path} (quiet : action.Quiet) :
    ¬ action.StagesAt path := by
  cases action with
  | stage _ | fill _ _ | discard _ | remove _ => exact quiet.elim
  | _ => exact id

/-- What a machine may do to what persists when it replies to an action. -/
inductive Action.Change (before : Storage) : Action → Storage → Prop where
  | nothing {action : Action} : Change before action before
  | stored {request : StoreRequest} : Change before (.store request) (request.carriedOut before)
  | staged {action : Action} {path : Path} {contents? : Option Bytes} (place : action.StagesAt path) :
      Change before action (before.setFile path contents?)
  | written {slot : Slot} {image : Opened} {bytes : Bytes} :
      Change before (.writeSlot slot image) (before.setBytes slot bytes)
  | replaced {path : Path} {contents : Bytes} {after : Storage}
      (only : Storage.OnlyFiles (BootMenu.WrittenWith path) before after)
      (found : after.files path = some contents ∨ after.files path = before.files path) :
      Change before (.replace path contents) after

namespace Action.Change

theorem of_eq {action : Action} {before after : Storage} (same : after = before) :
    action.Change before after :=
  same ▸ .nothing

theorem of_answer {faults : Faults} {action : Action} {before after : Machine} {reply : action.Reply}
    (answer : Machine.answers faults action before reply after) :
    action.Change before.storage after.storage := by
  have unchanged (quiet : action.Quiet) : action.Change before.storage after.storage :=
    .of_eq (quiet.keeps answer)
  cases action with
  | store request =>
    obtain same | changed := Machine.storage_of_storeAnswers answer
    · exact .of_eq same
    · exact changed ▸ .stored
  | replace path contents =>
    obtain ⟨only, found⟩ := BootMenu.replace_leaves answer
    cases reply with
    | ok _ => exact .replaced only (.inl found)
    | error cause => exact .replaced only found
  | writeSlot slot image =>
    obtain ⟨-, bytes, rfl⟩ := answer
    exact .written
  | stage dir =>
    cases reply with
    | ok staged =>
      obtain ⟨-, place, rfl⟩ := answer
      exact .staged place
    | error cause => exact .of_eq (congrArg Machine.storage answer.2)
  | fill staged image =>
    obtain ⟨-, contents, rfl⟩ := answer
    exact .staged rfl
  | discard staged =>
    obtain ⟨left, -, rfl⟩ := answer
    exact .staged rfl
  | remove path =>
    cases reply with
    | ok _ =>
      rw [show after = _ from answer]
      exact .staged rfl
    | error cause => exact .of_eq (congrArg Machine.storage answer.2)
  | present _ | read _ | list _ | openSource _ _ | openStaged _ | receive _ _ | openSlot _ _ | now
  | cancelled | log _ _ _ =>
    exact unchanged trivial

end Action.Change

namespace Updater

variable {updater : Updater} {faults : Faults} {target? : Option Slot}

/-- What can come of a request that is permitted. -/
inductive Effect (updater : Updater) (faults : Faults) (target? : Option Slot) (before after : Storage) :
    Prop where
  | staged (beside : Artifact.Beside updater.stagingDir before after)
  | stored {request : StoreRequest} (permitted : updater.Permitted faults target? before (.store request))
      (changed : after = request.carriedOut before)
  | written {slot : Slot} {image : Opened} {bytes : Bytes}
      (permitted : updater.Permitted faults target? before (.writeSlot slot image))
      (changed : after = before.setBytes slot bytes)
  | replaced {path : Path} {contents : Bytes}
      (permitted : updater.Permitted faults target? before (.replace path contents))
      (only : Storage.OnlyFiles (BootMenu.WrittenWith path) before after)
      (found : after.files path = some contents ∨ after.files path = before.files path)

/-- Whatever is permitted of staged images stays in the staging directory. -/
theorem Permitted.stagedIn {storage : Storage} {action : Action} {path : Path}
    (permitted : updater.Permitted faults target? storage action) (place : action.StagesAt path) :
    Artifact.StagedIn updater.stagingDir path := by
  cases permitted with
  | quiet quiet => exact (quiet.not_stagesAt place).elim
  | stage =>
    obtain ⟨suffix, rfl⟩ := place
    exact Artifact.staged_of_suffix _ suffix
  | fill inside | discard inside | remove inside =>
    obtain rfl : path = _ := place
    exact inside
  | _ => exact place.elim

theorem Permitted.effect {action : Action} {before after : Machine} {reply : action.Reply}
    (permitted : updater.Permitted faults target? before.storage action)
    (answer : Machine.answers faults action before reply after) :
    updater.Effect faults target? before.storage after.storage := by
  have change := Action.Change.of_answer answer
  generalize after.storage = later at change
  cases change with
  | nothing => exact .staged (.of_eq rfl)
  | stored => exact .stored permitted rfl
  | staged place => exact .staged (.setFile (permitted.stagedIn place) _ _)
  | written => exact .written permitted rfl
  | replaced only found => exact .replaced permitted only found

end Updater

end DualSlot
