import DualSlot.Proofs.Bookkeeping

/-! The image that an operation has staged. An operation stages one image at most, works with that image
only until it discards it, and removes other staged images only while it has none. In between it neither
begins nor ends a session. -/

namespace DualSlot

/-- What an operation that has this image staged may ask for. -/
def Action.Tends (kept : Option Staged) : Action → Prop
  | .store .lock | .store (.unlock _) => False
  | .stage _ | .remove _ => kept = none
  | .fill staged _ | .discard staged | .openStaged staged => kept = some staged
  | _ => True

namespace Custody

/-- What is staged after a reply, whatever the reply is. -/
def answers : Surroundings actions (Option Staged)
  | .stage _, _, .ok staged, after => after = some staged
  | .discard _, _, _, after => after = none
  | _, before, _, after => after = before

abbrev Safe (post : α → Option Staged → Prop) (program : Acting α) (kept : Option Staged) : Prop :=
  Program.Safe answers (fun action kept => action.Tends kept) post program kept

instance : Silent answers (fun action kept => action.Tends kept) where
  allowed _ _ _ _ := trivial
  same _ _ _ _ _ _ answer := answer

/-- A request that has nothing to do with staged images. -/
def Aside : Action → Prop
  | .store .lock | .store (.unlock _) | .stage _ | .remove _ | .fill _ _ | .discard _
  | .openStaged _ => False
  | _ => True

variable {kept : Option Staged} {ε : Type} {α : Type}

theorem aside_tends {action : Action} (aside : Aside action) : action.Tends kept := by
  cases action with
  | store request => cases request <;> trivial
  | stage _ | remove _ | fill _ _ | discard _ | openStaged _ => exact aside.elim
  | _ => trivial

theorem aside_keeps {action : Action} {reply : action.Reply} {after : Option Staged}
    (aside : Aside action) (answer : answers action kept reply after) : after = kept := by
  cases action with
  | stage _ | discard _ => exact aside.elim
  | _ => exact answer

theorem aside_of_bookkeeping {action : Action} (books : action.Bookkeeping) : Aside action := by
  cases action with
  | store request => cases request <;> trivial
  | stage _ | remove _ | fill _ _ | discard _ | openStaged _ => exact books.elim
  | _ => trivial

/-- The program leaves staged what is staged. -/
abbrev Keeps (kept : Option Staged) (program : Acting α) : Prop :=
  Safe (fun _ after => after = kept) program kept

theorem keeps_aside {program : Acting α} (only : program.AsksOnly Aside) : Keeps kept program :=
  only.safe (fun _ before aside (_ : before = kept) => aside_tends aside)
    (fun _ _ _ _ aside same answer => (aside_keeps aside answer).trans same) rfl

theorem keeps_books {program : Acting α} (books : program.Books) : Keeps kept program :=
  keeps_aside (books.mono fun _ => aside_of_bookkeeping)

theorem keeps_perform (action : Action) (aside : Aside action) : Keeps kept action.perform :=
  keeps_aside (.ask aside fun _ => .done)

theorem keeps_bind {task : Task ε α} {next : α → Task ε β} (first : Keeps kept task.run)
    (rest : ∀ value, Keeps kept (next value).run) : Keeps kept (task >>= next).run := by
  refine Task.Safe.bind first (fun _ _ same => same) ?_
  rintro value _ rfl
  exact rest value

theorem keeps_lift_bind {program : Acting α} {next : α → Task ε β} (first : Keeps kept program)
    (rest : ∀ value, Keeps kept (next value).run) :
    Keeps kept (liftM program >>= next : Task ε β).run := by
  refine Task.Safe.lift_bind first ?_
  rintro value _ rfl
  exact rest value

theorem keeps_openImage {artifact : Artifact} :
    Keeps (some artifact.staged) artifact.openImage.run :=
  Acting.safe_ask (.openStaged artifact.staged) rfl fun _ _ same => same

theorem keeps_toward {progress : Progress} {next : Stage} {task : Task Failure α}
    (keeps : Keeps kept task.run) : Keeps kept (progress.toward next task).run :=
  Progress.safe_toward keeps

theorem keeps_unlessCancelled {progress : Progress} {next : Stage} :
    Keeps kept (progress.unlessCancelled next).run := by
  refine keeps_toward (keeps_lift_bind (keeps_perform .cancelled trivial) fun cancelled => ?_)
  cases cancelled <;> exact .done rfl

theorem aside_readSidecar (source : Source) (name : String) :
    Task.AsksOnly Aside (Artifact.readSidecar source name) := by
  have opening : Task.AsksOnly Aside (Artifact.openSource source name) := .ask trivial fun _ => .done
  refine .adapt (.bind opening fun opened => ?_) _
  refine .bind (.lift (.ask trivial fun _ => .done)) fun stream => ?_
  cases Artifact.sidecarText stream <;> exact .done

/-- Nothing is left staged of an image that could not be staged. -/
theorem safe_stageImage {source : Source} {name : String} {dir : Path} :
    Safe (Leaves (· = none) fun staged after => after = some staged.1)
      (Artifact.stageImage source name dir).run none := by
  refine Task.Safe.bind (Q := Leaves (· = none) fun staged after => after = some staged) ?_
    (fun _ _ unstaged => unstaged) ?_
  · refine Task.safe_of (Acting.safe_ask (.stage dir) rfl fun reply after answer => ?_)
    cases reply <;> exact answer
  · rintro staged _ rfl
    have copies : Keeps (some staged) (do
        let image ← Artifact.openSource source name
        Task.of id (Action.perform (.fill staged image))).run := by
      refine keeps_bind (keeps_perform (.openSource source name) trivial) fun image => ?_
      exact Task.safe_of (Acting.safe_ask (.fill staged image) rfl fun _ _ same => same)
    refine Task.Safe.lift_bind copies ?_
    rintro copied _ rfl
    cases copied with
    | ok size => exact .done rfl
    | error cause =>
      refine Task.Safe.lift_bind (Acting.safe_ask (.discard staged) rfl fun _ _ gone => gone) ?_
      rintro _ _ rfl
      exact .done rfl

theorem safe_fetch {source : Source} {name : String} {dir : Path} :
    Safe (Leaves (· = none) fun artifact after => after = some artifact.staged)
      (Artifact.fetch source name dir).run none := by
  refine Task.safe_log_bind ?_
  refine Task.Safe.bind (keeps_aside (aside_readSidecar source _)) (fun _ _ same => same) ?_
  rintro checksumText _ rfl
  refine Task.Safe.bind (keeps_aside (aside_readSidecar source _)) (fun _ _ same => same) ?_
  rintro metadataText _ rfl
  refine Task.Safe.bind (Task.safe_adapt (Program.Safe.weaken safe_stageImage fun _ _ leaves =>
    leaves.mapError)) (fun _ _ unstaged => unstaged) ?_
  rintro ⟨staged, size⟩ _ rfl
  exact Task.safe_log_bind (.done rfl)

/-- Other images are removed before one is staged. -/
theorem keeps_cleanStaging {dir : Path} : Keeps none (Artifact.cleanStaging dir).run := by
  have removes (leftovers : List String) :
      Keeps none (leftovers.forM (Artifact.removeLeftover dir)).run := by
    induction leftovers with
    | nil => exact .done rfl
    | cons name later ih =>
      refine keeps_bind (Task.safe_log_bind (Task.safe_of ?_)) fun _ => ih
      exact Acting.safe_ask (.remove _) rfl fun _ _ same => same
  refine Program.Safe.bind (keeps_perform (.list dir) trivial) ?_
  rintro listed _ rfl
  cases listed with
  | error cause =>
    dsimp only
    split <;> exact .done rfl
  | ok names => exact Program.Safe.bind (removes _) fun _ _ same => .done same

theorem keeps_cleanUp {updater : Updater} : Keeps none updater.cleanUp := by
  refine Program.Safe.bind keeps_cleanStaging ?_
  rintro removed _ rfl
  match removed with
  | .ok 0 => exact .done rfl
  | .ok (_ + 1) => exact Acting.safe_log rfl
  | .error _ => exact Acting.safe_log rfl

variable {updater : Updater} {artifact : Artifact}

theorem keeps_verifyChecksum : Keeps (some artifact.staged) (updater.verifyChecksum artifact).run := by
  refine keeps_bind (Task.safe_adapt keeps_openImage) fun image => ?_
  refine keeps_lift_bind (keeps_perform (.receive image .checksum) trivial) fun stream => ?_
  cases stream.contents with
  | error cause => exact .done rfl
  | ok bytes =>
    cases artifact.checksum with
    | error cause => exact Task.safe_log_bind (.done rfl)
    | ok expected =>
      dsimp only
      split <;> exact .done rfl

theorem keeps_verifyIntegrity : Keeps (some artifact.staged) (updater.verifyIntegrity artifact).run := by
  unfold Updater.verifyIntegrity
  cases artifact.metadata with
  | error cause => exact .done rfl
  | ok metadata =>
    cases valid : (metadata.params updater.treeParams).validate with
    | error cause =>
      simp only [valid]
      exact .done rfl
    | ok _ =>
      simp only [valid]
      refine keeps_bind (Task.safe_adapt keeps_openImage) fun image => ?_
      refine keeps_lift_bind (keeps_perform (.receive image .tree) trivial) fun stream => ?_
      cases HashTree.build updater.hash (metadata.params updater.treeParams) stream with
      | error cause => exact .done rfl
      | ok tree =>
        dsimp only
        split
        · exact .done rfl
        · split <;> exact .done rfl

/-- What is done with a checked image leaves it staged; it is discarded after that. -/
theorem keeps_withVerified {source : Source} {image : String}
    {next : Progress → Artifact → HashTree → Task UpdateFailure α}
    (keeps : ∀ progress artifact tree, Keeps (some artifact.staged) (next progress artifact tree).run) :
    Keeps none (updater.withVerified source image next).run := by
  refine keeps_bind keeps_unlessCancelled fun _ => ?_
  refine Task.Safe.bind (Q := Leaves (· = none) fun artifact after => after = some artifact.staged)
    (Progress.safe_toward (Program.Safe.weaken safe_fetch fun _ _ leaves => leaves.mapError))
    (fun _ _ unstaged => unstaged) ?_
  rintro artifact _ rfl
  refine Task.safe_followedBy (Program.Safe.weaken ?_ fun _ after (staged : after = some artifact.staged) => ?_)
  · refine Progress.safe_reached_bind ?_
    refine keeps_bind keeps_unlessCancelled fun _ => ?_
    refine keeps_bind (keeps_toward keeps_verifyChecksum) fun _ => ?_
    refine Progress.safe_reached_bind ?_
    refine keeps_bind keeps_unlessCancelled fun _ => ?_
    refine keeps_bind (keeps_toward keeps_verifyIntegrity) fun tree => ?_
    refine Progress.safe_reached_bind ?_
    exact keeps _ _ _
  · exact Acting.safe_ask (.discard artifact.staged) staged fun _ _ gone => gone

theorem keeps_verify {source : Source} {image : String} :
    Keeps none (updater.verify source image).run := by
  refine keeps_withVerified fun progress artifact tree => keeps_toward ?_
  cases artifact.checksum <;> exact .done rfl

theorem keeps_writeSlot {slot : Slot} : Keeps (some artifact.staged) (Updater.writeSlot slot artifact).run := by
  refine keeps_bind (Task.safe_adapt keeps_openImage) fun image => ?_
  refine keeps_bind (Task.safe_of (keeps_perform (.writeSlot slot image) trivial)) fun written => ?_
  split <;> exact .done rfl

theorem aside_verifyWritten {slot : Slot} {expected : HashTree} :
    Task.AsksOnly Aside (updater.verifyWritten slot artifact expected) := by
  unfold Updater.verifyWritten
  cases artifact.metadata with
  | error cause => exact .done
  | ok metadata =>
    refine .bind (.of (.ask trivial fun _ => .done) _) fun written => ?_
    refine .bind (.lift (.ask trivial fun _ => .done)) fun stream => ?_
    cases HashTree.build updater.hash (metadata.params updater.treeParams) stream with
    | error cause => exact .done
    | ok found =>
      dsimp only
      split
      · exact .done
      · exact .lift (.ask trivial fun _ => .done)

theorem keeps_install {target : Slot} {progress : Progress} {tree : HashTree} :
    Keeps (some artifact.staged) (updater.install target progress artifact tree).run := by
  refine keeps_bind keeps_unlessCancelled fun _ => Task.safe_log_bind ?_
  refine keeps_bind (keeps_toward ?_) fun _ => Progress.safe_reached_bind ?_
  · refine keeps_bind (keeps_books (Task.AsksOnly.adapt (BootMenu.clerical_disable _ _).books _)) fun _ => ?_
    exact keeps_bind (keeps_books (Slots.clerical_clearRecord _).books) fun _ => keeps_writeSlot
  refine keeps_bind (keeps_toward (keeps_aside aside_verifyWritten)) fun _ =>
    Progress.safe_reached_bind ?_
  refine keeps_bind (keeps_toward ?_) fun _ => ?_
  · refine keeps_bind (keeps_books (Slots.clerical_recordHash _ _).books) fun _ => ?_
    exact keeps_bind (keeps_books (Slots.books_commitAs _ _ _)) fun _ => .done rfl
  refine keeps_bind (keeps_toward (keeps_books (BootMenu.clerical_refresh _).books)) fun _ => ?_
  exact Progress.safe_reached_bind (.done rfl)

end Custody

end DualSlot
