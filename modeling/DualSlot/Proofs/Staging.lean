import DualSlot.Proofs.TaskSafety

/-! Fetching an artifact. Nothing of a machine changes but files among the staged images. -/

namespace DualSlot

def Artifact.StagedIn (dir path : Path) : Prop :=
  ∃ name : String, stagedStem.toList <+: name.toList ∧ path = dir.join name

/-- Staged images may be made, filled and removed at any time. -/
structure Discipline.Stages (discipline : Discipline) (dir : Path) : Prop where
  stage : ∀ storage, discipline.allows (.stage dir) storage
  fill : ∀ staged image storage, Artifact.StagedIn dir staged.path →
    discipline.allows (.fill staged image) storage
  discard : ∀ staged storage, Artifact.StagedIn dir staged.path →
    discipline.allows (.discard staged) storage
  remove : ∀ path storage, Artifact.StagedIn dir path → discipline.allows (.remove path) storage

namespace Artifact

variable {faults : Faults} {discipline : Discipline} {machine : Machine} {dir : Path}

/-- Nothing differs but staged images. -/
abbrev Beside (dir : Path) (before after : Storage) : Prop :=
  Storage.OnlyFiles (StagedIn dir) before after

/-- Staged images are below the staging directory. -/
theorem StagedIn.below {path : Path} (inside : StagedIn dir path) :
    dir.text.toList <+: path.text.toList := by
  obtain ⟨name, named, rfl⟩ := inside
  have relative : name.toList.head? ≠ some '/' := by
    obtain ⟨rest, text⟩ := named
    rw [← text]
    exact fun same => by cases same
  unfold Path.join
  rw [if_neg relative]
  split <;> simp [List.append_assoc]

theorem staged_of_suffix (dir : Path) (suffix : String) :
    StagedIn dir (dir.join (stagedStem ++ suffix)) :=
  ⟨stagedStem ++ suffix, by simp, rfl⟩

theorem quiet_openImage (artifact : Artifact) : Task.Quiet artifact.openImage :=
  Acting.quiet_perform _ trivial

theorem quiet_openSource (source : Source) (name : String) : Task.Quiet (openSource source name) :=
  Acting.quiet_perform _ trivial

theorem quiet_readSidecar (source : Source) (name : String) : Task.Quiet (readSidecar source name) := by
  refine Task.AsksOnly.adapt (Task.AsksOnly.bind (quiet_openSource source name) fun opened => ?_) _
  refine Task.AsksOnly.bind (Task.AsksOnly.lift (Acting.quiet_perform _ trivial)) fun stream => ?_
  cases sidecarText stream with
  | ok text => exact .done
  | error cause => exact .done

theorem safe_discard (stages : discipline.Stages dir) {staged : Staged}
    (inside : StagedIn dir staged.path) :
    Acting.Safe faults discipline (fun _ after => Beside dir machine.storage after.storage)
      (Action.perform (.discard staged)) machine := by
  refine Acting.safe_perform _ (stages.discard _ _ inside) ?_
  rintro _ after ⟨left, -, rfl⟩
  exact .setFile inside _ _

theorem safe_stageImage (stages : discipline.Stages dir) {source : Source} {name : String} :
    Task.Safe faults discipline
      (fun result after => Beside dir machine.storage after.storage ∧
        Leaves (fun _ => True) (fun staged _ => StagedIn dir staged.1.path) result after)
      (stageImage source name dir) machine := by
  refine Task.Safe.bind (Q := fun result after => Beside dir machine.storage after.storage ∧
    Leaves (fun _ => True) (fun staged _ => StagedIn dir staged.path) result after) ?_
    (fun _ _ ⟨beside, _⟩ => ⟨beside, trivial⟩) ?_
  · refine Task.safe_of (Acting.safe_perform _ (stages.stage _) fun reply after answer => ?_)
    cases reply with
    | ok staged =>
      obtain ⟨-, ⟨suffix, path⟩, rfl⟩ := answer
      have inside : StagedIn dir staged.path := path ▸ staged_of_suffix dir suffix
      exact ⟨.setFile inside _ _, inside⟩
    | error cause => exact ⟨.of_eq (congrArg Machine.storage answer.2), trivial⟩
  · rintro staged middle ⟨beside, inside⟩
    refine Task.Safe.bind (Q := Leaves (fun _ => False)
      fun _ after => Beside dir machine.storage after.storage)
      (Task.safe_outcome ?_) (fun _ _ never => never.elim) ?_
    · refine Task.Safe.bind (Q := Leaves (fun after : Machine =>
        Beside dir machine.storage after.storage)
        fun _ after => Beside dir machine.storage after.storage) ?_ (fun _ _ beside => beside) ?_
      · refine Program.Safe.weaken (Acting.Quiet.safe (quiet_openSource source name)) ?_
        intro result after same
        cases result <;> exact beside.trans (.of_eq same)
      · intro image after beside
        refine Task.safe_of (Acting.safe_perform _ (stages.fill _ _ _ inside) ?_)
        rintro reply last ⟨-, contents, rfl⟩
        exact beside.trans (.setFile inside _ _)
    · intro copied after beside
      cases copied with
      | ok size => exact .done ⟨beside, inside⟩
      | error cause =>
        refine Task.Safe.lift_bind (safe_discard stages inside) fun _ last discarded => ?_
        exact .done ⟨beside.trans discarded, trivial⟩

theorem safe_fetch (stages : discipline.Stages dir) {source : Source} {name : String} :
    Task.Safe faults discipline
      (fun result after => Beside dir machine.storage after.storage ∧
        Leaves (fun _ => True) (fun artifact _ => StagedIn dir artifact.staged.path) result after)
      (fetch source name dir) machine := by
  refine Task.safe_log_bind ?_
  refine Task.Safe.bind (Acting.Quiet.safe (quiet_readSidecar _ _))
    (fun _ _ same => ⟨.of_eq same, trivial⟩) fun checksumText first same => ?_
  refine Task.Safe.bind (Acting.Quiet.safe (quiet_readSidecar _ _))
    (fun _ _ kept => ⟨.of_eq (kept.trans same), trivial⟩) fun metadataText second kept => ?_
  have before : Beside dir machine.storage second.storage := .of_eq (kept.trans same)
  refine Task.Safe.bind (Q := fun result after => Beside dir second.storage after.storage ∧
    Leaves (fun _ => True) (fun staged _ => StagedIn dir staged.1.path) result after)
    (Task.safe_adapt_leaves (safe_stageImage stages))
    (fun _ _ ⟨beside, _⟩ => ⟨before.trans beside, trivial⟩) ?_
  rintro ⟨staged, size⟩ after ⟨beside, inside⟩
  exact Task.safe_log_bind (.done ⟨before.trans beside, inside⟩)

theorem safe_removeLeftovers
    (removes : ∀ path storage, StagedIn dir path → discipline.allows (.remove path) storage)
    {names : List String}
    (staged : ∀ name ∈ names, stagedStem.toList <+: name.toList) :
    Task.Safe faults discipline (fun _ after => Beside dir machine.storage after.storage)
      (names.forM (removeLeftover dir)) machine := by
  induction names generalizing machine with
  | nil => exact .done (.of_eq rfl)
  | cons name names ih =>
    change Task.Safe _ _ _ (removeLeftover dir name >>= fun _ => names.forM (removeLeftover dir)) _
    refine Task.Safe.bind (Q := fun _ after => Beside dir machine.storage after.storage) ?_
      (fun _ _ beside => beside) ?_
    · refine Task.safe_log_bind (Task.safe_of (Acting.safe_perform _ (removes _ _ ?_) ?_))
      · exact ⟨name, staged name List.mem_cons_self, rfl⟩
      · intro reply after answer
        cases reply with
        | ok _ =>
          rw [show after = _ from answer]
          exact .setFile ⟨name, staged name List.mem_cons_self, rfl⟩ _ _
        | error cause => exact .of_eq (congrArg Machine.storage answer.2)
    · intro _ after beside
      exact Program.Safe.weaken (ih fun other inside => staged other (List.mem_cons_of_mem _ inside))
        fun _ _ later => beside.trans later

theorem safe_cleanStaging
    (removes : ∀ path storage, StagedIn dir path → discipline.allows (.remove path) storage) :
    Task.Safe faults discipline (fun _ after => Beside dir machine.storage after.storage)
      (cleanStaging dir) machine := by
  refine Acting.Safe.bind (Acting.safe_perform _ (discipline.quiet _ _ trivial)
    fun _ _ answer => answer) ?_
  rintro reply after ⟨rfl, -⟩
  cases reply with
  | error cause => exact .done (.of_eq rfl)
  | ok names =>
    refine Program.Safe.bind (safe_removeLeftovers removes ?_) fun _ _ beside => .done beside
    intro name leftover
    exact List.isPrefixOf_iff_prefix.1 (List.mem_filter.1 leftover).2

/-- Cleaning up asks for nothing but a listing and removals, and tells of it. -/
theorem asksOnly_cleanStaging {property : Action → Prop} (lists : ∀ dir, property (.list dir))
    (removes : ∀ path, property (.remove path)) (logs : ∀ topic level text, property (.log topic level text))
    (dir : Path) : Task.AsksOnly property (cleanStaging dir) := by
  have removing (leftovers : List String) : Task.AsksOnly property (leftovers.forM (removeLeftover dir)) := by
    induction leftovers with
    | nil => exact .done
    | cons name later ih =>
      refine Task.AsksOnly.bind (.bind (.lift (.ask (logs _ _ _) fun _ => .done)) fun _ => ?_) fun _ => ih
      exact .of (.ask (removes _) fun _ => .done) _
  apply Program.AsksOnly.bind (.ask (lists _) fun _ => .done)
  intro listed
  cases listed with
  | error cause => exact .done
  | ok names => exact Program.AsksOnly.bind (removing _) fun _ => .done

end Artifact

theorem Updater.asksOnly_cleanUp {property : Action → Prop} (lists : ∀ dir, property (.list dir))
    (removes : ∀ path, property (.remove path)) (logs : ∀ topic level text, property (.log topic level text))
    (updater : Updater) : updater.cleanUp.AsksOnly property := by
  apply Program.AsksOnly.bind (Artifact.asksOnly_cleanStaging lists removes logs _)
  intro removed
  cases removed with
  | error _ => exact .ask (logs _ _ _) fun _ => .done
  | ok count =>
    cases count with
    | zero => exact .done
    | succ _ => exact .ask (logs _ _ _) fun _ => .done

theorem Updater.safe_cleanUp {faults : Faults} {discipline : Discipline} {machine : Machine}
    (updater : Updater)
    (removes : ∀ path storage, Artifact.StagedIn updater.stagingDir path →
      discipline.allows (.remove path) storage) :
    Acting.Safe faults discipline
      (fun _ after => Artifact.Beside updater.stagingDir machine.storage after.storage)
      updater.cleanUp machine := by
  refine Program.Safe.bind (Artifact.safe_cleanStaging removes) fun result after beside => ?_
  match result with
  | .ok 0 => exact .done beside
  | .ok (_ + 1) => exact Acting.safe_log beside
  | .error _ => exact Acting.safe_log beside

end DualSlot
