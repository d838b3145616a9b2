import DualSlot.Proofs.Cancellation
import DualSlot.Proofs.KnownSlots

/-! The history of a machine on which nothing is lost of it. A slot is made active by one write of the boot state,
and whatever does this tells the history of it before it does anything else that counts. The history is therefore
the list of these writes, in their order, whatever failed before or after any of them. -/

namespace DualSlot

/-- What it counts as if the activity makes a slot active, if it may do this on a machine that was set up. -/
def Activity.commitsAs? : Activity → Option Outcome
  | operate (.update _ _) => some .success
  | operate .rollback => some .rollback
  | provision _ _ _ | operate (.verify _ _) | operate .confirm | operate .bootAttempt => none

/-- A slot that was made active, and by what. -/
structure Activation where
  outcome : Outcome
  activeSlot : Slot
  deriving DecidableEq, Repr

def HistoryEntry.activation (entry : HistoryEntry) : Activation := ⟨entry.outcome, entry.activeSlot⟩

/-- A request that was made in the course of an activity, and the reply. -/
structure Exchange where
  activity : Activity
  action : Action
  reply : action.Reply

/-- The slot that is made active with a boot state that was written. -/
def Exchange.activation? : Exchange → Option Activation
  | ⟨activity, .store (.writeBootState state), .ok _⟩ => activity.commitsAs?.map (⟨·, state.activeSlot⟩)
  | _ => none

/-- What neither makes a slot active nor tells the history of anything. -/
def Activity.Uneventful (activity : Activity) : Action → Prop
  | .store (.appendHistory _) => False
  | .store (.writeBootState _) => activity.commitsAs? = none
  | _ => True

namespace Action

variable {action : Action} {activity : Activity}

theorem Preparing.uneventful (preparing : action.Preparing) : activity.Uneventful action := by
  cases action with
  | store request =>
    cases request with
    | writeBootState _ | appendHistory _ => exact preparing.elim
    | _ => trivial
  | _ => trivial

theorem Forgetful.uneventful (forgetful : action.Forgetful) (commitless : activity.commitsAs? = none) :
    activity.Uneventful action := by
  cases action with
  | store request =>
    cases request with
    | writeBootState _ => exact commitless
    | appendHistory _ => exact forgetful.elim
    | _ => trivial
  | _ => trivial

theorem Clerical.uneventful (clerical : action.Clerical) : activity.Uneventful action := by
  cases action with
  | store request =>
    cases request with
    | writeBootState _ | appendHistory _ => exact clerical.elim
    | _ => trivial
  | _ => trivial

end Action

/-- Whatever the program makes active it tells the history of, before it makes anything else active or ends. What
it was made active before may be yet to be told. -/
inductive Reports (activity : Activity) {α : Type} : Option Activation → Acting α → Prop
  | done {value} : Reports activity none (.done value)
  | passes {untold? action next} (uneventful : activity.Uneventful action)
      (later : ∀ reply, Reports activity untold? (next reply)) : Reports activity untold? (.ask action next)
  | activates {outcome state} {next : Except StoreError Unit → Acting α}
      (commits : activity.commitsAs? = some outcome) (refused : ∀ cause, Reports activity none (next (.error cause)))
      (granted : Reports activity (some ⟨outcome, state.activeSlot⟩) (next (.ok ()))) :
      Reports activity none (.ask (.store (.writeBootState state)) next)
  | tells {activation entry} {next : Except StoreError Unit → Acting α} (names : entry.activation = activation)
      (granted : Reports activity none (next (.ok ()))) :
      Reports activity (some activation) (.ask (.store (.appendHistory entry)) next)

namespace Reports

variable {activity : Activity} {untold? : Option Activation} {α β ε ε' : Type}

theorem bind {program : Acting α} {next : α → Acting β} (first : Reports activity untold? program)
    (rest : ∀ value, Reports activity none (next value)) : Reports activity untold? (program.bind next) := by
  induction first with
  | done => exact rest _
  | passes uneventful _ ih => exact .passes uneventful ih
  | activates commits _ _ refused granted => exact .activates commits refused granted
  | tells names _ ih => exact .tells names ih

theorem of_asksOnly {program : Acting α} (only : program.AsksOnly activity.Uneventful) :
    Reports activity none program := by
  induction only with
  | done => exact .done
  | ask uneventful _ ih => exact .passes uneventful ih

theorem task_bind {task : Task ε α} {rest : α → Task ε β} (first : Reports activity none task.run)
    (later : ∀ value, Reports activity none (rest value).run) : Reports activity none (task >>= rest).run := by
  refine Reports.bind first fun result => ?_
  cases result with
  | ok value => exact later value
  | error cause => exact .done

theorem lift_bind {program : Acting α} {rest : α → Task ε β} (first : Reports activity none program)
    (later : ∀ value, Reports activity none (rest value).run) :
    Reports activity none (liftM program >>= rest : Task ε β).run :=
  task_bind (Reports.bind first fun _ => .done) later

theorem adapt {task : Task ε α} (reports : Reports activity none task.run) (reason : ε → ε') :
    Reports activity none (task.adapt reason).run :=
  Reports.bind reports fun _ => .done

theorem followedBy {task : Task ε α} {after : Acting Unit} (reports : Reports activity none task.run)
    (only : after.AsksOnly activity.Uneventful) : Reports activity none (task.followedBy after).run :=
  Reports.bind reports fun _ => Reports.bind (of_asksOnly only) fun _ => .done

theorem toward {progress : Progress} {next : Stage} {task : Task Failure α}
    (reports : Reports activity none task.run) : Reports activity none (progress.toward next task).run := by
  refine Reports.bind reports fun result => ?_
  cases result with
  | ok value => exact .done
  | error cause => exact .passes trivial fun _ => .done

theorem reached_bind {progress : Progress} {stage : Stage} {rest : Progress → Task UpdateFailure α}
    (later : ∀ reached, Reports activity none (rest reached).run) :
    Reports activity none (liftM (progress.reached stage) >>= rest : Task UpdateFailure α).run :=
  lift_bind (.passes trivial fun _ => .done) later

theorem unlessCancelled (progress : Progress) (next : Stage) :
    Reports activity none (progress.unlessCancelled next).run := by
  refine toward (lift_bind (.passes trivial fun _ => .done) fun cancelled => ?_)
  cases cancelled <;> exact .done

theorem alone {task : Task Failure α} (reports : Reports activity none task.run) :
    Reports activity none (Session.alone task).run :=
  task_bind (of_asksOnly (Task.AsksOnly.of (Acting.asksOnly_perform (.store .lock) trivial) _)) fun held =>
    followedBy reports (Acting.asksOnly_perform (.store (.unlock held)) trivial)

theorem preparing {task : Task ε α} (preparing : Task.AsksOnly Action.Preparing task) :
    Reports activity none task.run :=
  of_asksOnly (Program.AsksOnly.mono preparing fun _ => Action.Preparing.uneventful)

theorem clerical {task : Task ε α} (clerical : task.Clerical) : Reports activity none task.run :=
  of_asksOnly (Program.AsksOnly.mono clerical fun _ => Action.Clerical.uneventful)

theorem forgetful {task : Task ε α} (forgetful : task.Forgetful) (commitless : activity.commitsAs? = none) :
    Reports activity none task.run :=
  of_asksOnly (Program.AsksOnly.mono forgetful fun _ asked => asked.uneventful commitless)

/-- Only a commit is of any consequence, and it tells of itself. -/
theorem commitAs {maxBootCount : UInt32} {outcome : Outcome} {target : Slot}
    (commits : activity.commitsAs? = some outcome) :
    Reports activity none (Slots.commitAs maxBootCount outcome target).run := by
  refine task_bind (clerical (Slots.clerical_record? target)) fun found => ?_
  cases found with
  | none => exact .done
  | some record =>
    refine .activates commits (fun _ => .done) (.passes trivial fun _ => .passes trivial fun time => ?_)
    exact .tells rfl .done

/-- What fetches and checks an artifact reports if what follows does. -/
theorem withVerified {updater : Updater} {source : Source} {image : String}
    {next : Progress → Artifact → HashTree → Task UpdateFailure α}
    (later : ∀ progress artifact tree, Reports activity none (next progress artifact tree).run) :
    Reports activity none (updater.withVerified source image next).run := by
  refine task_bind (unlessCancelled _ _) fun _ => ?_
  refine task_bind (toward (preparing (Artifact.steady_fetch _ _ _).asks)) fun artifact => ?_
  refine followedBy ?_ (Acting.asksOnly_perform (.discard artifact.staged) trivial)
  refine reached_bind fun progress => ?_
  refine task_bind (unlessCancelled _ _) fun _ => ?_
  refine task_bind (toward (preparing Updater.steady_verifyChecksum.asks)) fun _ => ?_
  refine reached_bind fun progress => ?_
  refine task_bind (unlessCancelled _ _) fun _ => ?_
  refine task_bind (toward (preparing Updater.steady_verifyIntegrity.asks)) fun tree => ?_
  exact reached_bind fun progress => later progress artifact tree

theorem writeSlot {target : Slot} {artifact : Artifact} :
    Reports activity none (Updater.writeSlot target artifact).run := by
  refine task_bind (adapt (preparing artifact.preparing_openImage) _) fun image => ?_
  refine task_bind (of_asksOnly (Task.AsksOnly.of (Acting.asksOnly_perform (.writeSlot target image) trivial) _))
    fun written => ?_
  by_cases short : written ≠ artifact.imageSize
  · rw [if_pos short]
    exact .done
  · rw [if_neg short]
    exact .done

theorem verifyWritten {updater : Updater} {target : Slot} {artifact : Artifact} {expected : HashTree} :
    Reports activity none (updater.verifyWritten target artifact expected).run := by
  unfold Updater.verifyWritten
  cases artifact.metadata with
  | error cause => exact .done
  | ok metadata =>
    refine task_bind (.passes trivial fun _ => .done) fun opened => ?_
    refine lift_bind (.passes trivial fun _ => .done) fun stream => ?_
    cases HashTree.build updater.hash (metadata.params updater.treeParams) stream with
    | error cause => exact .done
    | ok found =>
      by_cases differs : found.rootHash ≠ expected.rootHash ∨ found.imageSize ≠ expected.imageSize
      · simp only [if_pos differs]
        exact .done
      · simp only [if_neg differs]
        exact .passes trivial fun _ => .done

theorem install {updater : Updater} {target : Slot} {progress : Progress} {artifact : Artifact} {tree : HashTree}
    (commits : activity.commitsAs? = some .success) :
    Reports activity none (updater.install target progress artifact tree).run := by
  refine task_bind (unlessCancelled _ _) fun _ => ?_
  refine lift_bind (.passes trivial fun _ => .done) fun _ => ?_
  refine task_bind (toward ?_) fun _ => reached_bind fun written => ?_
  · refine task_bind (adapt (clerical (updater.menu.clerical_disable target)) _) fun _ => ?_
    exact task_bind (clerical (Slots.clerical_clearRecord target)) fun _ => writeSlot
  refine task_bind (toward verifyWritten) fun _ => reached_bind fun verified => ?_
  refine task_bind (toward ?_) fun _ => ?_
  · refine task_bind (clerical (Slots.clerical_recordHash target _)) fun _ => ?_
    exact task_bind (commitAs commits) fun _ => .done
  refine task_bind (toward (clerical updater.menu.clerical_refresh)) fun _ => ?_
  exact reached_bind fun _ => .done

theorem update {updater : Updater} {source : Source} {image : String}
    (commits : activity.commitsAs? = some .success) : Reports activity none (updater.update source image).run := by
  refine task_bind (toward (of_asksOnly (Task.AsksOnly.of (Acting.asksOnly_perform (.store .lock) trivial) _)))
    fun held => ?_
  refine followedBy ?_ (Acting.asksOnly_perform (.store (.unlock held)) trivial)
  refine task_bind (toward (clerical Slots.clerical_bootState)) fun state => ?_
  refine lift_bind (of_asksOnly (updater.preparing_cleanUp.mono fun _ => Action.Preparing.uneventful)) fun _ => ?_
  refine withVerified fun progress artifact tree => ?_
  exact task_bind (install commits) fun _ => .done

theorem rollback {updater : Updater} (commits : activity.commitsAs? = some .rollback) :
    Reports activity none updater.rollback.run := by
  refine alone (task_bind (clerical Slots.clerical_active) fun previous => ?_)
  refine task_bind (clerical (Slots.clerical_record? _)) fun found => ?_
  cases found with
  | none => exact .done
  | some record =>
    refine task_bind (commitAs commits) fun _ => task_bind (clerical updater.menu.clerical_refresh) fun _ => ?_
    exact .passes trivial fun _ => .done

theorem verify {updater : Updater} {source : Source} {image : String} :
    Reports activity none (updater.verify source image).run := by
  refine withVerified fun progress artifact tree => toward ?_
  cases artifact.checksum <;> exact .done

end Reports

/-- Every activity tells the history of all that it makes active. -/
theorem Activity.reports (updater : Updater) (activity : Activity) : Reports activity none (activity.program updater) := by
  cases activity with
  | provision active rootHash force =>
    refine Reports.bind (Reports.alone ?_) fun _ => .done
    refine .task_bind (.forgetful (Slots.forgetful_provision _ _ _ _) rfl) fun state => ?_
    exact .task_bind (.clerical updater.menu.clerical_refresh) fun _ => .done
  | operate operation =>
    cases operation with
    | update source image => exact Reports.bind (Reports.update rfl) fun _ => .done
    | verify source image => exact Reports.bind Reports.verify fun _ => .done
    | rollback => exact Reports.bind (Reports.rollback rfl) fun _ => .done
    | confirm =>
      refine Reports.bind (Reports.alone ?_) fun _ => .done
      refine .task_bind (.forgetful (Slots.forgetful_confirm _) rfl) fun state => ?_
      exact .task_bind (.clerical updater.menu.clerical_refresh) fun _ => .done
    | bootAttempt =>
      refine Reports.bind (Reports.alone ?_) fun _ => .done
      refine .task_bind (.forgetful Slots.forgetful_recordBootAttempt rfl) fun state => ?_
      exact .task_bind (.clerical updater.menu.clerical_refresh) fun _ => .passes trivial fun _ => .done

/-- What has been asked for since a machine was started, where that has led, and the activity that is under way with
what is left of it. Each activity is one of an updater of its own, and nothing stops one before its end. -/
inductive Chronicle (faults : Faults) (start : Machine) :
    List Exchange → Machine → Option (Activity × Acting Unit) → Prop
  | start : Chronicle faults start [] start none
  | begins {exchanges machine} (updater : Updater) (activity : Activity)
      (earlier : Chronicle faults start exchanges machine none) :
      Chronicle faults start exchanges machine (some (activity, activity.program updater))
  | acts {exchanges before activity action next reply after}
      (earlier : Chronicle faults start exchanges before (some (activity, .ask action next)))
      (answer : Machine.answers faults action before reply after) :
      Chronicle faults start (exchanges ++ [⟨activity, action, reply⟩]) after (some (activity, next reply))
  | ends {exchanges machine activity}
      (earlier : Chronicle faults start exchanges machine (some (activity, .done ()))) :
      Chronicle faults start exchanges machine none

namespace Activity.Uneventful

variable {activity : Activity} {action : Action}

/-- Nothing but an entry makes the history longer. -/
theorem history (uneventful : activity.Uneventful action) {faults : Faults} {before after : Machine}
    {reply : action.Reply} (answer : Machine.answers faults action before reply after) :
    after.storage.history = before.storage.history := by
  have change := Action.Change.of_answer answer
  generalize after.storage = later at change ⊢
  cases change with
  | nothing | staged | written => rfl
  | @stored request =>
    cases request with
    | appendHistory _ => exact uneventful.elim
    | _ => rfl
  | replaced only _ => exact only.history

theorem activation? (uneventful : activity.Uneventful action) (reply : action.Reply) :
    Exchange.activation? ⟨activity, action, reply⟩ = none := by
  cases action with
  | store request =>
    cases request with
    | writeBootState state =>
      cases reply with
      | ok _ => exact Option.map_eq_none_iff.2 uneventful
      | error _ => rfl
    | _ => rfl
  | _ => rfl

end Activity.Uneventful

/-- The activations that a machine's history tells of, with one that is yet to be told. -/
def Machine.accounted (machine : Machine) (untold? : Option Activation) : List Activation :=
  machine.storage.history.map HistoryEntry.activation ++ untold?.toList

/-- With each reply there is one activation more to account for, or none. -/
theorem Reports.step {activity : Activity} {untold? : Option Activation} {action : Action} {α : Type}
    {next : action.Reply → Acting α} {faults : Faults} {before after : Machine} {reply : action.Reply}
    (remembers : ∀ entry, ¬ faults.refuses (.store (.appendHistory entry)))
    (reports : Reports activity untold? (.ask action next)) (answer : Machine.answers faults action before reply after) :
    ∃ remaining?, Reports activity remaining? (next reply) ∧
      after.accounted remaining? = before.accounted untold? ++ (Exchange.activation? ⟨activity, action, reply⟩).toList := by
  cases reports with
  | passes uneventful later =>
    refine ⟨untold?, later reply, ?_⟩
    rw [Machine.accounted, uneventful.history answer, uneventful.activation? reply]
    exact (List.append_nil _).symm
  | @activates outcome state _ commits refused granted =>
    cases reply with
    | error cause =>
      refine ⟨none, refused cause, ?_⟩
      rw [answer.2]
      exact (List.append_nil _).symm
    | ok _ =>
      have activation : Exchange.activation? ⟨activity, .store (.writeBootState state), .ok ()⟩ =
          some ⟨outcome, state.activeSlot⟩ := congrArg (Option.map _) commits
      refine ⟨some ⟨outcome, state.activeSlot⟩, granted, ?_⟩
      rw [show after = _ from answer, activation, Machine.accounted, Machine.accounted, Option.toList_none,
        List.append_nil]
      rfl
  | @tells activation entry _ names granted =>
    cases reply with
    | error cause => exact (remembers entry answer.1).elim
    | ok _ =>
      have longer : after.storage.history = before.storage.history ++ [entry] :=
        congrArg (fun machine => machine.storage.history) answer
      refine ⟨none, granted, ?_⟩
      rw [Machine.accounted, longer, List.map_append, List.map_singleton, names]
      rfl

namespace Chronicle

variable {faults : Faults} {start machine : Machine} {exchanges : List Exchange}
  {left? : Option (Activity × Acting Unit)}

/-- The history tells of every activation, but for one that what is under way is about to tell of. -/
theorem told (remembers : ∀ entry, ¬ faults.refuses (.store (.appendHistory entry)))
    (empty : start.storage.history = []) (chronicle : Chronicle faults start exchanges machine left?) :
    ∃ untold?, (∀ activity program, left? = some (activity, program) → Reports activity untold? program) ∧
      (left? = none → untold? = none) ∧ machine.accounted untold? = exchanges.filterMap Exchange.activation? := by
  -- What is left to do knows which activation is yet to be told; between activities there is none.
  induction chronicle with
  | start =>
    refine ⟨none, nofun, fun _ => rfl, ?_⟩
    rw [Machine.accounted, empty]
    rfl
  | begins updater activity _ ih =>
    obtain ⟨untold?, -, settled, accounted⟩ := ih
    obtain rfl := settled rfl
    refine ⟨none, ?_, nofun, accounted⟩
    rintro _ _ ⟨⟩
    exact activity.reports updater
  | ends _ ih =>
    obtain ⟨untold?, reports, -, accounted⟩ := ih
    cases reports _ _ rfl with
    | done => exact ⟨none, nofun, fun _ => rfl, accounted⟩
  | acts _ answer ih =>
    obtain ⟨untold?, reports, -, accounted⟩ := ih
    obtain ⟨remaining?, later, more⟩ := (reports _ _ rfl).step remembers answer
    refine ⟨remaining?, ?_, nofun, ?_⟩
    · rintro _ _ ⟨⟩
      exact later
    · rw [more, accounted, List.filterMap_append, List.filterMap_cons, List.filterMap_nil]
      cases Exchange.activation? _ <;> rfl

end Chronicle

/-- A machine after some activities of a small updater, one after the other. -/
def Machine.after (machine : Machine) (temper : Temper) (activities : List Activity) : Machine :=
  activities.foldl (fun machine activity => ((activity.program .small).run temper.answer machine).2) machine

namespace Chronicle

variable {temper : Temper} {start machine : Machine} {exchanges : List Exchange}

theorem run {activity : Activity} {program : Acting Unit}
    (chronicle : Chronicle temper.faults start exchanges machine (some (activity, program))) :
    ∃ later, Chronicle temper.faults start later (program.run temper.answer machine).2 none := by
  induction program generalizing exchanges machine with
  | done value => exact ⟨exchanges, chronicle.ends⟩
  | ask action next ih => exact ih _ (chronicle.acts (temper.sound action machine))

theorem after (chronicle : Chronicle temper.faults start exchanges machine none) (activities : List Activity) :
    ∃ later, Chronicle temper.faults start later (machine.after temper activities) none := by
  induction activities generalizing machine exchanges with
  | nil => exact ⟨exchanges, chronicle⟩
  | cons activity activities ih =>
    obtain ⟨later, ended⟩ := (chronicle.begins .small activity).run
    exact ih ended

end Chronicle

/-- A machine that replaces no file, so that the boot menu is never brought in line. -/
def Temper.menuless : Temper := .refusing fun
  | .replace _ _ => true
  | _ => false

/-- Such a machine after it was provisioned, updated and rolled back. -/
def rolledBack : Machine := Machine.blank.after .menuless
  [.provision .a Digest.zero.hex false, .operate (.update (.directory ⟨"/d"⟩) "i"), .operate .rollback]

end DualSlot
