import DualSlot.Proofs.Custody

/-! The shape of what runs in a session. Its first request is for the lock. Without the lock nothing comes
of it but messages and a failure; with the lock it gives the lock back in its last request, on every
way to its end. -/

namespace DualSlot

/-- A request that leaves the lock alone. -/
def Action.BesideLock : Action → Prop
  | .store .lock | .store (.unlock _) => False
  | _ => True

namespace Custody

theorem exists_answer (action : Action) (kept : Option Staged) (reply : action.Reply) :
    ∃ after, answers action kept reply after := by
  cases action with
  | stage _ => cases reply <;> exact ⟨_, rfl⟩
  | _ => exact ⟨_, rfl⟩

theorem besideLock_of_tends {action : Action} {kept : Option Staged} (tends : action.Tends kept) :
    action.BesideLock := by
  cases action with
  | store request => cases request <;> trivial
  | _ => trivial

/-- An operation that looks after its staged image leaves the lock alone. -/
theorem Safe.besideLock {program : Acting α} {post : α → Option Staged → Prop} {kept : Option Staged}
    (safe : Safe post program kept) : program.AsksOnly Action.BesideLock := by
  induction safe with
  | done _ => exact .done
  | ask allowed _ ih =>
    refine .ask (besideLock_of_tends allowed) fun reply => ?_
    obtain ⟨after, answer⟩ := exists_answer _ _ reply
    exact ih reply after answer

end Custody

/-- What is left of a program that holds the lock: it gives the lock back last, and only then. -/
inductive Program.HoldsLock (held : Guard) : Acting α → Prop where
  | acts {action next} (beside : action.BesideLock) (later : ∀ reply, HoldsLock held (next reply)) :
      HoldsLock held (.ask action next)
  | ends {value} : HoldsLock held (.ask (.store (.unlock held)) fun _ => .done value)

theorem Program.HoldsLock.not_done {held : Guard} {program : Acting α} (holds : program.HoldsLock held)
    (value : α) : program ≠ .done value := by
  rintro rfl
  cases holds

/-- Nothing is left of a program but messages and its value. -/
inductive Program.Dismissed (value : α) : Acting α → Prop where
  | done : Dismissed value (.done value)
  | logs {topic level text next} (later : Dismissed value (next ())) :
      Dismissed value (.ask (.log topic level text) next)

/-- The program begins with a request for the lock. If that is refused it comes to the value that goes
with the refusal. -/
inductive Program.OpensSession (refusal : Failure → α) : Acting α → Prop where
  | asks {next : Except StoreError Guard → Acting α}
      (granted : ∀ held, HoldsLock held (next (.ok held)))
      (refused : ∀ cause, Dismissed (refusal (.ofSession cause)) (next (.error cause))) :
      OpensSession refusal (.ask (.store .lock) next)

namespace Session

theorem during_holdsLock {held : Guard} {task : Task ε α}
    (only : Task.AsksOnly Action.BesideLock task) : Program.HoldsLock held (during held task).run := by
  have ends : ∀ {program : Acting (Except ε α)}, program.AsksOnly Action.BesideLock →
      Program.HoldsLock held (program >>= fun result => do
        Slots.ask (.unlock held)
        return result) := by
    intro program only
    induction only with
    | done => exact .ends
    | ask beside _ ih => exact .acts beside ih
  exact ends only

theorem alone_opens {task : Task Failure α} (only : Task.AsksOnly Action.BesideLock task) :
    Program.OpensSession (fun cause => .error cause) (alone task).run :=
  .asks (fun _ => during_holdsLock only) fun _ => .done

end Session

/-- What runs in a session of its own. -/
inductive SessionCall where
  | update (source : Source) (image : String)
  | rollback
  | provision (active : Slot) (rootHash : String) (force : Bool)
  | confirm
  | bootAttempt
  deriving DecidableEq, Repr

namespace SessionCall

@[reducible] def Result : SessionCall → Type
  | update _ _ => Except UpdateFailure UpdateReport
  | rollback => Except Failure RollbackReport
  | provision _ _ _ | confirm | bootAttempt => Except Failure BootState

def program (updater : Updater) : (call : SessionCall) → Acting call.Result
  | update source image => (updater.update source image).run
  | rollback => updater.rollback.run
  | provision active rootHash force => (updater.provision active rootHash force).run
  | confirm => updater.confirm.run
  | bootAttempt => updater.bootAttempt.run

/-- How a call fails whose session could not begin. -/
def refusal : (call : SessionCall) → Failure → call.Result
  | update _ _, cause => .error (Progress.start.fail .fetching cause)
  | rollback, cause => .error cause
  | provision _ _ _, cause => .error cause
  | confirm, cause => .error cause
  | bootAttempt, cause => .error cause

theorem update_opens (updater : Updater) (source : Source) (image : String) :
    Program.OpensSession (refusal (.update source image)) (updater.update source image).run := by
  refine .asks (fun held => ?_) fun cause => .logs .done
  refine Session.during_holdsLock (Custody.Safe.besideLock (show Custody.Keeps none _ from ?_))
  refine Custody.keeps_bind (Custody.keeps_toward (Custody.keeps_books Slots.clerical_bootState.books))
    fun state => ?_
  refine Custody.keeps_lift_bind Custody.keeps_cleanUp fun _ => ?_
  refine Custody.keeps_withVerified fun progress artifact tree => ?_
  exact Custody.keeps_bind Custody.keeps_install fun _ => .done rfl

theorem besideLock_of_books {task : Task ε α} (books : task.Books) :
    Task.AsksOnly Action.BesideLock task :=
  (show Custody.Keeps none task.run from Custody.keeps_books books).besideLock

/-- A session that keeps the books and then brings the menu in line. -/
theorem refreshing_opens {updater : Updater} {task : Task Failure BootState}
    {rest : BootState → Task Failure BootState} (books : task.Books)
    (restBooks : ∀ state, (rest state).Books) :
    Program.OpensSession (fun cause => .error cause) (Session.alone do
      let state ← task
      updater.menu.refresh
      rest state).run :=
  Session.alone_opens (besideLock_of_books (.bind books fun state =>
    .bind (BootMenu.clerical_refresh _).books fun _ => restBooks state))

theorem rollback_opens (updater : Updater) :
    Program.OpensSession (refusal .rollback) updater.rollback.run := by
  refine Session.alone_opens (besideLock_of_books ?_)
  refine .bind Slots.clerical_active.books fun previous => .bind (Slots.clerical_record? _).books fun found => ?_
  cases found with
  | none => exact .done
  | some record =>
    refine .bind (Slots.books_commitAs _ _ _) fun _ => .bind (BootMenu.clerical_refresh _).books fun _ => ?_
    exact Task.asksOnly_log_bind trivial .done

/-- Every call that runs in a session has the shape of one. -/
theorem opens (updater : Updater) (call : SessionCall) :
    Program.OpensSession call.refusal (call.program updater) := by
  cases call with
  | update source image => exact update_opens updater source image
  | rollback => exact rollback_opens updater
  | provision active rootHash force =>
    exact refreshing_opens (Slots.forgetful_provision _ _ _ _).books fun _ => .done
  | confirm => exact refreshing_opens (Slots.forgetful_confirm _).books fun _ => .done
  | bootAttempt =>
    exact refreshing_opens Slots.forgetful_recordBootAttempt.books fun _ => Task.asksOnly_log_bind trivial .done

end SessionCall

end DualSlot
