import DualSlot.Machine
import DualSlot.Proofs.TaskSafety

/-! What the books of the slots and the boot menu are kept with: requests to the store, the clock, the
log, and whole files that are read or replaced. Nothing that keeps them begins or ends a session, or
touches an image. Only commits tell the history of what they do. -/

namespace DualSlot

def Action.Bookkeeping : Action → Prop
  | .store .lock | .store (.unlock _) => False
  | .store _ | .present _ | .read _ | .replace _ _ | .now | .log _ _ _ => True
  | _ => False

/-- Bookkeeping that the history is not told of. -/
def Action.Forgetful : Action → Prop
  | .store (.appendHistory _) => False
  | action => action.Bookkeeping

/-- Bookkeeping that leaves the boot state as it is, too. -/
def Action.Clerical : Action → Prop
  | .store (.writeBootState _) => False
  | action => action.Forgetful

theorem Action.Forgetful.bookkeeping {action : Action} (forgetful : action.Forgetful) : action.Bookkeeping := by
  cases action with
  | store request =>
    cases request with
    | appendHistory _ => exact forgetful.elim
    | _ => exact forgetful
  | _ => exact forgetful

theorem Action.Clerical.forgetful {action : Action} (clerical : action.Clerical) : action.Forgetful := by
  cases action with
  | store request =>
    cases request with
    | writeBootState _ => exact clerical.elim
    | _ => exact clerical
  | _ => exact clerical

/-- The task only keeps books. -/
abbrev Task.Books (task : Task ε α) : Prop := Task.AsksOnly Action.Bookkeeping task

abbrev Acting.Books (program : Acting α) : Prop := Program.AsksOnly Action.Bookkeeping program

abbrev Task.Forgetful (task : Task ε α) : Prop := Task.AsksOnly Action.Forgetful task

abbrev Task.Clerical (task : Task ε α) : Prop := Task.AsksOnly Action.Clerical task

theorem Task.Forgetful.books {task : Task ε α} (forgetful : task.Forgetful) : task.Books :=
  Program.AsksOnly.mono forgetful fun _ => Action.Forgetful.bookkeeping

theorem Task.Clerical.forgetful {task : Task ε α} (clerical : task.Clerical) : task.Forgetful :=
  Program.AsksOnly.mono clerical fun _ => Action.Clerical.forgetful

theorem Task.Clerical.books {task : Task ε α} (clerical : task.Clerical) : task.Books :=
  clerical.forgetful.books

section Asking

variable {property : Action → Prop} {ε α : Type}

theorem Acting.asksOnly_perform (action : Action) (holds : property action) :
    Program.AsksOnly property action.perform :=
  .ask holds fun _ => .done

theorem Task.asksOnly_log_bind {topic : LogTopic} {level : LogLevel} {text : String} {next : Unit → Task ε α}
    (logs : property (.log topic level text)) (rest : Task.AsksOnly property (next ())) :
    Task.AsksOnly property (liftM (log topic level text) >>= next) :=
  Task.AsksOnly.bind (.lift (Acting.asksOnly_perform _ logs)) fun _ => rest

theorem Slots.asksOnly_attempt {reply : Acting (Except StoreError α)} (asks : Program.AsksOnly property reply) :
    Task.AsksOnly property (attempt reply) :=
  .of asks _

end Asking

namespace Slots

theorem clerical_bootState : Task.Clerical bootState := by
  apply Task.AsksOnly.bind (asksOnly_attempt (Acting.asksOnly_perform (.store .readBootState) trivial))
  intro found
  cases found <;> exact .done

theorem clerical_active : Task.Clerical active :=
  .bind clerical_bootState fun _ => .done

theorem clerical_record? (slot : Slot) : Task.Clerical (record? slot) :=
  .bind (asksOnly_attempt (Acting.asksOnly_perform (.store (.readRecord slot)) trivial)) fun _ => .done

theorem clerical_rootHash? (slot : Slot) : Task.Clerical (rootHash? slot) :=
  .bind (clerical_record? slot) fun _ => .done

theorem clerical_recordHash (slot : Slot) (rootHash : String) : Task.Clerical (recordHash slot rootHash) := by
  unfold recordHash
  dsimp only
  split
  · exact .done
  · split
    · exact .done
    · apply Task.AsksOnly.bind (.lift (Acting.asksOnly_perform .now trivial))
      intro time
      apply Task.AsksOnly.bind (asksOnly_attempt (Acting.asksOnly_perform (.store (.writeRecord _)) trivial))
      intro _
      exact Task.asksOnly_log_bind trivial .done

theorem clerical_clearRecord (slot : Slot) : Task.Clerical (clearRecord slot) :=
  .bind (asksOnly_attempt (Acting.asksOnly_perform (.store (.clearRecord slot)) trivial)) fun _ =>
    .lift (Acting.asksOnly_perform _ trivial)

theorem forgetful_writeBootState (state : BootState) : Task.Forgetful (attempt (ask (.writeBootState state))) :=
  asksOnly_attempt (Acting.asksOnly_perform (.store (.writeBootState state)) trivial)

theorem forgetful_confirm (maxBootCount : UInt32) : Task.Forgetful (confirm maxBootCount) := by
  apply Task.AsksOnly.bind
  · apply Task.AsksOnly.bind clerical_bootState.forgetful
    intro state
    exact .bind (forgetful_writeBootState _) fun _ => .done
  · intro state
    exact Task.asksOnly_log_bind trivial .done

theorem forgetful_recordBootAttempt : Task.Forgetful recordBootAttempt := by
  apply Task.AsksOnly.bind clerical_bootState.forgetful
  intro before
  apply Task.AsksOnly.bind (forgetful_writeBootState _)
  intro _
  by_cases spent : (if before.bootCount = 0 then 0 else before.bootCount - 1) = 0
  · simp only [if_pos spent]
    exact Task.asksOnly_log_bind trivial .done
  · simp only [if_neg spent]
    exact .done

theorem forgetful_provision (maxBootCount : UInt32) (slot : Slot) (rootHash : String) (force : Bool) :
    Task.Forgetful (provision maxBootCount slot rootHash force) := by
  have rest : Task.Forgetful (do
      let _ ← recordHash slot rootHash
      let state : BootState := ⟨slot, maxBootCount⟩
      attempt (ask (.writeBootState state))
      log .slots .info s!"initialized boot state with active slot {slot.name}"
      return state) := by
    refine Task.AsksOnly.bind (clerical_recordHash slot rootHash).forgetful fun _ => ?_
    refine Task.AsksOnly.bind (forgetful_writeBootState ⟨slot, maxBootCount⟩) fun _ => ?_
    exact Task.asksOnly_log_bind trivial .done
  unfold provision
  cases force with
  | true => exact rest
  | false =>
    refine Task.AsksOnly.bind
      (asksOnly_attempt (Acting.asksOnly_perform (.store .readBootState) trivial)) fun found => ?_
    cases found with
    | some _ => exact .done
    | none => exact rest

theorem books_remember (outcome : Outcome) (slot : Slot) : Acting.Books (remember outcome slot) := by
  apply Program.AsksOnly.bind (Acting.asksOnly_perform .now trivial)
  intro time
  apply Program.AsksOnly.bind (Acting.asksOnly_perform (.store (.appendHistory _)) trivial)
  intro appended
  cases appended with
  | ok _ => exact .done
  | error cause => exact Acting.asksOnly_perform _ trivial

theorem books_commitAs (maxBootCount : UInt32) (outcome : Outcome) (target : Slot) :
    Task.Books (commitAs maxBootCount outcome target) := by
  apply Task.AsksOnly.bind (clerical_record? target).books
  intro found
  cases found with
  | none => exact .done
  | some record =>
    apply Task.AsksOnly.bind (forgetful_writeBootState _).books
    intro _
    apply Task.asksOnly_log_bind trivial
    exact .bind (.lift (books_remember outcome target)) fun _ => .done

end Slots

namespace BootMenu

variable (menu : BootMenu)

theorem clerical_replaceText (path : Path) (text : String) : Task.Clerical (replaceText path text) :=
  .of (Acting.asksOnly_perform (.replace _ _) trivial) _

theorem clerical_readText? (path : Path) : Task.Clerical (readText? path) := by
  apply Task.AsksOnly.bind (.of (Acting.asksOnly_perform (.read path) trivial) _)
  intro contents
  cases contents with
  | none => exact .done
  | some contents =>
    dsimp only
    split <;> exact .done

theorem clerical_setDefault (slot : Slot) : Task.Clerical (menu.setDefault slot) :=
  .bind (clerical_replaceText _ _) fun _ => .lift (Acting.asksOnly_perform _ trivial)

theorem clerical_writeEntry (slot : Slot) (rootHash : Digest) (triesLeft : UInt32) (isDefault : Bool) :
    Task.Clerical (menu.writeEntry slot rootHash triesLeft isDefault) := by
  apply Task.AsksOnly.bind (clerical_replaceText _ _)
  intro _
  apply Task.asksOnly_log_bind trivial
  cases isDefault with
  | true => exact clerical_setDefault menu slot
  | false => exact .done

theorem clerical_entry? (slot : Slot) : Task.Clerical (menu.entry? slot) := by
  apply Task.AsksOnly.bind (clerical_readText? _)
  intro text
  cases text with
  | none => exact .done
  | some text =>
    dsimp only
    split <;> exact .done

theorem clerical_disable (slot : Slot) : Task.Clerical (menu.disable slot) := by
  have withoutTries (rootHash : Digest) : Task.Clerical (do
      menu.writeEntry slot rootHash 0 false
      log .bootEntries .info s!"disabled boot entry of slot {slot.name}") :=
    .bind (clerical_writeEntry menu _ _ _ _) fun _ => .lift (Acting.asksOnly_perform _ trivial)
  apply Task.AsksOnly.bind (.lift (Acting.asksOnly_perform (.present _) trivial))
  intro found
  cases found with
  | false => exact .done
  | true =>
    apply Task.AsksOnly.bind (.lift ( clerical_entry? menu slot))
    intro entry
    cases entry with
    | error cause => exact Task.asksOnly_log_bind trivial (withoutTries .zero)
    | ok entry =>
      cases entry with
      | none => exact .done
      | some entry =>
        dsimp only
        split
        · exact .done
        · exact withoutTries _

theorem clerical_entryHash? (slot : Slot) : Program.AsksOnly Action.Clerical (menu.entryHash? slot) := by
  apply Program.AsksOnly.bind ( clerical_entry? menu slot)
  intro entry
  cases entry with
  | ok entry => exact .done
  | error cause => exact Program.AsksOnly.bind (Acting.asksOnly_perform _ trivial) fun _ => .done

theorem clerical_refresh : Task.Clerical menu.refresh := by
  apply Task.AsksOnly.bind Slots.clerical_bootState
  intro state
  apply Task.AsksOnly.bind (Slots.clerical_rootHash? _)
  intro active
  cases active with
  | none => exact .done
  | some rootHash =>
    apply Task.AsksOnly.bind (.adapt (clerical_writeEntry menu _ _ _ _) _)
    intro _
    apply Task.AsksOnly.bind (Slots.clerical_rootHash? _)
    intro fallback
    cases fallback with
    | none => exact .adapt (clerical_disable menu _) _
    | some fallback =>
      apply Task.AsksOnly.bind (.lift (clerical_entryHash? menu _))
      intro shown
      split
      · exact .adapt (clerical_writeEntry menu _ _ _ _) _
      · exact .done

end BootMenu

end DualSlot
