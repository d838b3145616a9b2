import DualSlot.Proofs.Interleaving
import DualSlot.Proofs.ObligingMachine
import DualSlot.Proofs.SessionShape

/-! Sessions side by side on one machine. The lock keeps them apart: one is at work at a time, the others
are turned away and do nothing, and what comes of it all is what would come of the admitted ones in
the order in which they took the lock. -/

namespace DualSlot

namespace Machine

variable {faults : Faults} {before after : Machine}

/-- A machine that several calls share. One that asks for a lock that is taken is told so, unless the
store fails. -/
def shared (faults : Faults) : Surroundings actions Machine := fun action before reply after =>
  answers faults action before reply after ∧
    match action, reply with
    | .store .lock, .error cause => cause = .locked ∨ faults.refuses (.store .lock)
    | _, _ => True

theorem locked_put (machine : Machine) (storage : Storage) :
    (machine.put storage).locked = machine.locked := rfl

/-- Only taking and giving back the lock changes whether it is taken. -/
theorem locked_of_besideLock {action : Action} {reply : action.Reply} (beside : action.BesideLock)
    (answer : answers faults action before reply after) : after.locked = before.locked := by
  cases action with
  | store request =>
    cases request with
    | lock | unlock _ => exact beside.elim
    | readBootState | readRecord _ | readHistory => rw [answer.1]
    | writeBootState _ | writeRecord _ | clearRecord _ | appendHistory _ =>
      cases reply with
      | ok _ => rw [show after = _ from answer, locked_put]
      | error _ => rw [answer.2]
  | present _ | read _ | list _ | receive _ _ => rw [answer.1]
  | replace _ _ =>
    obtain ⟨_, _, changed, -⟩ := answer
    rw [changed, locked_put]
  | remove _ =>
    cases reply with
    | ok _ => rw [show after = _ from answer, locked_put]
    | error _ => rw [answer.2]
  | openSource _ _ | openStaged _ | openSlot _ _ =>
    cases reply with
    | ok _ => rw [show after = _ from answer]
    | error _ => rw [answer.2]
  | stage _ =>
    cases reply with
    | ok _ => rw [answer.2.2, locked_put]
    | error _ => rw [answer.2]
  | fill _ _ | writeSlot _ _ | discard _ =>
    obtain ⟨_, _, changed⟩ := answer
    rw [changed, locked_put]
  | now | cancelled | log _ _ _ => rw [show after = _ from answer]

end Machine

variable {ι : Type}

/-- The reply to a request for the lock. -/
def Turn.lockReply? : Turn ι actions Machine → Option (Except StoreError Guard)
  | ⟨_, .store .lock, reply, _, _⟩ => some reply
  | _ => none

/-- Whose turn it was, if the lock was granted in it. -/
def Turn.admitted? (turn : Turn ι actions Machine) : Option ι :=
  match turn.lockReply? with
  | some (.ok _) => some turn.who
  | _ => none

theorem Turn.lockReply?_of_besideLock {action : Action} (beside : action.BesideLock) (who : ι)
    (reply : action.Reply) (before after : Machine) :
    (⟨who, action, reply, before, after⟩ : Turn ι actions Machine).lockReply? = none := by
  cases action with
  | store request =>
    cases request with
    | lock => exact beside.elim
    | _ => rfl
  | _ => rfl

theorem Turn.admitted?_eq_none {turn : Turn ι actions Machine}
    (refused : ∀ held, turn.lockReply? ≠ some (.ok held)) : turn.admitted? = none := by
  unfold admitted?
  split
  · next held replied => exact absurd replied (refused held)
  · rfl

namespace Sessions

variable {α : ι → Type} {β : Type}

/-- Those who were granted the lock, in the order in which they were. -/
def admitted (turns : List (Turn ι actions Machine)) : List ι := turns.filterMap Turn.admitted?

theorem admitted_append {turns : List (Turn ι actions Machine)} {turn : Turn ι actions Machine} :
    admitted (turns ++ [turn]) = admitted turns ++ turn.admitted?.toList := by
  rw [admitted, List.filterMap_append, admitted]
  cases replied : turn.admitted? <;> simp [replied]

/-- The call has been granted the lock and has not ended yet. -/
def InSession (scene : Scene ι actions Machine α) (who : ι) : Prop :=
  who ∈ admitted scene.turns ∧ ∀ value, scene.left who ≠ .done value

variable [DecidableEq ι]

/-- The turns of one of the calls. -/
def own (turns : List (Turn ι actions Machine)) (who : ι) : List (Turn ι actions Machine) :=
  turns.filter fun turn => turn.who = who

def lockReplies (turns : List (Turn ι actions Machine)) (who : ι) : List (Except StoreError Guard) :=
  (own turns who).filterMap Turn.lockReply?

/-- The last turn of the call left the lock free. -/
def Released (turns : List (Turn ι actions Machine)) (who : ι) : Prop :=
  ∃ turn, (own turns who).getLast? = some turn ∧ turn.after.locked = false

/-- The scene in which those who were granted the lock take the same turns, but one call after the other,
in the order in which they were granted the lock. The others take none. -/
def regrouped (programs : (who : ι) → Acting (α who)) (scene : Scene ι actions Machine α) :
    Scene ι actions Machine α where
  turns := (admitted scene.turns).flatMap (own scene.turns)
  left who := if who ∈ admitted scene.turns then scene.left who else programs who
  state := scene.state

section Turns

variable {turns : List (Turn ι actions Machine)} {turn : Turn ι actions Machine} {who : ι}

theorem own_append_self : own (turns ++ [turn]) turn.who = own turns turn.who ++ [turn] := by
  simp [own, List.filter_append]

theorem own_append_of_ne (other : turn.who ≠ who) : own (turns ++ [turn]) who = own turns who := by
  simp [own, List.filter_append, other]

theorem lockReplies_append_self :
    lockReplies (turns ++ [turn]) turn.who =
      lockReplies turns turn.who ++ turn.lockReply?.toList := by
  rw [lockReplies, own_append_self, List.filterMap_append, lockReplies]
  cases replied : turn.lockReply? <;> simp [replied]

theorem lockReplies_append_of_ne (other : turn.who ≠ who) :
    lockReplies (turns ++ [turn]) who = lockReplies turns who := by
  rw [lockReplies, own_append_of_ne other, lockReplies]

theorem mem_admitted : who ∈ admitted turns ↔ ∃ held, .ok held ∈ lockReplies turns who := by
  constructor
  · intro inside
    obtain ⟨turn, took, granted⟩ := List.mem_filterMap.1 inside
    unfold Turn.admitted? at granted
    split at granted
    · next held replied =>
      obtain rfl := Option.some_inj.1 granted
      exact ⟨held, List.mem_filterMap.2 ⟨turn, List.mem_filter.2 ⟨took, by simp⟩, replied⟩⟩
    · cases granted
  · rintro ⟨held, told⟩
    obtain ⟨turn, took, replied⟩ := List.mem_filterMap.1 told
    obtain ⟨took, whose⟩ := List.mem_filter.1 took
    refine List.mem_filterMap.2 ⟨turn, took, ?_⟩
    rw [Turn.admitted?, replied]
    exact congrArg some (of_decide_eq_true whose)

/-- Turns of others leave the turns of a call as they are. -/
theorem flatMap_own_append {order : List ι} (outside : turn.who ∉ order) :
    order.flatMap (own (turns ++ [turn])) = order.flatMap (own turns) := by
  apply List.flatMap_congr
  intro who inside
  exact own_append_of_ne fun same => outside (same ▸ inside)

/-- A turn of the one who was admitted last comes last when turns are regrouped. -/
theorem flatMap_own_append_last {earlier : List ι}
    (order : admitted (turns ++ [turn]) = earlier ++ [turn.who]) (once : turn.who ∉ earlier)
    (before : admitted turns = earlier ++ [turn.who] ∨ admitted turns = earlier ∧ own turns turn.who = []) :
    (admitted (turns ++ [turn])).flatMap (own (turns ++ [turn])) =
      (admitted turns).flatMap (own turns) ++ [turn] := by
  have all : (admitted turns).flatMap (own turns) = earlier.flatMap (own turns) ++ own turns turn.who := by
    rcases before with same | ⟨same, silent⟩
    · simp [same]
    · simp [same, silent]
  rw [order, List.flatMap_append, flatMap_own_append once, all, List.flatMap_singleton, own_append_self,
    List.append_assoc]

end Turns

/-- How a call stands of which so much is left: it has done nothing yet, it was turned away, it is in its
session, or its session is over. -/
inductive Standing (program : Acting β) (refusal : Failure → β) (turns : List (Turn ι actions Machine))
    (state : Machine) (who : ι) (left : Acting β) : Prop where
  | waiting (whole : left = program) (silent : own turns who = [])
  | dismissed {cause} (told : lockReplies turns who = [.error cause])
      (leaves : left.Dismissed (refusal (.ofSession cause)))
      (unchanged : ∀ turn ∈ own turns who, turn.after = turn.before)
  | inside {held} (told : lockReplies turns who = [.ok held])
      (last : (admitted turns).getLast? = some who) (locked : state.locked = true)
      (holds : left.HoldsLock held)
  | finished {held value} (told : lockReplies turns who = [.ok held]) (ended : left = .done value)
      (released : Released turns who)

namespace Standing

variable {program left : Acting β} {refusal : Failure → β} {turns : List (Turn ι actions Machine)}
  {turn : Turn ι actions Machine} {before after : Machine} {who : ι} {held : Guard}

theorem not_admitted_of_silent (silent : own turns who = []) : who ∉ admitted turns := by
  intro inside
  obtain ⟨held, told⟩ := mem_admitted.1 inside
  simp [lockReplies, silent] at told

theorem not_admitted_of_told {cause : StoreError} (told : lockReplies turns who = [.error cause]) :
    who ∉ admitted turns := by
  intro inside
  obtain ⟨held, granted⟩ := mem_admitted.1 inside
  simp [told] at granted

/-- A turn of another leaves a call where it stood, if it leaves it in its session. -/
theorem other (stands : Standing program refusal turns before who left) (different : turn.who ≠ who)
    (kept : (admitted turns).getLast? = some who → before.locked = true →
      (admitted (turns ++ [turn])).getLast? = some who ∧ after.locked = true) :
    Standing program refusal (turns ++ [turn]) after who left := by
  have sameOwn : own (turns ++ [turn]) who = own turns who := own_append_of_ne different
  have sameReplies : lockReplies (turns ++ [turn]) who = lockReplies turns who :=
    lockReplies_append_of_ne different
  cases stands with
  | waiting whole silent => exact .waiting whole (sameOwn.trans silent)
  | dismissed told leaves unchanged =>
    exact .dismissed (sameReplies.trans told) leaves (sameOwn ▸ unchanged)
  | inside told last locked holds =>
    obtain ⟨last, locked⟩ := kept last locked
    exact .inside (sameReplies.trans told) last locked holds
  | finished told ended released =>
    refine .finished (sameReplies.trans told) ended ?_
    rw [Released, sameOwn]
    exact released

end Standing

/-- What holds in every scene that calls get to on a machine whose lock was free. -/
structure Orderly (faults : Faults) (programs : (who : ι) → Acting (α who))
    (refusal : (who : ι) → Failure → α who) (start : Machine) (scene : Scene ι actions Machine α) :
    Prop where
  standing : ∀ who,
    Standing (programs who) (refusal who) scene.turns scene.state who (scene.left who)
  nodup : (admitted scene.turns).Nodup
  /-- If the lock is taken, then by someone. -/
  someone : scene.state.locked = true → ∃ who, InSession scene who
  serial : Interleaving (fun _ => Machine.shared faults) programs start (regrouped programs scene)

variable {faults : Faults} {programs : (who : ι) → Acting (α who)}
  {refusal : (who : ι) → Failure → α who} {start before after : Machine}
  {turns : List (Turn ι actions Machine)} {left : (who : ι) → Acting (α who)} {who : ι}
  {action : Action} {next : action.Reply → Acting (α who)} {reply : action.Reply}

namespace Orderly

/-- After a turn of one call every call stands somewhere, if the turn leaves the others in their sessions. -/
theorem standing_turn (orderly : Orderly faults programs refusal start ⟨turns, left, before⟩)
    (stands : Standing (programs who) (refusal who)
      (turns ++ [⟨who, action, reply, before, after⟩]) after who (next reply))
    (kept : ∀ other ≠ who, (admitted turns).getLast? = some other → before.locked = true →
      (admitted (turns ++ [⟨who, action, reply, before, after⟩])).getLast? = some other ∧ after.locked = true)
    (other : ι) :
    Standing (programs other) (refusal other) (turns ++ [⟨who, action, reply, before, after⟩]) after other
      (Function.update left who (next reply) other) := by
  obtain rfl | different := eq_or_ne other who
  · rw [Function.update_self]
    exact stands
  · rw [Function.update_of_ne different]
    exact (orderly.standing other).other different.symm (kept other different)

/-- A turn of a call that was not admitted, and that changes nothing. -/
theorem idle_turn (orderly : Orderly faults programs refusal start ⟨turns, left, before⟩)
    (outside : who ∉ admitted turns)
    (refused : (⟨who, action, reply, before, before⟩ : Turn ι actions Machine).admitted? = none)
    (stands : Standing (programs who) (refusal who)
      (turns ++ [⟨who, action, reply, before, before⟩]) before who (next reply)) :
    Orderly faults programs refusal start ⟨turns ++ [⟨who, action, reply, before, before⟩],
      Function.update left who (next reply), before⟩ := by
  have sameAdmitted : admitted (turns ++ [⟨who, action, reply, before, before⟩]) = admitted turns := by
    rw [admitted_append, refused]
    exact List.append_nil _
  refine ⟨orderly.standing_turn stands fun other _ last locked => ?_, ?_, fun locked => ?_, ?_⟩
  · exact ⟨sameAdmitted ▸ last, locked⟩
  · exact sameAdmitted.symm ▸ orderly.nodup
  · obtain ⟨other, inside, continues⟩ := orderly.someone locked
    have different : other ≠ who := fun same => outside (same ▸ inside)
    refine ⟨other, sameAdmitted.symm ▸ inside, fun value => ?_⟩
    simp only [Function.update_of_ne different]
    exact continues value
  · have same : regrouped programs ⟨turns ++ [⟨who, action, reply, before, before⟩],
        Function.update left who (next reply), before⟩ = regrouped programs ⟨turns, left, before⟩ := by
      simp only [regrouped, sameAdmitted, Scene.mk.injEq, and_true]
      refine ⟨flatMap_own_append outside, funext fun other => ?_⟩
      split
      · next inside => exact Function.update_of_ne (fun same : other = who => outside (same ▸ inside)) _ _
      · rfl
    exact same ▸ orderly.serial

/-- A turn of the call that was admitted last is the last one as well when the turns are regrouped. -/
theorem regrouped_turn {earlier : List ι}
    (order : admitted (turns ++ [⟨who, action, reply, before, after⟩]) = earlier ++ [who]) (once : who ∉ earlier)
    (former : admitted turns = earlier ++ [who] ∨ admitted turns = earlier ∧ own turns who = []) :
    regrouped programs ⟨turns ++ [⟨who, action, reply, before, after⟩],
        Function.update left who (next reply), after⟩ =
      ⟨(regrouped programs ⟨turns, left, before⟩).turns ++ [⟨who, action, reply, before, after⟩],
        Function.update (regrouped programs ⟨turns, left, before⟩).left who (next reply), after⟩ := by
  simp only [regrouped, Scene.mk.injEq, and_true]
  refine ⟨flatMap_own_append_last order once former, funext fun other => ?_⟩
  obtain rfl | different := eq_or_ne other who
  · simp [order]
  · have sameAdmitted : other ∈ admitted (turns ++ [⟨who, action, reply, before, after⟩]) ↔
        other ∈ admitted turns := by
      rcases former with same | ⟨same, -⟩
      · rw [order, same]
      · simp [order, same, different]
    simp only [sameAdmitted, Function.update_of_ne different]

/-- A turn of the call that was admitted last, now or earlier. -/
theorem working_turn (orderly : Orderly faults programs refusal start ⟨turns, left, before⟩)
    (asks : left who = .ask action next) (answer : Machine.shared faults action before reply after)
    {earlier : List ι} (order : admitted (turns ++ [⟨who, action, reply, before, after⟩]) = earlier ++ [who])
    (former : admitted turns = earlier ++ [who] ∨
      admitted turns = earlier ∧ own turns who = [] ∧ left who = programs who)
    (stands : Standing (programs who) (refusal who)
      (turns ++ [⟨who, action, reply, before, after⟩]) after who (next reply))
    (alone : ∀ other, (admitted turns).getLast? = some other → before.locked = true → other = who)
    (continues : after.locked = true → ∀ value, next reply ≠ .done value) :
    Orderly faults programs refusal start ⟨turns ++ [⟨who, action, reply, before, after⟩],
      Function.update left who (next reply), after⟩ := by
  have nodup : (earlier ++ [who]).Nodup := by
    rcases former with same | ⟨same, silent, -⟩
    · exact same ▸ orderly.nodup
    · refine List.nodup_append.2 ⟨same ▸ orderly.nodup, by simp, ?_⟩
      rintro other inside _ newest rfl
      rw [List.mem_singleton.1 newest] at inside
      exact Standing.not_admitted_of_silent silent (same ▸ inside)
  have once : who ∉ earlier := fun inside =>
    (List.nodup_append.1 nodup).2.2 who inside who (List.mem_singleton_self _) rfl
  refine ⟨orderly.standing_turn stands fun other different last locked => ?_, ?_, fun locked => ?_, ?_⟩
  · exact absurd (alone other last locked) different
  · exact order.symm ▸ nodup
  · refine ⟨who, by simp [order], ?_⟩
    simpa using continues locked
  · have regroups : (regrouped programs ⟨turns, left, before⟩).left who = .ask action next := by
      simp only [regrouped]
      split
      · exact asks
      · next outside =>
        rcases former with same | ⟨-, -, whole⟩
        · exact absurd (by simp [same]) outside
        · exact whole.symm.trans asks
    rw [regrouped_turn order once (former.imp id fun ⟨same, silent, _⟩ => ⟨same, silent⟩)]
    exact orderly.serial.turn regroups answer

/-- A call that holds the lock goes on in its session, or gives the lock back and is over. -/
theorem inside_turn (orderly : Orderly faults programs refusal start ⟨turns, left, before⟩)
    (asks : left who = .ask action next) (answer : Machine.shared faults action before reply after)
    {held : Guard} (told : lockReplies turns who = [.ok held])
    (last : (admitted turns).getLast? = some who) (locked : before.locked = true)
    (holds : (left who).HoldsLock held) :
    Orderly faults programs refusal start ⟨turns ++ [⟨who, action, reply, before, after⟩],
      Function.update left who (next reply), after⟩ := by
  obtain ⟨earlier, order⟩ := List.getLast?_eq_some_iff.1 last
  have alone (other : ι) (otherLast : (admitted turns).getLast? = some other) (_ : before.locked = true) :
      other = who := Option.some_inj.1 (otherLast.symm.trans last)
  have silent : (⟨who, action, reply, before, after⟩ : Turn ι actions Machine).lockReply? = none := by
    rw [asks] at holds
    cases holds with
    | acts beside _ => exact Turn.lockReply?_of_besideLock beside _ _ _ _
    | ends => rfl
  have sameAdmitted : admitted (turns ++ [⟨who, action, reply, before, after⟩]) = admitted turns := by
    rw [admitted_append, Turn.admitted?_eq_none fun held => by simp [silent]]
    exact List.append_nil _
  have stillTold : lockReplies (turns ++ [⟨who, action, reply, before, after⟩]) who = [.ok held] := by
    rw [lockReplies_append_self, silent]
    exact (List.append_nil _).trans told
  rw [asks] at holds
  cases holds with
  | acts beside later =>
    refine orderly.working_turn asks answer (sameAdmitted.trans order) (.inl order) ?_ alone
      fun _ value => (later reply).not_done value
    exact .inside stillTold (sameAdmitted ▸ last)
      ((Machine.locked_of_besideLock beside answer.1).trans locked) (later reply)
  | ends =>
    have free : after.locked = false := congrArg Machine.locked (show after = _ from answer.1)
    refine orderly.working_turn asks answer (sameAdmitted.trans order) (.inl order) ?_ alone
      fun locked => by rw [free] at locked; cases locked
    refine .finished stillTold rfl ⟨⟨who, .store (.unlock held), reply, before, after⟩, ?_, free⟩
    rw [own_append_self]
    exact List.getLast?_concat ..

/-- A call asks for the lock. -/
theorem opening_turn (orderly : Orderly faults programs refusal start ⟨turns, left, before⟩)
    (opens : (programs who).OpensSession (refusal who)) (asks : left who = .ask action next)
    (answer : Machine.shared faults action before reply after)
    (whole : left who = programs who) (silent : own turns who = []) :
    Orderly faults programs refusal start ⟨turns ++ [⟨who, action, reply, before, after⟩],
      Function.update left who (next reply), after⟩ := by
  have outside := Standing.not_admitted_of_silent silent
  have untold : lockReplies turns who = [] := by simp [lockReplies, silent]
  rw [← whole, asks] at opens
  cases opens with
  | asks granted refused =>
    have told : lockReplies (turns ++ [⟨who, .store .lock, reply, before, after⟩]) who = [reply] := by
      rw [lockReplies_append_self, untold]
      rfl
    cases reply with
    | error cause =>
      obtain rfl : after = before := answer.1.2
      refine orderly.idle_turn outside rfl (.dismissed told (refused cause) fun turn took => ?_)
      rw [own_append_self, silent] at took
      obtain rfl := List.mem_singleton.1 took
      rfl
    | ok held =>
      obtain ⟨free, taken⟩ : before.locked = false ∧ after = { before with locked := true } := answer.1
      refine orderly.working_turn asks answer admitted_append
        (.inr ⟨rfl, silent, whole⟩) ?_ (fun _ _ locked => ?_) fun _ value => (granted held).not_done value
      · refine .inside told ?_ (congrArg Machine.locked taken) (granted held)
        rw [admitted_append]
        exact List.getLast?_concat ..
      · rw [free] at locked
        cases locked

/-- A call that was turned away has nothing to do but to log messages. -/
theorem dismissed_turn (orderly : Orderly faults programs refusal start ⟨turns, left, before⟩)
    (asks : left who = .ask action next) (answer : Machine.shared faults action before reply after)
    {cause : StoreError} (told : lockReplies turns who = [.error cause])
    (leaves : (left who).Dismissed (refusal who (.ofSession cause)))
    (unchanged : ∀ turn ∈ own turns who, turn.after = turn.before) :
    Orderly faults programs refusal start ⟨turns ++ [⟨who, action, reply, before, after⟩],
      Function.update left who (next reply), after⟩ := by
  rw [asks] at leaves
  cases leaves with
  | logs later =>
    obtain rfl : after = before := answer.1
    refine orderly.idle_turn (Standing.not_admitted_of_told told) rfl (.dismissed ?_ later fun turn took => ?_)
    · rw [lockReplies_append_self]
      exact (List.append_nil _).trans told
    · rw [own_append_self] at took
      rcases List.mem_append.1 took with earlier | last
      · exact unchanged turn earlier
      · obtain rfl := List.mem_singleton.1 last
        rfl

theorem turn (orderly : Orderly faults programs refusal start ⟨turns, left, before⟩)
    (opens : (programs who).OpensSession (refusal who)) (asks : left who = .ask action next)
    (answer : Machine.shared faults action before reply after) :
    Orderly faults programs refusal start ⟨turns ++ [⟨who, action, reply, before, after⟩],
      Function.update left who (next reply), after⟩ := by
  cases orderly.standing who with
  | waiting whole silent => exact orderly.opening_turn opens asks answer whole silent
  | dismissed told leaves unchanged => exact orderly.dismissed_turn asks answer told leaves unchanged
  | inside told last locked holds => exact orderly.inside_turn asks answer told last locked holds
  | finished told ended _ =>
    rw [show left who = _ from ended] at asks
    cases asks

variable {scene : Scene ι actions Machine α}

theorem released (orderly : Orderly faults programs refusal start scene) {value : α who}
    (inside : who ∈ admitted scene.turns) (ended : scene.left who = .done value) :
    Released scene.turns who := by
  cases orderly.standing who with
  | waiting _ silent => exact absurd inside (Standing.not_admitted_of_silent silent)
  | dismissed told _ _ => exact absurd inside (Standing.not_admitted_of_told told)
  | inside _ _ _ holds => exact absurd ended (holds.not_done value)
  | finished _ _ released => exact released

end Orderly

/-- Whatever the order in which calls take their turns, they keep order. -/
theorem orderly (opens : ∀ who, (programs who).OpensSession (refusal who)) (free : start.locked = false)
    {scene : Scene ι actions Machine α}
    (ran : Interleaving (fun _ => Machine.shared faults) programs start scene) :
    Orderly faults programs refusal start scene := by
  induction ran with
  | start =>
    refine ⟨fun who => .waiting rfl rfl, List.nodup_nil, fun locked => ?_, ?_⟩
    · rw [free] at locked
      cases locked
    · exact Interleaving.start
  | turn _ asks answer ih => exact ih.turn (opens _) asks answer

end Sessions

end DualSlot
