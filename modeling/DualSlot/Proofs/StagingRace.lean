import DualSlot.Proofs.ObligingMachine
import DualSlot.Proofs.StagedImages

/-! Verifying takes no lock, so that another call may remove the image that it has staged and has yet to
open again. Unless that happens, its result is the one that it has alone. -/

namespace DualSlot

section Turns

variable {ι σ : Type}

/-- Another call removed an image after the call had staged it. -/
def Swept (turns : List (Turn ι actions σ)) (who : ι) (staged : Staged) : Prop :=
  ∃ staging removal, [staging, removal].Sublist turns ∧
    staging.who = who ∧ staging.staged? = some staged ∧
    removal.who ≠ who ∧ removal.removed? = some staged.path

/-- Another call removed an image between the turns in which the call staged it and opened it again. -/
def Disturbed (turns : List (Turn ι actions σ)) (who : ι) : Prop :=
  ∃ staged staging removal reopening, [staging, removal, reopening].Sublist turns ∧
    staging.who = who ∧ staging.staged? = some staged ∧
    removal.who ≠ who ∧ removal.removed? = some staged.path ∧
    reopening.who = who ∧ reopening.reopened? = some staged

variable {turns : List (Turn ι actions σ)} {turn : Turn ι actions σ} {who : ι}

theorem Swept.append {staged : Staged} (swept : Swept turns who staged) : Swept (turns ++ [turn]) who staged := by
  obtain ⟨staging, removal, ordered, roles⟩ := swept
  exact ⟨staging, removal, ordered.trans (List.sublist_append_left ..), roles⟩

theorem Disturbed.append (disturbed : Disturbed turns who) : Disturbed (turns ++ [turn]) who := by
  obtain ⟨staged, staging, removal, reopening, ordered, roles⟩ := disturbed
  exact ⟨staged, staging, removal, reopening, ordered.trans (List.sublist_append_left ..), roles⟩

/-- A call that opens again what another has removed is disturbed. -/
theorem Swept.disturbed {staged : Staged} (swept : Swept turns who staged) (own : turn.who = who)
    (reopens : turn.reopened? = some staged) : Disturbed (turns ++ [turn]) who := by
  obtain ⟨staging, removal, ordered, first, stages, second, removes⟩ := swept
  exact ⟨staged, staging, removal, turn, ordered.append (List.Sublist.refl [turn]), first, stages, second,
    removes, own, reopens⟩

/-- A call that takes no turns among others is not disturbed. -/
theorem not_disturbed_of_alone (only : ∀ turn ∈ turns, turn.who = who) : ¬Disturbed turns who := by
  rintro ⟨_, _, removal, _, ordered, -, -, second, -⟩
  exact second (only removal (ordered.subset (by simp)))

/-- The call has staged the file, which is there, or another call has removed it since. -/
def Kept (turns : List (Turn ι actions σ)) (place : Path → Option (ι × Handle)) (who : ι) (staged : Staged) :
    Prop :=
  (∃ staging ∈ turns, staging.who = who ∧ staging.staged? = some staged) ∧
    (place staged.path = some (who, staged.file) ∨ Swept turns who staged)

end Turns

namespace Depot

variable {ι : Type} [DecidableEq ι] {α : ι → Type} {offers : Offers} {who other : ι} {start : Depot ι}
  {programs : (who : ι) → Acting (α who)} {scene : Scene ι actions (Depot ι) α}
  {post : α who → View → Prop} {turns : List (Turn ι actions (Depot ι))} {before after : Depot ι}
  {left : (who : ι) → Acting (α who)} {request : Action} {reply : request.Reply} {view : View}

/-- A call goes on as its view of things has it, whatever others do. -/
structure Steady (offers : Offers) (post : α who → View → Prop) (scene : Scene ι actions (Depot ι) α)
    (view : View) : Prop where
  safe : View.Safe offers post (scene.left who) view
  follows : scene.state.Follows who view
  kept : ∀ staged, view.kept = some staged → Kept scene.turns scene.state.place who staged

theorem Steady.own {next : request.Reply → Acting (α who)} (steady : Steady offers post ⟨turns, left, before⟩ view)
    (asks : left who = .ask request next) (answer : answers offers who request before reply after) :
    Disturbed (turns ++ [⟨who, request, reply, before, after⟩]) who ∨ ∃ later, Steady offers post
      ⟨turns ++ [⟨who, request, reply, before, after⟩], Function.update left who (next reply), after⟩ later := by
  obtain ⟨safe, follows, kept⟩ := steady
  dsimp only at safe follows kept
  rw [asks] at safe
  cases safe with
  | ask allowed rest =>
    by_cases lost : ∃ staged, request = .openStaged staged ∧ Swept turns who staged
    · obtain ⟨staged, rfl, swept⟩ := lost
      exact .inl (swept.disturbed rfl rfl)
    have placed (staged : Staged) (reopens : request = .openStaged staged) :
        before.place staged.path = some (who, staged.file) := by
      subst reopens
      exact (kept staged allowed).2.resolve_right fun swept => lost ⟨staged, rfl, swept⟩
    obtain ⟨later, step, follows, holds⟩ := follows.own allowed answer placed
    refine .inr ⟨later, by simpa only [Function.update_self] using rest _ _ step, follows, fun staged known => ?_⟩
    rcases holds staged known with ⟨known, same⟩ | ⟨stages, placed⟩
    · obtain ⟨⟨staging, taken, stages⟩, found⟩ := kept staged known
      exact ⟨⟨staging, List.mem_append_left _ taken, stages⟩,
        found.imp (fun placed => same ▸ placed) Swept.append⟩
    · exact ⟨⟨_, List.mem_append_right _ (List.mem_singleton_self _), rfl, stages⟩, .inl placed⟩

theorem Steady.others {next : request.Reply → Acting (α other)}
    (steady : Steady offers post ⟨turns, left, before⟩ view) (different : other ≠ who)
    (answer : answers offers other request before reply after) :
    Steady offers post
      ⟨turns ++ [⟨other, request, reply, before, after⟩], Function.update left other (next reply), after⟩
      view := by
  have spares := answers_other answer different
  refine ⟨by simpa only [Function.update_of_ne different.symm] using steady.safe,
    steady.follows.congr spares.contents spares.reading, fun staged known => ?_⟩
  obtain ⟨⟨staging, taken, first, stages⟩, found⟩ := steady.kept staged known
  refine ⟨⟨staging, List.mem_append_left _ taken, first, stages⟩, ?_⟩
  rcases found with placed | swept
  · refine (spares.place _ _ placed).imp id fun removes => ?_
    exact ⟨staging, _, (List.singleton_sublist.2 taken).append (List.Sublist.refl [_]), first, stages,
      different, removes⟩
  · exact .inr swept.append

/-- Among other calls, a call is disturbed, or it goes on as its view of things has it. -/
theorem disturbed_or_steady (ran : Interleaving (answers offers) programs start scene)
    (safe : View.Safe offers post (programs who) ⟨none, fun _ => none⟩) :
    Disturbed scene.turns who ∨ ∃ view, Steady offers post scene view := by
  induction ran with
  | start => exact .inr ⟨_, safe, ⟨nofun, nofun⟩, nofun⟩
  | @turn turns left before taker request next reply after earlier asks answer ih =>
    rcases ih with disturbed | ⟨view, steady⟩
    · exact .inl disturbed.append
    · obtain rfl | different := eq_or_ne taker who
      · exact steady.own asks answer
      · exact .inr ⟨view, steady.others different answer⟩

/-- A call that has ended was disturbed or ended as its view of things has it. -/
theorem disturbed_or_ends (ran : Interleaving (answers offers) programs start scene)
    (safe : View.Safe offers post (programs who) ⟨none, fun _ => none⟩) {value : α who}
    (ended : scene.left who = .done value) : Disturbed scene.turns who ∨ ∃ view, post value view := by
  refine (disturbed_or_steady ran safe).imp id fun ⟨view, steady⟩ => ?_
  have safe := steady.safe
  rw [ended] at safe
  cases safe with
  | done holds => exact ⟨view, holds⟩

/-- A call that is alone ends as its view of things has it. -/
theorem ends_alone {value : α who} {final : Depot ι}
    (safe : View.Safe offers post (programs who) ⟨none, fun _ => none⟩)
    (ended : (programs who).Ends (answers offers who) start value final) : ∃ view, post value view := by
  obtain ⟨last, ran, left, only⟩ := Interleaving.alone ended .start rfl rfl (by simp)
  exact (disturbed_or_ends ran safe left).resolve_left (not_disturbed_of_alone only)

end Depot

/-- A call that verifies an artifact, and a call that updates from one meanwhile. -/
inductive Party where
  | verifying
  | updating
  deriving DecidableEq, Repr

namespace Party

abbrev Result : Party → Type
  | verifying => Except UpdateFailure VerifyReport
  | updating => Except UpdateFailure UpdateReport

/-- What each of the calls does, with a source and an image of its own. -/
def program (updater : Updater) (source : Party → Source) (image : Party → String) :
    (who : Party) → Acting who.Result
  | verifying => (updater.verify (source verifying) (image verifying)).run
  | updating => (updater.update (source updating) (image updating)).run

end Party

namespace Updater

/-- Whatever the order in which the requests of a verification and of an update are replied to, verifying
comes to what it comes to alone, unless the update removes the staged image before it was opened again. -/
theorem verify_as_alone {updater : Updater} {offers : Offers} {source : Party → Source} {image : Party → String}
    {start alone final : Depot Party} {scene : Scene Party actions (Depot Party) Party.Result}
    {found result : Except UpdateFailure VerifyReport}
    (ran : Interleaving (Depot.answers offers) (Party.program updater source image) start scene)
    (ended : scene.left .verifying = .done found)
    (solo : Program.Ends (Depot.answers offers .verifying)
      (updater.verify (source .verifying) (image .verifying)).run alone result final) :
    found = result ∨ Disturbed scene.turns .verifying := by
  have safe : View.Safe offers _ (Party.program updater source image .verifying) ⟨none, fun _ => none⟩ :=
    View.safe_verify rfl
  replace solo : (Party.program updater source image .verifying).Ends _ alone result final := solo
  obtain ⟨-, rfl⟩ := Depot.ends_alone safe solo
  refine (Depot.disturbed_or_ends ran safe ended).symm.imp_left ?_
  rintro ⟨-, rfl⟩
  rfl

end Updater

/-- A depot that stages where nothing is, and has no reply to what it knows nothing of. Every call has a
name of its own for what it stages. -/
def Depot.answer (offers : Offers) (name : Party → String) (who : Party) :
    (action : Action) → Depot Party → Option (action.Reply × Depot Party)
  | .openSource source name, depot =>
    match offers source name with
    | .error cause => some (.error cause, depot)
    | .ok stream => some (.ok ⟨0, none⟩, depot.setReading (who, 0) (some (.source stream)))
  | .openStaged staged, depot =>
    match depot.place staged.path with
    | none => some (.error (.located .notFound staged.path.text), depot)
    | some found => some (.ok ⟨0, none⟩, depot.setReading (who, 0) (some (.staged found)))
  | .receive opened _, depot => (depot.delivers who opened).map fun stream => (stream, depot)
  | .stage dir, depot =>
    let path := dir.join (Artifact.stagedStem ++ name who)
    if depot.place path = none ∧ depot.contents (who, 0) = none then
      some (.ok ⟨path, 0⟩, (depot.setPlace path (some (who, 0))).setContents (who, 0) [])
    else none
  | .fill staged image, depot => (depot.delivers who image).map fun stream =>
    (stream.contents.map List.length, depot.setContents (who, staged.file) stream.drain.1)
  | .discard staged, depot => some ((), depot.setPlace staged.path none)
  | .remove path, depot => some (.ok (), depot.setPlace path none)
  | .list dir, depot =>
    let names := [Party.verifying, .updating].map fun who => Artifact.stagedStem ++ name who
    some (.ok (names.filter fun name => (depot.place (dir.join name)).isSome), depot)
  | .store .lock, depot => some (.ok .flag, depot)
  | .store .readBootState, depot => some (.ok (some ⟨.a, 1⟩), depot)
  | .cancelled, depot => some (false, depot)
  | .log _ _ _, depot => some ((), depot)
  | _, _ => none

theorem Depot.answer_sound {offers : Offers} {name : Party → String} (who : Party) (action : Action)
    (before : Depot Party) (reply : action.Reply) (after : Depot Party)
    (answer : Depot.answer offers name who action before = some (reply, after)) :
    Depot.answers offers who action before reply after := by
  cases action with
  | openSource source name =>
    cases offered : offers source name with
    | error cause =>
      simp only [Depot.answer, offered] at answer
      obtain ⟨rfl, rfl⟩ := Prod.mk.inj (Option.some_inj.1 answer)
      simp [Depot.answers, offered]
    | ok stream =>
      simp only [Depot.answer, offered] at answer
      obtain ⟨rfl, rfl⟩ := Prod.mk.inj (Option.some_inj.1 answer)
      simp only [Depot.answers, offered]
      exact ⟨0, rfl, rfl⟩
  | openStaged staged =>
    cases placed : before.place staged.path with
    | none =>
      simp only [Depot.answer, placed] at answer
      obtain ⟨rfl, rfl⟩ := Prod.mk.inj (Option.some_inj.1 answer)
      simp [Depot.answers, placed]
    | some found =>
      simp only [Depot.answer, placed] at answer
      obtain ⟨rfl, rfl⟩ := Prod.mk.inj (Option.some_inj.1 answer)
      simp only [Depot.answers, placed]
      exact ⟨0, rfl, rfl⟩
  | receive opened purpose =>
    obtain ⟨stream, delivered, same⟩ := Option.map_eq_some_iff.1 answer
    obtain ⟨rfl, rfl⟩ := Prod.mk.inj same
    exact ⟨rfl, fun _ known => Option.some_inj.1 (delivered.symm.trans known)⟩
  | stage dir =>
    simp only [Depot.answer] at answer
    split at answer
    · next free =>
      obtain ⟨rfl, rfl⟩ := Prod.mk.inj (Option.some_inj.1 answer)
      exact ⟨_, name who, rfl, rfl, free.1, free.2, rfl⟩
    · cases answer
  | fill staged image =>
    obtain ⟨stream, delivered, same⟩ := Option.map_eq_some_iff.1 answer
    obtain ⟨rfl, rfl⟩ := Prod.mk.inj same
    refine ⟨_, rfl, fun _ known => ?_⟩
    obtain rfl := Option.some_inj.1 (delivered.symm.trans known)
    exact ⟨rfl, rfl⟩
  | list dir =>
    obtain ⟨rfl, rfl⟩ := Prod.mk.inj (Option.some_inj.1 answer)
    refine ⟨rfl, ?_⟩
    rintro _ ⟨⟩ name listed
    exact (List.mem_filter.1 listed).2
  | discard _ | remove _ | log _ _ _ =>
    obtain ⟨rfl, rfl⟩ := Prod.mk.inj (Option.some_inj.1 answer)
    rfl
  | cancelled =>
    obtain ⟨rfl, rfl⟩ := Prod.mk.inj (Option.some_inj.1 answer)
    exact ⟨rfl, rfl⟩
  | store request =>
    cases request with
    | lock | readBootState =>
      obtain ⟨rfl, rfl⟩ := Prod.mk.inj (Option.some_inj.1 answer)
      rfl
    | _ => cases answer
  | _ => cases answer

/-- An image of one byte, with a checksum and a root hash that a small updater finds in everything. -/
private def smallOffers : Offers := fun _ name =>
  .ok (.ofBytes (if name = "i" then [1] else .ofString Digest.zero.hex))

private def smallParties : (who : Party) → Acting who.Result :=
  Party.program .small (fun _ => .web "") fun _ => "i"

/-- What comes of a schedule where nothing has been staged before. -/
private def staging (schedule : List Party) : Scene Party actions (Depot Party) Party.Result :=
  Scene.play (Depot.answer smallOffers fun | .verifying => "v" | .updating => "u") smallParties
    ⟨fun _ => none, fun _ => none, fun _ => none⟩ schedule

/-- The update begins when the image has been staged and has yet to be opened again. -/
private def sweeping : Scene Party actions (Depot Party) Party.Result :=
  staging (.replicate 10 .verifying ++ .replicate 6 .updating ++ .replicate 10 .verifying)

private theorem staging_reached (schedule : List Party) :
    Interleaving (Depot.answers smallOffers) smallParties ⟨fun _ => none, fun _ => none, fun _ => none⟩
      (staging schedule) :=
  Interleaving.play Depot.answer_sound schedule

/-- What the verification came to, if it has ended. -/
private def Scene.verified? (scene : Scene Party actions (Depot Party) Party.Result) :
    Option (Except UpdateFailure VerifyReport) :=
  match scene.left .verifying with
  | .done result => some result
  | .ask _ _ => none

private theorem Scene.left_of_verified? {scene : Scene Party actions (Depot Party) Party.Result}
    {result : Except UpdateFailure VerifyReport} (verified : scene.verified? = some result) :
    scene.left .verifying = .done result := by
  unfold Scene.verified? at verified
  split at verified
  · next ended => rw [ended, Option.some_inj.1 verified]
  · cases verified

private theorem sweeping_verified : sweeping.verified? = some (.error ⟨.verification (.unreadable
    (.located .notFound "/s/image-v")), .checksumVerified, .fetching, .nothingTouched⟩) := by
  decide +kernel

private theorem staging_verified : (staging (.replicate 20 .verifying)).verified? =
    some (.ok ⟨"i", 1, .zero, .zero, 1⟩) ∧
      ∀ turn ∈ (staging (.replicate 20 .verifying)).turns, turn.who = .verifying := by
  decide +kernel

/-- The verification finds its image gone, which alone it finds in order: the update has removed it. -/
theorem Updater.verify_as_alone_sweeping :
    sweeping.left .verifying = .done (.error ⟨.verification (.unreadable
      (.located .notFound "/s/image-v")), .checksumVerified, .fetching, .nothingTouched⟩) ∧
    (∃ final, Program.Ends (Depot.answers smallOffers Party.verifying) (smallParties .verifying)
      ⟨fun _ => none, fun _ => none, fun _ => none⟩ (.ok ⟨"i", 1, .zero, .zero, 1⟩) final) ∧
    Disturbed sweeping.turns .verifying := by
  have ended := Scene.left_of_verified? sweeping_verified
  have solo := (staging_reached (.replicate 20 .verifying)).reaches staging_verified.2
  rw [Scene.left_of_verified? staging_verified.1] at solo
  refine ⟨ended, ⟨_, solo⟩, ?_⟩
  exact (verify_as_alone (staging_reached _) ended solo).resolve_left nofun

end DualSlot
