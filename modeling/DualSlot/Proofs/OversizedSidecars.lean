import DualSlot.Proofs.Cancellation
import DualSlot.Proofs.ExactAcceptance
import DualSlot.Proofs.JsonText

/-! Files beside an image that are larger than such files may be. Nothing after the limit is read of them, so that
they count as what they begin with: nobody finds out that there is more. -/

namespace DualSlot

/-- It is a failure, and nothing was touched. -/
def Refused (result : Except UpdateFailure α) : Prop :=
  ∃ failure, result = .error failure ∧ failure.impact = .nothingTouched

theorem Stopped.refused {result : Except UpdateFailure α} (stopped : Stopped result) : Refused result := by
  obtain ⟨failure, failed, -, untouched⟩ := stopped
  exact ⟨failure, failed, untouched⟩

namespace Stream

variable {stream : Stream} {bytes found : Bytes}

theorem Carries.take (carries : stream.Carries bytes) (count : Nat) :
    (stream.take count).Carries (bytes.take count) :=
  ⟨congrArg (List.take count) carries.rest, carries.piece⟩

theorem Carries.contents (carries : stream.Carries bytes) (whole : stream.contents = .ok found) : found = bytes := by
  unfold Stream.contents at whole
  split at whole
  next drained =>
    obtain rfl := Except.ok.inj whole
    exact carries.drain drained
  next => cases whole

end Stream

/-- The files beside an image. -/
inductive Sidecar where
  | checksum
  | metadata
  deriving DecidableEq, Repr

namespace Sidecar

def file (name : String) : Sidecar → String
  | checksum => name ++ ".sha256"
  | metadata => name ++ ".verity"

/-- What was read of the file. -/
def text (delivery : Delivery) : Sidecar → String
  | checksum => delivery.checksumText
  | metadata => delivery.metadataText

end Sidecar

namespace Updater

variable {updater : Updater} {faults : Faults} {offers : Offers}

theorem Accepts.deliversText {offers : String → Except IoError Stream} {name : String} {dossier : Dossier}
    (accepts : updater.Accepts offers name dossier) (sidecar : Sidecar) :
    DeliversText (offers (sidecar.file name)) (sidecar.text dossier.delivery) := by
  cases sidecar with
  | checksum => exact accepts.checksumText
  | metadata => exact accepts.metadataText

/-- The text that an artifact is accepted by is only the beginning of a file that is too large. -/
theorem Accepts.beginning {offers : String → Except IoError Stream} {name : String} {dossier : Dossier}
    (accepts : updater.Accepts offers name dossier) {sidecar : Sidecar} {stream : Stream} {contents : Bytes}
    (offered : offers (sidecar.file name) = .ok stream) (carries : stream.Carries contents)
    (oversized : Artifact.sidecarLimit < contents.length) :
    Bytes.ofString (sidecar.text dossier.delivery) <+: contents ∧
      (Bytes.ofString (sidecar.text dossier.delivery)).length = Artifact.sidecarLimit := by
  obtain ⟨opened, same, read⟩ := accepts.deliversText sidecar
  obtain rfl := Except.ok.inj (offered.symm.trans same)
  have beginning := (carries.take _).contents read
  rw [beginning]
  exact ⟨List.take_prefix .., List.length_take_of_le (Nat.le_of_lt oversized)⟩

theorem refused_of_inspection {α : Type} {offers : String → Except IoError Stream} {name : String}
    {failure : UpdateFailure} (failed : updater.inspection offers name = .error failure) :
    Refused (.error failure : Except UpdateFailure α) := by
  obtain ⟨progress, next, cause, rfl, untouched, -⟩ := inspection_eq_error failed
  exact ⟨_, rfl, untouched⟩

/-- An artifact is accepted unless its inspection fails. -/
theorem exists_failure_of_unaccepted {offers : String → Except IoError Stream} {name : String}
    (unaccepted : ¬ ∃ dossier, updater.Accepts offers name dossier) :
    ∃ failure, updater.inspection offers name = .error failure := by
  cases inspected : updater.inspection offers name with
  | error failure => exact ⟨failure, rfl⟩
  | ok found =>
    obtain ⟨metadata, levels, accepts⟩ := inspection_eq_ok_iff.1 inspected
    exact (unaccepted ⟨_, accepts⟩).elim

theorem stoppable_verify (updater : Updater) (source : Source) (image : String) :
    Stoppable (updater.verify source image).run := by
  apply stoppable_withVerified
  intro progress artifact tree _
  apply Stoppable.committed
  apply Committed.toward
  cases artifact.checksum with
  | error cause => exact .throw trivial
  | ok checksum => exact .pure _

end Updater

namespace Workshop

variable {faults : Faults} {offers : Offers} {updater : Updater} {start : Workshop} {source : Source}
  {name : String} {α : Type}

/-- What stages nothing may fail in any way before an artifact is fetched. -/
theorem safe_unstaging {next : Stage} {task : Task Failure α} (only : Task.AsksOnly (∀ dir, · ≠ Action.stage dir) task)
    (empty : start.view.staged? = none) :
    Safe faults offers (fun result after => (∀ failure, result = .error failure → failure.impact = .nothingTouched) ∧
      after.view.staged? = none) (Progress.start.toward next task).run start := by
  refine Progress.safe_toward (Program.Safe.weaken (only.safe (fun _ _ _ _ => trivial)
    (fun _ _ _ _ other kept answer => answer.2.2 other kept) empty) fun result _ unstaged => ⟨?_, unstaged⟩)
  intro failure failed
  obtain ⟨cause, -, rfl⟩ := Except.mapError_eq_error_iff.1 failed
  rfl

/-- An update of an artifact that does not pass its inspection touches nothing, on any machine. -/
theorem safe_update_refused (empty : start.view.staged? = none) {failure : UpdateFailure}
    (failed : updater.inspection (offers source) name = .error failure) :
    Safe faults offers (fun result _ => Refused result) (updater.update source name).run start := by
  refine Task.Safe.bind (safe_unstaging (.of (.ask (fun _ => nofun) fun _ => .done) _) empty)
    (fun failure _ holds => ⟨failure, rfl, holds.1 failure rfl⟩) ?_
  rintro held locked ⟨-, unstaged⟩
  refine Task.safe_followedBy (Program.Safe.weaken ?_ fun result _ (holds : Refused result) =>
    Acting.safe_ask (.store (.unlock held)) trivial fun _ _ _ => holds)
  refine Task.Safe.bind (safe_unstaging ?_ unstaged)
    (fun failure _ holds => ⟨failure, rfl, holds.1 failure rfl⟩) ?_
  · refine .bind (.of (.ask (fun _ => nofun) fun _ => .done) _) fun found => ?_
    cases found <;> exact .done
  rintro state read ⟨-, unstaged⟩
  refine Task.Safe.lift_bind (safe_cleanUp unstaged) fun _ cleaned unstaged => ?_
  -- Up to the verdict only what is fetched and staged counts, and the verdict is the failure.
  refine Program.Safe.seen Workshop.view (fun _ _ _ _ answer => answer.2.1) (View.safe_withVerified unstaged
    (fun _ other => Updater.refused_of_inspection other) fun found _ _ _ passed => ?_)
  rw [failed] at passed
  cases passed

end Workshop

namespace Updater

section Run

variable {σ : Type} {answer : (action : Action) → σ → action.Reply × σ} {updater : Updater} {faults : Faults}
  {offers : Offers}

/-- In a workshop whose operator does not interfere a flag that is never set is none. -/
theorem unflagged_sound {view : σ → Workshop}
    (sound : ∀ action state, Workshop.answers faults offers action (view state) (answer action state).1
      (view (answer action state).2)) (action : Action) (state : σ × List Action) :
    Workshop.answers faults offers action (view state.1) (flagged answer (fun _ => false) action state).1
      (view (flagged answer (fun _ => false) action state).2.1) := by
  cases action with
  | cancelled => exact ⟨rfl, ⟨rfl, rfl⟩, fun _ empty => empty⟩
  | _ => exact sound _ state.1

/-- What is refused when nobody wants it to stop is refused whenever somebody does. -/
theorem refused_of_unflagged {α : Type} {program : Acting (Except UpdateFailure α)} (stoppable : Stoppable program)
    {state : σ} (refused : Refused (program.run (flagged answer fun _ => false) (state, [])).1)
    (flag : List Action → Bool) : Refused (program.run (flagged answer flag) (state, [])).1 := by
  rcases stoppable.run answer flag state [] with ⟨same, -⟩ | ⟨stopped, -⟩
  · rw [same]
    exact refused
  · exact stopped.refused

/-- A verification that finds again what it has staged comes to its verdict. -/
theorem verify_run {source : Source} {name : String} (view : σ → View)
    (sound : ∀ action state, View.answers offers action (view state) (answer action state).1
      (view (answer action state).2)) {start : σ} (empty : (view start).staged? = none) :
    ((updater.verify source name).run.run answer start).1 = updater.verdict (offers source) name := by
  have safe : View.Safe offers _ (updater.verify source name).run (view start) := View.safe_verify empty
  exact safe.run view start sound

/-- A file beside an image that is too large counts as its beginning. Where this is not what it should be the
artifact is refused with nothing touched, whether or not the operator asks to stop; where it is, a verification
and an update accept the artifact by this beginning, whatever comes after it. -/
theorem oversized_counts_as_beginning (updater : Updater) (view : σ → Workshop)
    (sound : ∀ action state, Workshop.answers faults offers action (view state) (answer action state).1
      (view (answer action state).2))
    (source : Source) (name : String) {sidecar : Sidecar} {stream : Stream} {contents : Bytes}
    (offered : offers source (sidecar.file name) = .ok stream) (carries : stream.Carries contents)
    (oversized : Artifact.sidecarLimit < contents.length) {start : σ} (empty : (view start).view.staged? = none) :
    ((¬ ∃ dossier, updater.Accepts (offers source) name dossier) → ∀ flag,
      Refused ((updater.verify source name).run.run (flagged answer flag) (start, [])).1 ∧
      Refused ((updater.update source name).run.run (flagged answer flag) (start, [])).1) ∧
    ∀ dossier, updater.Accepts (offers source) name dossier →
      (Bytes.ofString (sidecar.text dossier.delivery) <+: contents ∧
        (Bytes.ofString (sidecar.text dossier.delivery)).length = Artifact.sidecarLimit) ∧
      ((updater.verify source name).run.run answer start).1 = .ok (dossier.report updater name) ∧
      (Workshop.Ready faults (view start).machine → PastChecks ((updater.update source name).run.run answer start).1) := by
  constructor
  · intro unaccepted flag
    obtain ⟨failure, failed⟩ := exists_failure_of_unaccepted unaccepted
    constructor
    · apply refused_of_unflagged (stoppable_verify updater source name)
      rw [verify_run (fun seen : σ × List Action => (view seen.1).view)
        (fun action state => (unflagged_sound sound action state).2.1) empty, verdict_eq, failed]
      exact refused_of_inspection failed
    · apply refused_of_unflagged (stoppable_update updater source name)
      have update : Workshop.Safe faults offers _ (updater.update source name).run (view start) :=
        Workshop.safe_update_refused empty failed
      exact update.run (fun seen : σ × List Action => view seen.1) (start, []) (unflagged_sound sound)
  · intro dossier accepts
    refine ⟨accepts.beginning offered carries oversized, ?_, fun ready => ?_⟩
    · rw [verify_run (fun seen => (view seen).view) (fun action state => (sound action state).2.1) empty]
      exact verdict_eq_ok_iff.2 ⟨dossier, accepts, rfl⟩
    · have update : Workshop.Safe faults offers _ (updater.update source name).run (view start) :=
        Workshop.safe_update ready empty
      exact (update.run view start sound).2 _ (inspection_eq_ok_iff.2 ⟨_, _, accepts⟩)

end Run

/-- A checksum file that is filled up with blanks beyond what is read of it. -/
def padded (text : String) : Bytes := Bytes.ofString text ++ List.replicate (Artifact.sidecarLimit + 1) 32

def paddedOffers (text : String) : Offers := fun source name =>
  if name = "i.sha256" then .ok (.ofBytes (padded text)) else describedOffers "1" source name

theorem ofString_blanks (count : Nat) :
    Bytes.ofString (.ofList (List.replicate count ' ')) = List.replicate count 32 := by
  rw [Bytes.ofString_eq, String.toList_ofList, Bytes.ofChars, List.flatMap_replicate]
  exact List.flatten_replicate_singleton

theorem blank_of_mem_replicate {count : Nat} : ∀ c ∈ List.replicate count ' ', Text.isBlank c = true := by
  intro c inside
  rw [List.eq_of_mem_replicate inside]
  rfl

/-- What is read of the file ends with blanks. -/
theorem deliversText_padded {text : String} (short : (Bytes.ofString text).length ≤ Artifact.sidecarLimit)
    (source : Source) : DeliversText (paddedOffers text source "i.sha256")
      (text ++ .ofList (List.replicate (Artifact.sidecarLimit - (Bytes.ofString text).length) ' ')) := by
  refine ⟨.ofBytes (padded text), rfl, ?_⟩
  have cut : (padded text).take Artifact.sidecarLimit = Bytes.ofString text ++
      List.replicate (Artifact.sidecarLimit - (Bytes.ofString text).length) 32 := by
    rw [padded, List.take_append, List.take_of_length_le short, List.take_replicate, Nat.min_eq_left (by omega)]
  rw [Bytes.ofString_append, ofString_blanks, ← cut]
  exact Stream.contents_ofBytes _

theorem deliversText_unique {offered : Except IoError Stream} {text other : String}
    (first : DeliversText offered text) (second : DeliversText offered other) : text = other := by
  obtain ⟨stream, opened, read⟩ := first
  obtain ⟨stream', opened', read'⟩ := second
  obtain rfl := Except.ok.inj (opened.symm.trans opened')
  rw [Except.ok.inj (sidecarText_eq_ok_iff.2 read |>.symm.trans (sidecarText_eq_ok_iff.2 read'))]

theorem spells_hex (digest : Digest) {blanks : List Char} (blank : ∀ c ∈ blanks, Text.isBlank c = true) :
    Spells (digest.hex ++ .ofList blanks) digest := by
  have given : digest.hex.toList ≠ [] := List.ne_nil_of_length_pos (by rw [digest.length_hex]; decide)
  refine ⟨digest.hex.toList, [], ?_, ?_⟩
  · rw [String.toList_append, String.toList_ofList, Text.words_append_blanks blank,
      Text.words_solid given digest.hex_solid]
  · have lower := Digest.parseChars_eq_ok_iff.1 digest.parseChars_hex
    rwa [Text.trim_eq_self digest.hex_solid] at lower

/-- The texts are judged and not the files: with another checksum file that spells the same checksum an artifact
is accepted as well. -/
theorem Accepts.respelled {updater : Updater} {offers others : String → Except IoError Stream} {name text : String}
    {dossier : Dossier} (accepts : updater.Accepts offers name dossier)
    (delivers : DeliversText (others (name ++ ".sha256")) text)
    (spells : Spells text (updater.hash dossier.delivery.image))
    (metadata : others (name ++ ".verity") = offers (name ++ ".verity")) (image : others name = offers name) :
    updater.Accepts others name { dossier with delivery := { dossier.delivery with checksumText := text } } :=
  { accepts with
    checksumText := delivers
    metadataText := metadata ▸ accepts.metadataText
    image := image ▸ accepts.image
    checksum := spells }

private theorem verdict_described :
    (tallying.verdict (describedOffers "1" (.web "")) "i").toOption.isSome = true := by
  decide +kernel

/-- Blanks after a checksum are passed over, of which as many are read as there is room for. -/
theorem accepts_padded : ∃ dossier, tallying.Accepts (paddedOffers (HashTree.tally [171]).hex (.web "")) "i" dossier := by
  obtain ⟨report, passed⟩ := Option.isSome_iff_exists.1 verdict_described
  obtain ⟨dossier, accepts, -⟩ := verdict_eq_ok_iff.1 (Except.eq_ok_of_toOption passed)
  have image : dossier.delivery.image = [171] := by
    obtain ⟨stream, offered, whole⟩ := accepts.image
    have bytes : Stream.ofBytes [171] = stream := Except.ok.inj offered
    rw [← bytes, Stream.contents_ofBytes] at whole
    exact (Except.ok.inj whole).symm
  have short : (Bytes.ofString (HashTree.tally [171]).hex).length ≤ Artifact.sidecarLimit := by decide
  refine ⟨_, accepts.respelled (deliversText_padded short (.web "")) ?_ rfl rfl⟩
  rw [image]
  exact spells_hex _ blank_of_mem_replicate

/-- Blanks alone are no checksum. -/
theorem unaccepted_padded : ¬ ∃ dossier, tallying.Accepts (paddedOffers "" (.web "")) "i" dossier := by
  rintro ⟨dossier, accepts⟩
  have short : (Bytes.ofString "").length ≤ Artifact.sidecarLimit := Nat.zero_le _
  have blank := deliversText_unique accepts.checksumText (deliversText_padded short (.web ""))
  obtain ⟨word, rest, words, -⟩ := accepts.checksum
  rw [blank, String.toList_append, String.toList_ofList, String.toList_ofList,
    Text.words_append_blanks blank_of_mem_replicate] at words
  cases words

/-- With blanks after the checksum the artifact is accepted, and with blanks alone it is refused. -/
theorem oversized_counts_as_beginning_padded :
    (∃ dossier : Dossier,
      ((tallying.verify (.web "") "i").run.run (Site.answer (paddedOffers (HashTree.tally [171]).hex)) Site.fresh).1 =
        .ok (dossier.report tallying "i") ∧
      PastChecks
        ((tallying.update (.web "") "i").run.run (Site.answer (paddedOffers (HashTree.tally [171]).hex)) Site.fresh).1) ∧
    ∀ flag,
      Refused ((tallying.verify (.web "") "i").run.run (flagged (Site.answer (paddedOffers "")) flag) (Site.fresh, [])).1 ∧
      Refused ((tallying.update (.web "") "i").run.run (flagged (Site.answer (paddedOffers "")) flag) (Site.fresh, [])).1 := by
  have oversized (text : String) : Artifact.sidecarLimit < (padded text).length := by
    rw [padded, List.length_append, List.length_replicate]
    omega
  have judged (text : String) := oversized_counts_as_beginning tallying Site.workshop (Site.sound (paddedOffers text))
    (.web "") "i" (rfl : paddedOffers text _ (Sidecar.checksum.file "i") = _) (.ofBytes (padded text)) (oversized text)
    (rfl : Site.fresh.workshop.view.staged? = none)
  constructor
  · obtain ⟨dossier, accepts⟩ := accepts_padded
    obtain ⟨-, verified, updated⟩ := (judged _).2 dossier accepts
    exact ⟨dossier, verified, updated Site.fresh_ready⟩
  · exact (judged "").1 unaccepted_padded

end Updater

end DualSlot
