import DualSlot.Proofs.Interleaving
import DualSlot.Proofs.Verdict

/-! Images that several calls stage at a time, in one directory or in many. What a call has staged stays
in place until it is removed, and what it has open goes on being delivered. -/

namespace DualSlot

/-- What an open stream reads: what a source delivered, or a staged file. -/
inductive Reading (ι : Type) where
  | source (stream : Stream)
  | staged (file : ι × Handle)

/-- The images that calls have staged. A file is known by the call that made it and by its handle there,
and outlives the path at which it was made. -/
structure Depot (ι : Type) where
  place : Path → Option (ι × Handle)
  contents : ι × Handle → Option Bytes
  reading : ι × Handle → Option (Reading ι)

namespace Depot

variable {ι : Type} [DecidableEq ι]

def setPlace (depot : Depot ι) (path : Path) (file? : Option (ι × Handle)) : Depot ι :=
  { depot with place := Function.update depot.place path file? }

def setContents (depot : Depot ι) (file : ι × Handle) (bytes : Bytes) : Depot ι :=
  { depot with contents := Function.update depot.contents file (some bytes) }

def setReading (depot : Depot ι) (handle : ι × Handle) (reading? : Option (Reading ι)) : Depot ι :=
  { depot with reading := Function.update depot.reading handle reading? }

/-- What is delivered to a call by a stream that it has opened. -/
def delivers (depot : Depot ι) (who : ι) (opened : Opened) : Option Stream :=
  (depot.reading (who, opened.file)).map fun
    | .source stream => opened.cut stream
    | .staged file => opened.cut (.ofBytes ((depot.contents file).getD []))

/-- How a call is replied to where staging works and nobody cancels. What is asked of the store, of the
slots, and of the loader's files has nothing to do with staged images, and may be replied to in any way. -/
def answers (offers : Offers) (who : ι) : Surroundings actions (Depot ι)
  | .openSource source name, before, reply, after =>
    match offers source name with
    | .error cause => reply = .error cause ∧ after = before
    | .ok stream =>
      ∃ file, reply = .ok ⟨file, none⟩ ∧ after = before.setReading (who, file) (some (.source stream))
  | .openStaged staged, before, reply, after =>
    match before.place staged.path with
    | none => reply = .error (.located .notFound staged.path.text) ∧ after = before
    | some found =>
      ∃ file, reply = .ok ⟨file, none⟩ ∧ after = before.setReading (who, file) (some (.staged found))
  | .receive opened _, before, stream, after =>
    after = before ∧ ∀ delivered, before.delivers who opened = some delivered → stream = delivered
  | .stage dir, before, reply, after =>
    ∃ staged suffix, reply = .ok staged ∧ staged.path = dir.join (Artifact.stagedStem ++ suffix) ∧
      before.place staged.path = none ∧ before.contents (who, staged.file) = none ∧
      after = (before.setPlace staged.path (some (who, staged.file))).setContents (who, staged.file) []
  | .fill staged image, before, reply, after =>
    ∃ bytes, after = before.setContents (who, staged.file) bytes ∧
      ∀ delivered, before.delivers who image = some delivered →
        reply = delivered.contents.map List.length ∧ bytes = delivered.drain.1
  | .discard staged, before, _, after => after = before.setPlace staged.path none
  | .remove _, before, .error _, after => after = before
  | .remove path, before, .ok _, after => after = before.setPlace path none
  | .list dir, before, reply, after =>
    after = before ∧
      ∀ names, reply = .ok names → ∀ name ∈ names, (before.place (dir.join name)).isSome
  | .openSlot _ _, before, .error _, after => after = before
  | .openSlot _ _, before, .ok opened, after => after = before.setReading (who, opened.file) none
  | .cancelled, before, reply, after => reply = false ∧ after = before
  | .store _, before, _, after | .present _, before, _, after | .read _, before, _, after
  | .replace _ _, before, _, after | .writeSlot _ _, before, _, after | .now, before, _, after
  | .log _ _ _, before, _, after => after = before

end Depot

section Turns

variable {ι σ : Type}

/-- The file that was staged in a turn. -/
def Turn.staged? : Turn ι actions σ → Option Staged
  | ⟨_, .stage _, .ok staged, _, _⟩ => some staged
  | _ => none

/-- The path that was freed in a turn, by removing a leftover or by discarding a staged file. -/
def Turn.removed? : Turn ι actions σ → Option Path
  | ⟨_, .remove path, .ok _, _, _⟩ => some path
  | ⟨_, .discard staged, _, _, _⟩ => some staged.path
  | _ => none

/-- The staged file that was opened again in a turn. -/
def Turn.reopened? : Turn ι actions σ → Option Staged
  | ⟨_, .openStaged staged, _, _, _⟩ => some staged
  | _ => none

end Turns

namespace Depot

variable {ι : Type} {offers : Offers} {who other : ι} {depot before after : Depot ι}
  {action : Action} {reply : action.Reply} {view : View}

/-- A stream that a call has opened itself delivers this: one of a source, or of a file that it made. -/
inductive Delivers (depot : Depot ι) (who : ι) (handle : Handle) : Stream → Prop where
  | source {stream} (reads : depot.reading (who, handle) = some (.source stream)) :
      Delivers depot who handle stream
  | staged {own bytes} (reads : depot.reading (who, handle) = some (.staged (who, own)))
      (holds : depot.contents (who, own) = some bytes) : Delivers depot who handle (.ofBytes bytes)

theorem Delivers.delivers {opened : Opened} {stream : Stream}
    (holds : depot.Delivers who opened.file stream) :
    depot.delivers who opened = some (opened.cut stream) := by
  cases holds with
  | source reads => simp [Depot.delivers, reads]
  | staged reads holds => simp [Depot.delivers, reads, holds]

/-- What a call knows of its streams and of its staged file is so. -/
structure Follows (depot : Depot ι) (who : ι) (view : View) : Prop where
  staged : ∀ staged bytes, view.staged? = some (staged, bytes) →
    depot.contents (who, staged.file) = some bytes
  reading : ∀ handle stream, view.reading handle = some stream → depot.Delivers who handle stream

theorem Follows.congr (follows : before.Follows who view)
    (contents : ∀ file, after.contents (who, file) = before.contents (who, file))
    (reading : ∀ handle, after.reading (who, handle) = before.reading (who, handle)) :
    after.Follows who view where
  staged staged bytes known := (contents _).trans (follows.staged staged bytes known)
  reading handle stream known := by
    cases follows.reading handle stream known with
    | source reads => exact .source ((reading handle).trans reads)
    | staged reads holds => exact .staged ((reading handle).trans reads) ((contents _).trans holds)

/-- The files and streams of a call are left alone, and a file stays at its path unless it is removed. -/
structure Spares (before : Depot ι) (who : ι) (removed? : Option Path) (after : Depot ι) : Prop where
  contents : ∀ file, after.contents (who, file) = before.contents (who, file)
  reading : ∀ handle, after.reading (who, handle) = before.reading (who, handle)
  place : ∀ path file, before.place path = some file →
    after.place path = some file ∨ removed? = some path

namespace Spares

variable {removed? : Option Path}

theorem refl (depot : Depot ι) : depot.Spares who removed? depot :=
  ⟨fun _ => rfl, fun _ => rfl, fun _ _ placed => .inl placed⟩

theorem trans {middle : Depot ι} (first : before.Spares who removed? middle)
    (last : middle.Spares who removed? after) : before.Spares who removed? after where
  contents file := (last.contents file).trans (first.contents file)
  reading handle := (last.reading handle).trans (first.reading handle)
  place path file placed := by
    rcases first.place path file placed with stays | removed
    · exact last.place path file stays
    · exact .inr removed

theorem put {path : Path} (free : depot.place path = none) (file : ι × Handle) :
    depot.Spares who removed? (depot.setPlace path (some file)) where
  contents _ := rfl
  reading _ := rfl
  place found file placed := by
    have elsewhere : found ≠ path := by
      rintro rfl
      rw [free] at placed
      cases placed
    exact .inl ((Function.update_of_ne elsewhere _ _).trans placed)

theorem unlink (depot : Depot ι) (path : Path) : depot.Spares who (some path) (depot.setPlace path none) where
  contents _ := rfl
  reading _ := rfl
  place found file placed := by
    obtain rfl | elsewhere := eq_or_ne found path
    · exact .inr rfl
    · exact .inl ((Function.update_of_ne elsewhere _ _).trans placed)

end Spares

variable [DecidableEq ι]

/-- A stream is opened. -/
theorem Follows.opening (follows : depot.Follows who view) {handle : Handle} {stream : Stream}
    {reading : Reading ι} (delivers : (depot.setReading (who, handle) (some reading)).Delivers who handle stream) :
    (depot.setReading (who, handle) (some reading)).Follows who (view.opening handle stream) where
  staged := follows.staged
  reading other found known := by
    obtain rfl | different := eq_or_ne other handle
    · rw [View.reading_opening_self] at known
      exact Option.some_inj.1 known ▸ delivers
    · rw [View.reading_opening_of_ne different] at known
      have same : (depot.setReading (who, handle) (some reading)).reading (who, other) =
          depot.reading (who, other) :=
        Function.update_of_ne (fun equal => different (congrArg Prod.snd equal)) _ _
      cases follows.reading other found known with
      | source reads => exact .source (same.trans reads)
      | staged reads holds => exact .staged (same.trans reads) holds

namespace Spares

variable {removed? : Option Path}

theorem setReading (different : other ≠ who) (depot : Depot ι) (handle : Handle) (reading? : Option (Reading ι)) :
    depot.Spares who removed? (depot.setReading (other, handle) reading?) where
  contents _ := rfl
  reading _ := Function.update_of_ne (fun same => different (congrArg Prod.fst same).symm) _ _
  place _ _ placed := .inl placed

theorem setContents (different : other ≠ who) (depot : Depot ι) (file : Handle) (bytes : Bytes) :
    depot.Spares who removed? (depot.setContents (other, file) bytes) where
  contents _ := Function.update_of_ne (fun same => different (congrArg Prod.fst same).symm) _ _
  reading _ := rfl
  place _ _ placed := .inl placed

end Spares

/-- What another call does spares a call. -/
theorem answers_other (answer : answers offers other action before reply after) (different : other ≠ who) :
    before.Spares who (⟨other, action, reply, before, after⟩ : Turn ι actions (Depot ι)).removed? after := by
  cases action with
  | openSource source name =>
    simp only [answers] at answer
    split at answer
    · obtain ⟨-, rfl⟩ := answer
      exact .refl _
    · obtain ⟨file, -, rfl⟩ := answer
      exact .setReading different _ _ _
  | openStaged staged =>
    simp only [answers] at answer
    split at answer
    · obtain ⟨-, rfl⟩ := answer
      exact .refl _
    · obtain ⟨file, -, rfl⟩ := answer
      exact .setReading different _ _ _
  | stage dir =>
    obtain ⟨staged, suffix, -, -, free, -, rfl⟩ := answer
    exact (Spares.put free _).trans (.setContents different _ _ _)
  | fill staged image =>
    obtain ⟨bytes, rfl, -⟩ := answer
    exact .setContents different _ _ _
  | discard staged =>
    obtain rfl : after = before.setPlace staged.path none := answer
    exact .unlink _ _
  | remove path =>
    cases reply with
    | error cause =>
      obtain rfl : after = before := answer
      exact .refl _
    | ok _ =>
      obtain rfl : after = before.setPlace path none := answer
      exact .unlink _ _
  | openSlot slot length =>
    cases reply with
    | error cause =>
      obtain rfl : after = before := answer
      exact .refl _
    | ok opened =>
      obtain rfl : after = before.setReading (other, opened.file) none := answer
      exact .setReading different _ _ _
  | receive _ _ | list _ =>
    obtain ⟨rfl, -⟩ := answer
    exact .refl _
  | cancelled =>
    obtain ⟨-, rfl⟩ := answer
    exact .refl _
  | store _ | present _ | read _ | replace _ _ | writeSlot _ _ | now | log _ _ _ =>
    obtain rfl : after = before := answer
    exact .refl _

/-- What a call does itself it does as it expects, if a file that it opens again is where it staged it. -/
theorem Follows.own (follows : before.Follows who view) (allowed : action.Tends view.kept)
    (answer : answers offers who action before reply after)
    (placed : ∀ staged, action = .openStaged staged →
      before.place staged.path = some (who, staged.file)) :
    ∃ later, View.answers offers action view reply later ∧ after.Follows who later ∧
      ∀ staged, later.kept = some staged → (view.kept = some staged ∧ after.place = before.place) ∨
        ((⟨who, action, reply, before, after⟩ : Turn ι actions (Depot ι)).staged? = some staged ∧
          after.place staged.path = some (who, staged.file)) := by
  cases action with
  | openSource source name =>
    cases offered : offers source name with
    | error cause =>
      simp only [answers, offered] at answer
      obtain ⟨rfl, rfl⟩ := answer
      exact ⟨view, by simp [View.answers, offered], follows, fun _ known => .inl ⟨known, rfl⟩⟩
    | ok stream =>
      simp only [answers, offered] at answer
      obtain ⟨file, rfl, rfl⟩ := answer
      refine ⟨view.opening file stream, by simp [View.answers, offered], follows.opening (.source ?_),
        fun _ known => .inl ⟨known, rfl⟩⟩
      exact Function.update_self ..
  | openStaged staged =>
    have found := placed staged rfl
    simp only [answers, found] at answer
    obtain ⟨file, rfl, rfl⟩ := answer
    obtain ⟨⟨_, bytes⟩, known, rfl⟩ := Option.map_eq_some_iff.1 allowed
    refine ⟨view.opening file (.ofBytes bytes), ?_, follows.opening (.staged (Function.update_self ..)
      (follows.staged _ _ known)), fun _ known => .inl ⟨known, rfl⟩⟩
    intro other same
    obtain ⟨-, rfl⟩ := Prod.mk.inj (Option.some_inj.1 (known.symm.trans same))
    exact ⟨file, rfl, rfl⟩
  | receive opened purpose =>
    obtain ⟨rfl, stream⟩ := answer
    refine ⟨view, ⟨rfl, fun delivered known => ?_⟩, follows, fun _ known => .inl ⟨known, rfl⟩⟩
    exact stream _ (follows.reading _ _ known).delivers
  | stage dir =>
    obtain ⟨staged, suffix, rfl, -, free, fresh, rfl⟩ := answer
    refine ⟨⟨some (staged, []), view.reading⟩, ⟨staged, rfl, rfl⟩, ⟨?_, ?_⟩, ?_⟩
    · rintro _ _ ⟨⟩
      exact Function.update_self ..
    · intro handle stream known
      cases follows.reading handle stream known with
      | source reads => exact .source reads
      | @staged own bytes reads holds =>
        refine .staged reads ((Function.update_of_ne ?_ _ _).trans holds)
        intro same
        rw [same, fresh] at holds
        cases holds
    · rintro _ ⟨⟩
      exact .inr ⟨rfl, Function.update_self ..⟩
  | fill staged image =>
    obtain ⟨bytes, rfl, filled⟩ := answer
    refine ⟨⟨some (staged, bytes), fun _ => none⟩, ?_, ⟨?_, (fun _ _ known => by cases known)⟩, ?_⟩
    · intro _ delivered _ reads
      obtain ⟨rfl, rfl⟩ := filled _ (follows.reading _ _ reads).delivers
      exact ⟨rfl, rfl⟩
    · rintro _ _ ⟨⟩
      exact Function.update_self ..
    · rintro _ ⟨⟩
      exact .inl ⟨allowed, rfl⟩
  | discard staged =>
    obtain rfl : after = before.setPlace staged.path none := answer
    have same : (before.setPlace staged.path none).Follows who view :=
      follows.congr (fun _ => rfl) fun _ => rfl
    exact ⟨{ view with staged? := none }, rfl, ⟨(fun _ _ known => by cases known), same.reading⟩,
      (fun _ known => by cases known)⟩
  | remove path =>
    have nothing (staged : Staged) : view.kept ≠ some staged := by
      rw [show view.kept = none from allowed]
      intro known
      cases known
    refine ⟨view, trivial, ?_, fun _ known => absurd known (nothing _)⟩
    cases reply with
    | error cause =>
      obtain rfl : after = before := answer
      exact follows
    | ok _ =>
      obtain rfl : after = before.setPlace path none := answer
      exact follows.congr (fun _ => rfl) fun _ => rfl
  | openSlot slot length =>
    cases reply with
    | error cause =>
      obtain rfl : after = before := answer
      exact ⟨view, trivial, follows, fun _ known => .inl ⟨known, rfl⟩⟩
    | ok opened =>
      obtain rfl : after = before.setReading (who, opened.file) none := answer
      exact ⟨⟨view.staged?, fun _ => none⟩, trivial, ⟨follows.staged, (fun _ _ known => by cases known)⟩,
        fun _ known => .inl ⟨known, rfl⟩⟩
  | list dir =>
    obtain ⟨rfl, -⟩ := answer
    exact ⟨view, trivial, follows, fun _ known => .inl ⟨known, rfl⟩⟩
  | cancelled =>
    obtain ⟨rfl, rfl⟩ := answer
    exact ⟨view, ⟨rfl, rfl⟩, follows, fun _ known => .inl ⟨known, rfl⟩⟩
  | log topic level text =>
    obtain rfl : after = before := answer
    exact ⟨view, rfl, follows, fun _ known => .inl ⟨known, rfl⟩⟩
  | store _ | present _ | read _ | replace _ _ | writeSlot _ _ | now =>
    obtain rfl : after = before := answer
    exact ⟨view, trivial, follows, fun _ known => .inl ⟨known, rfl⟩⟩

end Depot

end DualSlot
