import DualSlot.Proofs.EntryText
import DualSlot.Proofs.TaskSafety

/-! The loader's files on a machine: what the menu reads from them, and what an attempt to replace one
of them can leave. -/

namespace DualSlot

theorem Bytes.text?_ofString (text : String) : Bytes.text? (Bytes.ofString text) = some text := by
  unfold Bytes.text? Bytes.ofString
  simp only [String.fromUTF8?, String.toUTF8_eq_toByteArray, Array.toArray_toList]
  exact dif_pos text.isValidUTF8

theorem Bytes.text?_eq_some_iff {bytes : Bytes} {text : String} :
    Bytes.text? bytes = some text ↔ bytes = Bytes.ofString text := by
  constructor
  · intro decoded
    unfold Bytes.text? String.fromUTF8? at decoded
    split at decoded
    · cases decoded
      rfl
    · cases decoded
  · rintro rfl
    exact text?_ofString text

namespace BootMenu

variable {faults : Faults} {discipline : Discipline} {machine : Machine}
  {menu : BootMenu} {slot : Slot}

/-- A file and the draft that its new contents are first written to. -/
def WrittenWith (path other : Path) : Prop := other = path ∨ other = Durable.draft path

/-- An attempt to replace a file leaves it with its new or its old contents. -/
theorem replace_leaves {path : Path} {contents : Bytes} {reply : Except IoError Unit} {after : Machine}
    (answer : Machine.answers faults (.replace path contents) machine reply after) :
    Storage.OnlyFiles (WrittenWith path) machine.storage after.storage ∧
      Leaves (fun after => after.storage.files path = some contents ∨
          after.storage.files path = machine.storage.files path)
        (fun _ after => after.storage.files path = some contents) reply after := by
  obtain ⟨draft, found, rfl, replied⟩ := answer
  refine ⟨(Storage.OnlyFiles.setFile (.inr rfl) _ _).trans (.setFile (.inl rfl) _ _), ?_⟩
  have holds : (machine.put ((machine.storage.setFile (Durable.draft path) draft).setFile path
      found)).storage.files path = found := Function.update_self ..
  cases reply with
  | ok _ => exact holds.trans replied
  | error cause => exact replied.2.imp holds.trans holds.trans

theorem safe_replaceText {path : Path} {text : String}
    (allowed : discipline.allows (.replace path (Bytes.ofString text)) machine.storage) :
    Task.Safe faults discipline
      (fun result after => Storage.OnlyFiles (WrittenWith path) machine.storage after.storage ∧
        Leaves (fun after => after.storage.files path = some (Bytes.ofString text) ∨
            after.storage.files path = machine.storage.files path)
          (fun _ after => after.storage.files path = some (Bytes.ofString text)) result after)
      (replaceText path text) machine := by
  refine Task.safe_of (Acting.safe_perform (.replace path (Bytes.ofString text)) allowed ?_)
  intro reply after answer
  exact ⟨(replace_leaves answer).1, (replace_leaves answer).2.mapError⟩

theorem safe_readText? {path : Path} :
    Task.Safe faults discipline
      (Leaves (fun after => after = machine ∧
          (machine.storage.text? path = none ∧ machine.storage.files path ≠ none ∨
            faults.refuses (.read path)))
        fun found after => after = machine ∧ found = machine.storage.text? path ∧
          (found = none → machine.storage.files path = none))
      (readText? path) machine := by
  refine Task.Safe.bind (Q := Leaves (fun after => after = machine ∧ faults.refuses (.read path))
    fun found after => after = machine ∧ found = machine.storage.files path) ?_
    (fun _ _ ⟨same, refused⟩ => ⟨same, .inr refused⟩) ?_
  · refine Task.safe_of (Acting.safe_perform (.read path)
      (discipline.quiet _ _ trivial) ?_)
    rintro reply after ⟨same, replied⟩
    cases reply with
    | ok found => exact ⟨same, replied⟩
    | error cause => exact ⟨same, replied⟩
  · rintro found after ⟨same, read⟩
    cases found with
    | none => exact .done ⟨same, by rw [Storage.text?, ← read]; rfl, fun _ => read.symm⟩
    | some contents =>
      have text : machine.storage.text? path = contents.text? := by rw [Storage.text?, ← read]; rfl
      cases decoded : contents.text? with
      | none =>
        simp only [decoded]
        exact .done ⟨same, .inl ⟨text.trans decoded, by simp [← read]⟩⟩
      | some written =>
        simp only [decoded]
        exact .done ⟨same, (text.trans decoded).symm, fun impossible => by cases impossible⟩

/-- Reading an entry fails only if the entry cannot be read, or if reading its file is refused. -/
theorem safe_entry? :
    Task.Safe faults discipline
      (Leaves (fun after => after = machine ∧
          (menu.entryIn machine.storage slot = none ∨ faults.refuses (.read (menu.entryPath slot))))
        fun found after => after = machine ∧ found = menu.entryIn machine.storage slot ∧
          (found = none → machine.storage.files (menu.entryPath slot) = none))
      (menu.entry? slot) machine := by
  refine Task.Safe.bind safe_readText? ?_ ?_
  · rintro cause after ⟨same, unread⟩
    refine ⟨same, unread.imp_left fun unread => ?_⟩
    rw [entryIn, unread.1]
    rfl
  · rintro found after ⟨same, read, missing⟩
    have entry : menu.entryIn machine.storage slot =
      found.bind fun text => (BootEntry.parse slot text).toOption := by rw [entryIn, ← read]
    cases found with
    | none => exact .done ⟨same, entry.symm, fun _ => missing rfl⟩
    | some text =>
      cases parsed : BootEntry.parse slot text with
      | ok found =>
        simp only [parsed]
        refine .done ⟨same, ?_, fun impossible => by cases impossible⟩
        rw [entry]
        simp [parsed, Except.toOption]
      | error fault =>
        simp only [parsed]
        refine .done ⟨same, .inl ?_⟩
        rw [entry]
        simp [parsed, Except.toOption]

theorem safe_entryHash? :
    Acting.Safe faults discipline
      (fun found after => after = machine ∧
        (found = (menu.entryIn machine.storage slot).map BootEntry.rootHash ∨
          found = none ∧ faults.refuses (.read (menu.entryPath slot))))
      (menu.entryHash? slot) machine := by
  refine Program.Safe.bind safe_entry? ?_
  intro result after read
  cases result with
  | ok found => exact .done ⟨read.1, .inl (congrArg (Option.map BootEntry.rootHash) read.2.1)⟩
  | error error =>
    refine Acting.safe_log_bind (.done ⟨read.1, ?_⟩)
    obtain unread | refused := read.2
    · exact .inl (by rw [unread]; rfl)
    · exact .inr ⟨rfl, refused⟩

/-- The loader passes the slot over: it has no entry, or its entry has no tries left. -/
def Masked (menu : BootMenu) (storage : Storage) (slot : Slot) : Prop :=
  storage.files (menu.entryPath slot) = none ∨
    (∃ entry, menu.entryIn storage slot = some entry ∧ entry.triesLeft = 0) ∨
    ∃ rootHash, storage.files (menu.entryPath slot) =
      some (menu.entryBytes ⟨slot, rootHash, menu.tries, 0⟩)

theorem entryIn_entryBytes (entry : BootEntry) (legible : menu.templates.Legible) {storage : Storage}
    (written : storage.files (menu.entryPath entry.slot) = some (menu.entryBytes entry)) :
    menu.entryIn storage entry.slot = some entry := by
  rw [entryIn, Storage.text?, written, Option.bind_some, entryBytes, Bytes.text?_ofString,
    Option.bind_some, legible entry]
  rfl

theorem defaultIn_loaderBytes {storage : Storage}
    (written : storage.files menu.loaderFile = some (menu.loaderBytes slot)) :
    menu.defaultIn storage = some slot := by
  rw [defaultIn, Storage.text?, written, Option.bind_some, loaderBytes, Bytes.text?_ofString,
    Option.bind_some, defaultSlot?_renderLoader]

/-- Entries that can be read back show that a slot is passed over. -/
theorem Masked.passedOver {storage : Storage} (masked : menu.Masked storage slot)
    (legible : menu.templates.Legible) :
    storage.files (menu.entryPath slot) = none ∨
      ∃ entry, menu.entryIn storage slot = some entry ∧ entry.triesLeft = 0 := by
  refine masked.imp_right fun shown => ?_
  obtain shown | ⟨rootHash, written⟩ := shown
  · exact shown
  · exact ⟨_, entryIn_entryBytes ⟨slot, rootHash, menu.tries, 0⟩ legible written, rfl⟩

theorem safe_setDefault
    (allowed : discipline.allows (.replace menu.loaderFile (menu.loaderBytes slot)) machine.storage) :
    Task.Safe faults discipline
      (fun result after =>
        Storage.OnlyFiles (WrittenWith menu.loaderFile) machine.storage after.storage ∧
        Leaves (fun _ => True)
          (fun _ after => after.storage.files menu.loaderFile = some (menu.loaderBytes slot))
          result after)
      (menu.setDefault slot) machine := by
  refine Task.Safe.bind (safe_replaceText allowed) (fun _ _ ⟨only, _⟩ => ⟨only, trivial⟩) ?_
  exact fun _ after written => Task.safe_lift (Acting.safe_log written)

theorem safe_writeEntry {rootHash : Digest} {triesLeft : UInt32}
    (allowed : discipline.allows (.replace (menu.entryPath slot)
      (menu.entryBytes ⟨slot, rootHash, menu.tries, triesLeft⟩)) machine.storage) :
    Task.Safe faults discipline
      (fun result after =>
        Storage.OnlyFiles (WrittenWith (menu.entryPath slot)) machine.storage after.storage ∧
        Leaves (fun _ => True)
          (fun _ after => after.storage.files (menu.entryPath slot) =
            some (menu.entryBytes ⟨slot, rootHash, menu.tries, triesLeft⟩)) result after)
      (menu.writeEntry slot rootHash triesLeft false) machine := by
  refine Task.Safe.bind (safe_replaceText allowed) (fun _ _ ⟨only, _⟩ => ⟨only, trivial⟩) ?_
  exact fun _ after written => Task.safe_log_bind (.done written)

/-- The files of the menu and their drafts. -/
def MenuFile (menu : BootMenu) (path : Path) : Prop :=
  WrittenWith menu.loaderFile path ∨ ∃ slot, WrittenWith (menu.entryPath slot) path

/-- A slot's entry is in place before it becomes the default. -/
theorem safe_writeDefault {rootHash : Digest} {triesLeft : UInt32}
    (allowed : discipline.allows (.replace (menu.entryPath slot)
      (menu.entryBytes ⟨slot, rootHash, menu.tries, triesLeft⟩)) machine.storage)
    (pointed : ∀ storage, Storage.OnlyFiles (WrittenWith (menu.entryPath slot)) machine.storage storage →
      storage.files (menu.entryPath slot) =
        some (menu.entryBytes ⟨slot, rootHash, menu.tries, triesLeft⟩) →
      discipline.allows (.replace menu.loaderFile (menu.loaderBytes slot)) storage) :
    Task.Safe faults discipline
      (fun result after =>
        Storage.OnlyFiles menu.MenuFile machine.storage after.storage ∧
        Leaves (fun _ => True)
          (fun _ after => after.storage.files menu.loaderFile = some (menu.loaderBytes slot))
          result after)
      (menu.writeEntry slot rootHash triesLeft true) machine := by
  have entryFile : ∀ path, WrittenWith (menu.entryPath slot) path → menu.MenuFile path :=
    fun _ written => .inr ⟨slot, written⟩
  refine Task.Safe.bind (safe_replaceText allowed)
    (fun _ _ ⟨only, _⟩ => ⟨only.mono entryFile, trivial⟩) ?_
  rintro _ middle ⟨only, written⟩
  refine Task.safe_log_bind (Program.Safe.weaken (safe_setDefault (pointed _ only written)) ?_)
  rintro result after ⟨loaderOnly, shown⟩
  exact ⟨(only.mono entryFile).trans (loaderOnly.mono fun _ written => .inl written), shown⟩

/-- The entry of a slot that is to be passed over is written at most once, and at once with no tries
left. -/
theorem safe_disable
    (allowed : ∀ rootHash, discipline.allows (.replace (menu.entryPath slot)
      (menu.entryBytes ⟨slot, rootHash, menu.tries, 0⟩)) machine.storage) :
    Task.Safe faults discipline
      (fun result after =>
        Storage.OnlyFiles (WrittenWith (menu.entryPath slot)) machine.storage after.storage ∧
        Leaves (fun _ => True) (fun _ after => menu.Masked after.storage slot) result after)
      (menu.disable slot) machine := by
  have unchanged : Storage.OnlyFiles (WrittenWith (menu.entryPath slot)) machine.storage
    machine.storage := .of_eq rfl
  have withoutTries (rootHash : Digest) : Task.Safe faults discipline
      (fun result after =>
        Storage.OnlyFiles (WrittenWith (menu.entryPath slot)) machine.storage after.storage ∧
        Leaves (fun _ => True) (fun _ after => menu.Masked after.storage slot) result after)
      (do
        menu.writeEntry slot rootHash 0 false
        log .bootEntries .info s!"disabled boot entry of slot {slot.name}") machine := by
    refine Task.Safe.bind (safe_writeEntry (allowed rootHash)) (fun _ _ ⟨only, _⟩ => ⟨only, trivial⟩) ?_
    exact fun _ after ⟨only, written⟩ =>
      Task.safe_lift (Acting.safe_log ⟨only, .inr (.inr ⟨rootHash, written⟩)⟩)
  refine Task.Safe.lift_bind (Acting.safe_perform _ (discipline.quiet _ _ trivial)
    fun _ _ answer => answer) ?_
  rintro present after ⟨rfl, found⟩
  cases present with
  | false =>
    have missing : after.storage.files (menu.entryPath slot) = none := by simpa using found.symm
    exact .done ⟨unchanged, .inl missing⟩
  | true =>
    refine Task.Safe.bind (Q := Leaves (fun _ => False) fun result reached => reached = after ∧
      ∀ entry, result = .ok entry → entry = menu.entryIn after.storage slot ∧
        (entry = none → after.storage.files (menu.entryPath slot) = none))
      (Task.safe_outcome (Program.Safe.weaken safe_entry? ?_)) (fun _ _ never => never.elim) ?_
    · intro result reached read
      cases result with
      | ok found =>
        refine ⟨read.1, ?_⟩
        rintro entry ⟨⟩
        exact read.2
      | error error => exact ⟨read.1, fun entry impossible => by cases impossible⟩
    · rintro result reached ⟨rfl, read⟩
      match result with
      | .ok none => exact .done ⟨unchanged, .inl ((read none rfl).2 rfl)⟩
      | .ok (some entry) =>
        by_cases spent : entry.triesLeft = 0
        · simp only [spent, ite_true]
          exact .done ⟨unchanged, .inr (.inl ⟨entry, (read _ rfl).1.symm, spent⟩)⟩
        · simp only [spent, ite_false]
          exact withoutTries entry.rootHash
      | .error error => exact Task.safe_log_bind (withoutTries .zero)

end BootMenu

end DualSlot
