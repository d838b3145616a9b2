import DualSlot.Artifact
import DualSlot.Proofs.MenuFiles

/-! The name at the end of a path. It survives whatever directory the name is joined to, so files with
different names are different files, and no staged image is a file of the menu's entries. -/

namespace DualSlot

namespace Path

variable {base dir : Path} {name other : String}

/-- The name is the last piece, after those of the directory but for empty ones. -/
theorem pieces_join (base : Path) (plain : '/' ∉ name.toList) :
    ∃ before, (base.join name).pieces = before ++ [name.toList] ∧
      before.filter (fun piece => !piece.isEmpty) = base.pieces.filter (fun piece => !piece.isEmpty) := by
  have relative : name.toList.head? ≠ some '/' := fun first => plain (List.mem_of_mem_head? first)
  have whole : name.toList.splitOn '/' = [name.toList] := List.splitOn_eq_singleton plain
  unfold join
  rw [if_neg relative]
  split
  next none =>
    have empty : base.text.toList = [] := List.getLast?_eq_none_iff.1 none
    exact ⟨[], by simp [pieces, empty, whole], by simp [pieces, empty]⟩
  next slash =>
    obtain ⟨before, text⟩ := List.getLast?_eq_some_iff.1 slash
    have joined : (base.text ++ name).toList = before ++ '/' :: name.toList := by simp [text]
    refine ⟨before.splitOn '/', ?_, ?_⟩
    · rw [pieces, joined, List.splitOn_append_cons_self, whole]
    · rw [pieces, text, List.splitOn_append_cons_self]
      simp
  next =>
    have joined : (base.text ++ "/" ++ name).toList = base.text.toList ++ '/' :: name.toList := by simp
    refine ⟨base.pieces, ?_, rfl⟩
    rw [pieces, joined, List.splitOn_append_cons_self, whole]
    rfl

theorem name_of_join_eq (plain : '/' ∉ name.toList) (otherPlain : '/' ∉ other.toList)
    (same : base.join name = dir.join other) : name = other := by
  obtain ⟨before, pieces, -⟩ := pieces_join base plain
  obtain ⟨otherBefore, otherPieces, -⟩ := pieces_join dir otherPlain
  rw [same, otherPieces] at pieces
  have last := congrArg List.getLast? pieces
  simp only [List.getLast?_append, List.getLast?_singleton, Option.some_or, Option.some.injEq] at last
  exact String.toList_inj.1 last.symm

theorem dropIdleEnd_append {piece : List Char} (busy : isIdle piece = false) (before : List (List Char)) :
    dropIdleEnd (before ++ [piece]) = before ++ [piece] := by
  simp [dropIdleEnd, busy]

/-- From a piece that counts on, everything is left to the body, and nothing in front of it is lost. -/
theorem splitHead_append {piece : List Char} (busy : isIdle piece = false) (before after : List (List Char)) :
    ∃ head body, splitHead (before ++ piece :: after) = (head, body ++ piece :: after) ∧ head ++ body = before := by
  cases before with
  | nil =>
    refine ⟨[], [], ?_, rfl⟩
    cases piece with
    | nil => exact absurd busy (by decide)
    | cons c more => simp [splitHead, busy]
  | cons first more =>
    cases idle : isIdle first with
    | true => exact ⟨[first], more, by cases first <;> cases more <;> simp_all [splitHead], rfl⟩
    | false => exact ⟨[], first :: more, by cases first <;> cases more <;> simp_all [splitHead], rfl⟩

theorem fileName?_join (plain : '/' ∉ name.toList) (busy : isIdle name.toList = false)
    (notUp : name.toList ≠ ['.', '.']) : (base.join name).fileName? = some name := by
  obtain ⟨before, pieces, -⟩ := pieces_join base plain
  obtain ⟨head, rest, split, -⟩ := splitHead_append busy before []
  have last : (base.join name).splitLast.2.2 = some name.toList := by
    rw [splitLast, pieces, split]
    simp [dropIdleEnd_append busy]
  unfold fileName?
  split
  next none => rw [none] at last; cases last
  next up => rw [up] at last; exact (notUp (Option.some_inj.1 last).symm).elim
  next found =>
    rw [found] at last
    obtain rfl := Option.some_inj.1 last
    exact congrArg some String.ofList_toList

end Path

theorem Slot.entryFile_plain (slot : Slot) : '/' ∉ slot.entryFile.toList := by
  cases slot <;> decide

theorem BootMenu.draft_entryPath (menu : BootMenu) (slot : Slot) :
    Durable.draft (menu.entryPath slot) =
      (menu.entryPath slot).directory.join (slot.entryFile ++ ".new") := by
  have named : (menu.entryPath slot).fileName? = some slot.entryFile := by
    refine Path.fileName?_join slot.entryFile_plain ?_ ?_ <;> cases slot <;> decide
  rw [Durable.draft, named, Option.getD_some]

/-- Entries are not written where an image is staged, wherever the directories are. -/
theorem BootMenu.not_writtenWith_staged (menu : BootMenu) (slot : Slot) (dir : Path) {suffix : String}
    (plain : '/' ∉ suffix.toList) :
    ¬ WrittenWith (menu.entryPath slot) (dir.join (Artifact.stagedStem ++ suffix)) := by
  have stagedPlain : '/' ∉ (Artifact.stagedStem ++ suffix).toList := by
    simpa [Artifact.stagedStem] using plain
  have begins : (Artifact.stagedStem ++ suffix).toList.head? = some 'i' := by
    simp [Artifact.stagedStem]
  rintro (entry | draft)
  · have named := Path.name_of_join_eq stagedPlain slot.entryFile_plain entry
    rw [named] at begins
    cases slot <;> cases begins
  · rw [draft_entryPath] at draft
    have draftPlain : '/' ∉ (slot.entryFile ++ ".new").toList := by cases slot <;> decide
    have named := Path.name_of_join_eq stagedPlain draftPlain draft
    rw [named] at begins
    cases slot <;> cases begins

end DualSlot
