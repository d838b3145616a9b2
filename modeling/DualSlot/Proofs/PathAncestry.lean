import DualSlot.Proofs.TreePaths
import Mathlib.Data.List.DropRight

/-! A path and the directory that holds it: where both lead by their text alone, and how the moves of the
one are those of the other and its last name. -/

namespace DualSlot

namespace Simulation

/-- Where a step leads, whatever there is. -/
def PathStep.carry (place : Location) (step : PathStep) : Location :=
  match step with
  | .here => place
  | .up => place.tail
  | .name text => text :: place

/-- The steps that the pieces of a path stand for, without those that stay where they are. -/
def movesOf (pieces : List (List Char)) : List PathStep :=
  (pieces.filter fun piece => !Path.isIdle piece).map PathStep.ofText

def moves (path : Path) : List PathStep := movesOf path.pieces

/-- The location that a path stands for, whatever there is. -/
def locate (workingDir : Location) (path : Path) : Location :=
  (moves path).foldl PathStep.carry (FileTree.startOf workingDir path)

/-- The path leads through the location, or to it. -/
def Passes (workingDir : Location) (path : Path) (location : Location) : Prop :=
  ∃ passed, passed <+: moves path ∧ passed.foldl PathStep.carry (FileTree.startOf workingDir path) = location

theorem ofText_eq_here {piece : List Char} : PathStep.ofText piece = .here ↔ piece = ['.'] := by
  unfold PathStep.ofText
  split <;> simp_all

theorem movesOf_append (first second : List (List Char)) :
    movesOf (first ++ second) = movesOf first ++ movesOf second := by
  simp [movesOf]

theorem movesOf_idle {pieces : List (List Char)} (idle : ∀ piece ∈ pieces, Path.isIdle piece = true) :
    movesOf pieces = [] := by
  rw [movesOf, List.filter_eq_nil_iff.2 fun piece inside => by simp [idle piece inside], List.map_nil]

theorem movesOf_busy {piece : List Char} (busy : Path.isIdle piece = false) :
    movesOf [piece] = [PathStep.ofText piece] := by
  simp [movesOf, busy]

theorem filter_steps (pieces : List (List Char)) :
    ((pieces.filter fun piece => !piece.isEmpty).map PathStep.ofText).filter (fun step => decide (step ≠ .here)) =
      movesOf pieces := by
  rw [movesOf, List.filter_map, List.filter_filter]
  congr 2
  funext piece
  simp only [Function.comp_apply, ne_eq, ofText_eq_here, Path.isIdle]
  cases piece <;> simp

theorem filter_pathSteps (path : Path) : (pathSteps path).filter (fun step => decide (step ≠ .here)) = moves path :=
  filter_steps path.pieces

/-- A path that does not end by staying where it is, unless it does nothing else. -/
def Tidy (path : Path) : Prop := (pathSteps path).getLast? = some .here → moves path = []

/-- The parent lacks the last move of the path. -/
structure IsParent (parent path : Path) (step : PathStep) : Prop where
  moves : moves path = moves parent ++ [step]
  start : ∀ workingDir, FileTree.startOf workingDir parent = FileTree.startOf workingDir path
  begins : parent.text.toList <+: path.text.toList
  shorter : parent.text.length < path.text.length
  tidy : Tidy parent

end Simulation

namespace Path

open Simulation

variable {path parent : Path} {head before : List (List Char)} {last : List Char} {name : String}

theorem exists_idle_end (pieces : List (List Char)) :
    ∃ idle, pieces = dropIdleEnd pieces ++ idle ∧ ∀ piece ∈ idle, isIdle piece = true := by
  refine ⟨(pieces.reverse.takeWhile isIdle).reverse, ?_, ?_⟩
  · rw [dropIdleEnd, ← List.reverse_append, List.takeWhile_append_dropWhile, List.reverse_reverse]
  · intro piece inside
    exact List.mem_takeWhile_imp (List.mem_reverse.1 inside)

theorem busy_of_getLast?_dropIdleEnd {pieces : List (List Char)}
    (ends : (dropIdleEnd pieces).getLast? = some last) :
    isIdle last = false := by
  have given : pieces.rdropWhile isIdle ≠ [] := by
    intro none
    rw [show dropIdleEnd pieces = [] from none] at ends
    cases ends
  have busy := List.rdropWhile_last_not isIdle pieces given
  have same : (pieces.rdropWhile isIdle).getLast given = last :=
    Option.some_inj.1 ((List.getLast?_eq_some_getLast given).symm.trans ends)
  rw [same] at busy
  simpa using busy

/-- What is split off in front is idle, and nothing is lost of a path that is not empty. -/
theorem splitHead_parts (pieces : List (List Char)) :
    (∀ piece ∈ (splitHead pieces).1, isIdle piece = true) ∧
      (pieces ≠ [[]] → (splitHead pieces).1 ++ (splitHead pieces).2 = pieces) ∧
      ((splitHead pieces).1 = [] → (splitHead pieces).2.head? ≠ some []) := by
  unfold splitHead
  split
  · simp
  · simp
  · next piece rest _ => cases idle : isIdle piece <;> simp_all [isIdle]

/-- A path that is not empty, cut before and after its last piece that counts. -/
structure Cut (path : Path) (head before idle : List (List Char)) (last : List Char)
    (rest : List (List Char)) : Prop where
  pieces : path.pieces = head ++ before ++ idle ++ last :: rest
  headIdle : ∀ piece ∈ head, isIdle piece = true
  idleIdle : ∀ piece ∈ idle, isIdle piece = true
  restIdle : ∀ piece ∈ rest, isIdle piece = true
  lastBusy : isIdle last = false
  tidy : ∀ piece, before.getLast? = some piece → isIdle piece = false
  relative : head = [] → path.isAbsolute = false

theorem exists_pieces_of_isAbsolute (absolute : path.isAbsolute = true) : ∃ rest, path.pieces = [] :: rest := by
  rw [isAbsolute, decide_eq_true_eq] at absolute
  obtain ⟨rest, text⟩ := List.head?_eq_some_iff.1 absolute
  refine ⟨rest.splitOn '/', ?_⟩
  rw [pieces, text]
  exact List.splitOn_append_cons_self [] rest

theorem cut_of_splitLast (split : path.splitLast = (head, before, some last)) :
    ∃ idle rest, Cut path head before idle last rest := by
  obtain ⟨headIdle, whole, relative⟩ := splitHead_parts path.pieces
  have parts : (splitHead path.pieces).1 = head ∧
      dropIdleEnd (dropIdleEnd (splitHead path.pieces).2).dropLast = before ∧
      (dropIdleEnd (splitHead path.pieces).2).getLast? = some last := by
    simpa [splitLast] using split
  obtain ⟨rfl, rfl, ends⟩ := parts
  obtain ⟨rest, body, restIdle⟩ := exists_idle_end (splitHead path.pieces).2
  obtain ⟨idle, inner, idleIdle⟩ := exists_idle_end (dropIdleEnd (splitHead path.pieces).2).dropLast
  have named : path.pieces ≠ [[]] := by
    intro empty
    rw [empty] at ends
    cases ends
  refine ⟨idle, rest, ?_, headIdle, idleIdle, restIdle, busy_of_getLast?_dropIdleEnd ends,
    fun _ => busy_of_getLast?_dropIdleEnd, ?_⟩
  · have joined := List.dropLast_append_getLast? last ends
    rw [List.append_assoc, List.append_assoc, ← List.append_assoc _ idle, ← inner, List.append_cons, joined,
      ← body, whole named]
  · intro none
    rw [← Bool.not_eq_true]
    intro absolute
    obtain ⟨after, pieces⟩ := exists_pieces_of_isAbsolute absolute
    have same := whole named
    rw [none, List.nil_append] at same
    exact relative none (by rw [same, pieces]; rfl)

theorem moves_of_splitLast_none (split : path.splitLast = (head, before, none)) : moves path = [] := by
  obtain ⟨headIdle, whole, -⟩ := splitHead_parts path.pieces
  have parts : (splitHead path.pieces).1 = head ∧
      dropIdleEnd (dropIdleEnd (splitHead path.pieces).2).dropLast = before ∧
      dropIdleEnd (splitHead path.pieces).2 = [] := by
    simpa [splitLast] using split
  obtain ⟨rest, body, restIdle⟩ := exists_idle_end (splitHead path.pieces).2
  rw [parts.2.2, List.nil_append] at body
  by_cases empty : path.pieces = [[]]
  · rw [moves, empty]
    rfl
  · rw [moves, ← whole empty, movesOf_append, movesOf_idle headIdle, body, movesOf_idle restIdle]
    rfl

theorem prefix_intercalate {first second : List (List Char)} (begins : first <+: second) :
    List.intercalate ['/'] first <+: List.intercalate ['/'] second := by
  induction first generalizing second with
  | nil => exact List.nil_prefix
  | cons piece more ih =>
    obtain ⟨rest, rfl⟩ := begins
    cases more with
    | nil =>
      cases rest with
      | nil => exact List.prefix_refl _
      | cons other rest => exact ⟨'/' :: List.intercalate ['/'] (other :: rest), by simp⟩
    | cons other more =>
      have later := ih (List.prefix_append (other :: more) rest)
      rw [List.cons_append, List.cons_append, List.intercalate_cons_cons, List.intercalate_cons_cons]
      exact (List.prefix_append_right_inj _).2 later

/-- The text goes on behind some of the pieces if one of the others is not empty. -/
theorem length_intercalate_lt {first idle rest : List (List Char)} (given : last ≠ []) :
    (List.intercalate ['/'] first).length < (List.intercalate ['/'] (first ++ idle ++ last :: rest)).length := by
  have begins : ∃ more, more ≠ [] ∧ List.intercalate ['/'] (first ++ idle) ++ more =
      List.intercalate ['/'] (first ++ idle ++ [last]) := by
    generalize first ++ idle = pieces
    induction pieces with
    | nil => exact ⟨last, given, by simp⟩
    | cons piece pieces ih =>
      cases pieces with
      | nil => exact ⟨'/' :: last, by simp, by simp⟩
      | cons other pieces =>
        obtain ⟨more, some, same⟩ := ih
        refine ⟨more, some, ?_⟩
        rw [List.cons_append, List.cons_append, List.intercalate_cons_cons, List.intercalate_cons_cons,
          ← List.cons_append, ← same, List.append_assoc, List.append_assoc]
  obtain ⟨more, some, same⟩ := begins
  have inner := (prefix_intercalate (List.prefix_append first idle)).length_le
  have outer := (prefix_intercalate (List.prefix_append (first ++ idle ++ [last]) rest)).length_le
  have added := congrArg List.length same
  rw [List.length_append] at added
  rw [List.append_cons]
  have longer := List.length_pos_iff.2 some
  omega

theorem text_pieces (path : Path) : List.intercalate ['/'] path.pieces = path.text.toList :=
  List.intercalate_splitOn '/'

theorem whole_of_mem_pieces {piece : List Char} (inside : piece ∈ path.pieces) : '/' ∉ piece := by
  intro slash
  rw [pieces, List.splitOn] at inside
  exact absurd (Text.solid_of_mem_splitOnP inside '/' slash) (by decide)

theorem pathSteps_ofPieces {pieces : List (List Char)} (whole : ∀ piece ∈ pieces, '/' ∉ piece) :
    pathSteps (ofPieces pieces) = (pieces.filter fun piece => !piece.isEmpty).map PathStep.ofText := by
  unfold ofPieces
  split
  next root =>
    rw [root]
    rfl
  next =>
    rw [pathSteps]
    by_cases none : pieces = []
    · rw [none]
      rfl
    · rw [Path.pieces, String.toList_ofList, List.splitOn_intercalate '/' whole none]

/-- The text of the pieces before a cut is the beginning of the text. -/
theorem Cut.begins {idle rest : List (List Char)} (cut : Cut path head before idle last rest) :
    (ofPieces (head ++ before)).text.toList <+: path.text.toList ∧
      (ofPieces (head ++ before)).text.length < path.text.length := by
  have given : last ≠ [] := by
    rintro rfl
    exact absurd cut.lastBusy (by decide)
  rw [← String.length_toList, ← String.length_toList, ← text_pieces path, cut.pieces]
  unfold ofPieces
  split
  next root =>
    rw [root, List.append_assoc, List.singleton_append,
      List.intercalate_cons_of_ne_nil (by simp), List.nil_append]
    have longer : (List.intercalate ['/'] []).length <
        (List.intercalate ['/'] ([] ++ idle ++ last :: rest)).length :=
      length_intercalate_lt given
    refine ⟨List.prefix_append _ _, ?_⟩
    rw [List.nil_append, List.intercalate_nil] at longer
    simpa using longer
  next =>
    rw [String.toList_ofList, List.append_assoc]
    exact ⟨prefix_intercalate (List.prefix_append _ _), by
      rw [← List.append_assoc]; exact length_intercalate_lt given⟩

theorem eq_nil_of_ofPieces {pieces : List (List Char)} (empty : (ofPieces pieces).text.toList = []) :
    pieces = [] := by
  unfold ofPieces at empty
  split at empty
  next => cases empty
  next named =>
    rw [String.toList_ofList] at empty
    cases pieces with
    | nil => rfl
    | cons piece more =>
      cases more with
      | nil =>
        rw [List.intercalate_singleton] at empty
        exact (named (by rw [empty])).elim
      | cons other more =>
        rw [List.intercalate_cons_cons] at empty
        simp at empty

/-- What comes before the last piece that counts is the parent. -/
theorem Cut.isParent {idle rest : List (List Char)} (cut : Cut path head before idle last rest) :
    IsParent (ofPieces (head ++ before)) path (PathStep.ofText last) := by
  have whole : ∀ piece ∈ head ++ before, '/' ∉ piece := by
    intro piece inside
    have among : piece ∈ path.pieces := by
      rw [cut.pieces, List.append_assoc]
      exact List.mem_append_left _ inside
    exact whole_of_mem_pieces among
  have steps := pathSteps_ofPieces whole
  have parent : moves (ofPieces (head ++ before)) = movesOf before := by
    rw [← filter_pathSteps, steps, filter_steps, movesOf_append, movesOf_idle cut.headIdle, List.nil_append]
  obtain ⟨begins, shorter⟩ := cut.begins
  refine ⟨?_, fun workingDir => ?_, begins, shorter, fun here => ?_⟩
  · rw [parent, moves, cut.pieces, List.append_assoc, List.append_cons, ← List.append_assoc, movesOf_append,
      movesOf_append, movesOf_append, movesOf_append, movesOf_idle cut.headIdle, movesOf_idle cut.idleIdle,
      movesOf_idle cut.restIdle, movesOf_busy cut.lastBusy]
    simp
  · have same : (ofPieces (head ++ before)).isAbsolute = path.isAbsolute := by
      obtain ⟨more, text⟩ := begins
      cases start : (ofPieces (head ++ before)).text.toList with
      | cons c rest => simp [isAbsolute, ← text, start]
      | nil =>
        rw [cut.relative (List.append_eq_nil_iff.1 (eq_nil_of_ofPieces start)).1]
        simp [isAbsolute, start]
    rw [FileTree.startOf, FileTree.startOf, same]
  · rw [parent]
    rcases List.eq_nil_or_concat before with rfl | ⟨early, piece, rfl⟩
    · rfl
    · have busy := cut.tidy piece (by simp)
      have solid : piece.isEmpty = false := by
        cases piece with
        | nil => exact absurd busy (by decide)
        | cons _ _ => rfl
      rw [steps, List.concat_eq_append, ← List.append_assoc, List.filter_append] at here
      simp only [List.filter_singleton, solid, Bool.not_false, cond_true, List.map_append, List.map_singleton,
        List.getLast?_append, List.getLast?_singleton, Option.some_or, Option.some_inj, ofText_eq_here] at here
      rw [here] at busy
      exact absurd busy (by decide)

theorem parent?_cases (named : path.parent? = some parent) :
    moves path = [] ∧ parent.text = "" ∨ ∃ step, IsParent parent path step := by
  unfold parent? at named
  split at named
  next split =>
    cases named
    obtain ⟨idle, rest, cut⟩ := cut_of_splitLast split
    exact .inr ⟨_, cut.isParent⟩
  next split =>
    cases named
    exact .inl ⟨moves_of_splitLast_none split, rfl⟩
  next => cases named

theorem moves_of_parent?_none (rootless : path.parent? = none) : moves path = [] := by
  unfold parent? at rootless
  split at rootless
  next => cases rootless
  next => cases rootless
  next split => exact moves_of_splitLast_none split

/-- The directory of a path lacks just its last name. -/
structure Names (path : Path) (name : String) : Prop where
  whole : '/' ∉ name.toList
  moves : moves path = moves path.directory ++ [.name name]
  start : ∀ workingDir, FileTree.startOf workingDir path.directory = FileTree.startOf workingDir path
  tidy : Tidy path.directory

theorem names_of_isParent (dir : path.parent? = some parent) (isParent : IsParent parent path (.name name))
    (whole : '/' ∉ name.toList) : Names path name := by
  by_cases empty : parent.text = ""
  · obtain rfl : parent = ⟨""⟩ := congrArg Path.mk empty
    have working : path.directory = here := by
      rw [directory, dir]
      rfl
    exact ⟨whole, working ▸ isParent.moves, fun workingDir => working ▸ isParent.start workingDir,
      working ▸ fun _ => rfl⟩
  · have same : path.directory = parent := by
      rw [directory, dir]
      simp [empty]
    exact ⟨whole, same ▸ isParent.moves, fun workingDir => same ▸ isParent.start workingDir,
      same ▸ isParent.tidy⟩

theorem names_of_fileName? (named : path.fileName? = some name) : Names path name := by
  unfold fileName? at named
  split at named
  next => cases named
  next => cases named
  next head before piece notUp split =>
    obtain rfl := Option.some_inj.1 named
    obtain ⟨idle, rest, cut⟩ := cut_of_splitLast split
    have step : PathStep.ofText piece = .name (.ofList piece) := by
      unfold PathStep.ofText
      split
      next => exact absurd cut.lastBusy (by decide)
      next => exact (notUp rfl).elim
      next => rfl
    have inside : piece ∈ path.pieces := by
      rw [cut.pieces]
      exact List.mem_append_right _ List.mem_cons_self
    refine names_of_isParent (by rw [parent?, split]) (step ▸ cut.isParent) ?_
    rw [String.toList_ofList]
    exact whole_of_mem_pieces inside

/-- The name of a draft stands for nothing else than a file. -/
theorem Names.isName (names : Names path name) : IsName (name ++ ".new") := by
  refine ⟨by simp [names.whole], ?_, ?_⟩
  · rw [← Bool.not_eq_true]
    intro idle
    have short := congrArg List.length (of_decide_eq_true (by simpa [isIdle] using idle : decide _ = true))
    simp at short
  · intro up
    have short := congrArg List.length up
    simp at short

end Path

end DualSlot
