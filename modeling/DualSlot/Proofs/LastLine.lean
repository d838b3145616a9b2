import DualSlot.Proofs.HistoryText
import DualSlot.Proofs.JsonTail
import Mathlib.Data.List.DropRight

/-! A text up to the last line feed, and the line behind it that has not ended: how both come out of bytes,
and what becomes of the second when more is written. -/

namespace DualSlot

namespace Text

/-- A character that is not complete asks for bytes beyond ASCII. -/
def Decoding.Awaits (state : Decoding) : Prop := ∀ waiting, state.pending = some waiting → 0x80 ≤ waiting.low

/-- The characters that there are if nothing else comes, last first. -/
def Decoding.closed (state : Decoding) : List Char :=
  match state.pending with
  | none => state.read
  | some _ => replacement :: state.read

theorem lossy_eq (bytes : Bytes) : lossy bytes = (bytes.foldl Decoding.step ⟨[], none⟩).closed.reverse := rfl

theorem awaits_start (state : Decoding) (byte : UInt8) : (state.start byte).Awaits := by
  intro waiting started
  unfold Decoding.start at started
  split at started
  · cases started
  · next begun =>
    obtain rfl := Option.some_inj.1 started
    unfold begin? at begun
    repeat' split at begun
    all_goals cases begun
    all_goals dsimp only; decide
  · cases started

theorem awaits_step (state : Decoding) (byte : UInt8) : (state.step byte).Awaits := by
  unfold Decoding.step
  split
  · exact awaits_start state byte
  · split
    · dsimp only
      split
      · nofun
      · rintro _ ⟨⟩
        exact UInt8.le_refl _
    · exact awaits_start _ byte

theorem awaits_foldl {state : Decoding} (awaits : state.Awaits) (bytes : Bytes) :
    (bytes.foldl Decoding.step state).Awaits := by
  induction bytes generalizing state with
  | nil => exact awaits
  | cons byte bytes ih => exact ih (awaits_step state byte)

open Json in
theorem step_ascii {state : Decoding} (awaits : state.Awaits) {c : Char} (ascii : c.toNat < 0x80) :
    state.step (byte c) = ⟨c :: state.closed, none⟩ := by
  have small : byte c < 0x80 := by
    rw [UInt8.lt_iff_toNat_lt, toNat_byte (Nat.lt_trans ascii (by decide))]
    exact ascii
  obtain ⟨read, pending⟩ := state
  cases pending with
  | none => simp only [Decoding.step, Decoding.start, begin?_ascii ascii, Decoding.closed]
  | some waiting =>
    have outside : ¬ (waiting.low ≤ byte c ∧ byte c ≤ waiting.high) := fun within =>
      absurd (UInt8.lt_of_lt_of_le small (awaits waiting rfl)) (UInt8.not_lt.2 within.1)
    simp only [Decoding.step, outside, if_false, Decoding.start, begin?_ascii ascii, Decoding.closed]

/-- ASCII text that is written behind any bytes is read as it is, and leaves the text before it. -/
theorem lossy_append_ascii (bytes : Bytes) {text : List Char} (ascii : ∀ c ∈ text, c.toNat < 0x80) :
    lossy (bytes ++ Bytes.ofChars text) = lossy bytes ++ text := by
  cases text with
  | nil => simp
  | cons c text =>
    -- Only the first character meets what may be waiting.
    have awaits : (bytes.foldl Decoding.step ⟨[], none⟩).Awaits := awaits_foldl (by rintro _ ⟨⟩) bytes
    rw [lossy_eq, lossy_eq, Bytes.ofChars_cons, utf8EncodeChar_ascii (ascii c List.mem_cons_self), List.foldl_append,
      List.singleton_append, List.foldl_cons, step_ascii awaits (ascii c List.mem_cons_self),
      foldl_step_ascii fun other inside => ascii other (List.mem_cons_of_mem _ inside)]
    simp [Decoding.closed]

/-- The lines that have ended, with the line feed of the last one. -/
def ended (text : List Char) : List Char := text.rdropWhile (· != '\n')

/-- What stands behind the last line feed. -/
def unended (text : List Char) : List Char := text.rtakeWhile (· != '\n')

theorem ended_append_unended (text : List Char) : ended text ++ unended text = text :=
  List.rdropWhile_append_rtakeWhile

theorem feed_not_mem_unended (text : List Char) : '\n' ∉ unended text := fun inside => by
  simpa using List.mem_rtakeWhile_imp inside

theorem ended_eq (text : List Char) : ended text = [] ∨ ∃ before, ended text = before ++ ['\n'] := by
  by_cases given : ended text = []
  · exact .inl given
  · have last := List.rdropWhile_last_not (· != '\n') text given
    refine .inr ⟨(ended text).dropLast, ?_⟩
    rw [← show (ended text).getLast given = '\n' by simpa [ended] using last, List.dropLast_append_getLast]

theorem ended_append {line : List Char} (whole : '\n' ∉ line) (text : List Char) :
    ended (text ++ line) = ended text := by
  rw [ended, List.rdropWhile, List.reverse_append, List.dropWhile_append_of_pos, ← List.rdropWhile, ended]
  intro c inside
  rw [bne_iff_ne]
  rintro rfl
  exact whole (List.mem_reverse.1 inside)

theorem unended_append {line : List Char} (whole : '\n' ∉ line) {text : List Char} (all : ended text = text) :
    unended (text ++ line) = line := by
  have parts := ended_append_unended (text ++ line)
  rw [ended_append whole, all] at parts
  exact List.append_cancel_left parts

theorem lines_append_feed (before rest : List Char) :
    lines (before ++ '\n' :: rest) = (before.splitOn '\n').map dropReturn ++ lines rest := by
  have pieces : (before ++ '\n' :: rest).splitOn '\n' = before.splitOn '\n' ++ rest.splitOn '\n' :=
    List.splitOn_append_cons_self ..
  have given := List.splitOn_ne_nil '\n' rest
  rw [lines, lines, pieces, List.dropLast_append_of_ne_nil given, List.getLast?_append_of_ne_nil _ given,
    List.map_append]
  split <;> simp

theorem lines_ended_append (text rest : List Char) : lines (ended text ++ rest) = lines (ended text) ++ lines rest := by
  rcases ended_eq text with empty | ⟨before, feed⟩
  · rw [empty]
    rfl
  · have alone : lines ([] : List Char) = [] := rfl
    rw [feed, List.append_assoc, List.singleton_append, lines_append_feed, lines_append_feed, alone, List.append_nil]

theorem lines_unbroken {line : List Char} (given : line ≠ []) (whole : '\n' ∉ line) : lines line = [line] := by
  obtain ⟨c, rest, rfl⟩ := List.exists_cons_of_ne_nil given
  rw [lines, List.splitOn_eq_singleton whole]
  rfl

/-- A line that is written behind a text is joined to the line that has not ended. -/
theorem lines_joined (text : List Char) {line : List Char} (whole : '\n' ∉ line) :
    lines (text ++ line ++ ['\n']) = lines (ended text) ++ [dropReturn (unended text ++ line)] := by
  have joined : '\n' ∉ unended text ++ line := fun inside =>
    (List.mem_append.1 inside).elim (feed_not_mem_unended text) whole
  conv_lhs => rw [← ended_append_unended text]
  rw [List.append_assoc, List.append_assoc, lines_ended_append, ← List.append_assoc, lines_append_cons joined]
  rfl

theorem blank_of_trim {text : List Char} (empty : (trim text).isEmpty = true) : ∀ c ∈ text, isBlank c = true := by
  obtain ⟨blanks, blank, same⟩ := exists_trimEnd (trimStart text)
  rw [← trim, List.isEmpty_iff.1 empty, List.nil_append] at same
  intro c inside
  rw [← List.takeWhile_append_dropWhile (p := isBlank) (l := text), ← trimStart, same] at inside
  exact (List.mem_append.1 inside).elim (List.all_eq_true.1 List.all_takeWhile c) (blank c)

end Text

end DualSlot
