import DualSlot.Proofs.JsonText

/-! The text of an object that stands behind other bytes. Those can be space, and then the object is read; any
others take part of it for themselves or are left without an end, and together the two are no value. -/

namespace DualSlot.Json

/-- What is left of the bytes when some were read, none of which opens an object. -/
def Passes (bytes rest : Bytes) : Prop := ∃ passed, bytes = passed ++ rest ∧ byte '\x7b' ∉ passed

/-- An object with a key of at least one plain character, from its brace on. -/
def keyed (first : UInt8) (more : Bytes) : Bytes := byte '\x7b' :: byte '"' :: first :: more

namespace Passes

variable {b first : UInt8} {bytes middle rest more : Bytes}

theorem refl (bytes : Bytes) : Passes bytes bytes := ⟨[], rfl, List.not_mem_nil⟩

theorem trans (one : Passes bytes middle) (other : Passes middle rest) : Passes bytes rest := by
  obtain ⟨passed, rfl, clean⟩ := one
  obtain ⟨further, rfl, alsoClean⟩ := other
  refine ⟨passed ++ further, (List.append_assoc ..).symm, fun inside => ?_⟩
  exact (List.mem_append.1 inside).elim clean alsoClean

theorem step (other : b ≠ byte '\x7b') (passes : Passes bytes rest) : Passes (b :: bytes) rest :=
  trans ⟨[b], rfl, fun inside => other (List.mem_singleton.1 inside).symm⟩ passes

theorem dropWhile {p : UInt8 → Bool} (stops : p (byte '\x7b') = false) (bytes : Bytes) :
    Passes bytes (bytes.dropWhile p) := by
  refine ⟨bytes.takeWhile p, List.takeWhile_append_dropWhile.symm, fun inside => ?_⟩
  have taken := List.all_eq_true.1 List.all_takeWhile _ inside
  rw [stops] at taken
  cases taken

theorem suffix (passes : Passes bytes rest) : rest <:+ bytes := by
  obtain ⟨passed, rfl, -⟩ := passes
  exact List.suffix_append ..

theorem keeps (passes : Passes bytes rest) (ahead : keyed first more <:+ bytes) : keyed first more <:+ rest := by
  obtain ⟨passed, rfl, clean⟩ := passes
  obtain ⟨front, same⟩ := ahead
  rcases List.append_eq_append_iff.1 same with ⟨extra, rfl, text⟩ | ⟨extra, rfl, text⟩
  · cases extra with
    | nil => exact text ▸ List.suffix_refl _
    | cons b extra =>
      obtain ⟨rfl, -⟩ := List.cons.inj text
      exact (clean (by simp)).elim
  · exact ⟨extra, text.symm⟩

theorem keeps_cons (other : b ≠ byte '\x7b') (ahead : keyed first more <:+ b :: rest) : keyed first more <:+ rest :=
  (step other (refl rest)).keeps ahead

end Passes

section Tokens

variable {bytes found rest : Bytes}

theorem passes_skipSpace (bytes : Bytes) : Passes bytes (skipSpace bytes) := .dropWhile (by decide) bytes

theorem passes_word? {word : List Char} (clean : byte '\x7b' ∉ word.map byte)
    (given : word? word bytes = some rest) : Passes bytes rest := by
  induction word generalizing bytes with
  | nil =>
    obtain rfl := Option.some_inj.1 given
    exact .refl bytes
  | cons c word ih =>
    rw [List.map_cons, List.mem_cons, not_or] at clean
    cases bytes with
    | nil => cases given
    | cons b bytes =>
      rw [word?] at given
      split at given
      · next same => exact .step (same ▸ Ne.symm clean.1) (ih clean.2 given)
      · cases given

theorem passes_digits? (given : digits? bytes = some (found, rest)) : Passes bytes rest := by
  rw [digits?, List.span_eq_takeWhile_dropWhile] at given
  split at given
  · cases given
  · obtain ⟨-, rfl⟩ := Prod.mk.inj (Option.some_inj.1 given)
    exact .dropWhile (by decide) bytes

theorem passes_whole? (given : whole? bytes = some (found, rest)) : Passes bytes rest := by
  obtain ⟨⟨digits, left⟩, reads, given⟩ := Option.bind_eq_some_iff.1 given
  dsimp only at given
  split at given
  · cases given
  · obtain ⟨-, rfl⟩ := Prod.mk.inj (Option.some_inj.1 given)
    exact passes_digits? reads

theorem passes_fraction? (given : fraction? bytes = some (found, rest)) : Passes bytes rest := by
  unfold fraction? at given
  split at given
  · split at given
    · next point =>
      obtain ⟨⟨digits, left⟩, reads, same⟩ := Option.map_eq_some_iff.1 given
      obtain ⟨-, rfl⟩ := Prod.mk.inj same
      exact .step (point ▸ by decide) (passes_digits? reads)
    · obtain ⟨-, rfl⟩ := Prod.mk.inj (Option.some_inj.1 given)
      exact .refl _
  · obtain ⟨-, rfl⟩ := Prod.mk.inj (Option.some_inj.1 given)
    exact .refl _

theorem passes_exponent? (given : exponent? bytes = some (found, rest)) : Passes bytes rest := by
  unfold exponent? at given
  split at given
  · split at given
    · next letter =>
      have other : ∀ b, b = byte 'e' ∨ b = byte 'E' → b ≠ byte '\x7b' := by rintro b (rfl | rfl) <;> decide
      split at given
      · split at given
        · next sign =>
          have apart : ∀ b, b = byte '+' ∨ b = byte '-' → b ≠ byte '\x7b' := by rintro b (rfl | rfl) <;> decide
          obtain ⟨⟨digits, left⟩, reads, same⟩ := Option.map_eq_some_iff.1 given
          obtain ⟨-, rfl⟩ := Prod.mk.inj same
          exact .step (other _ (by simpa using letter)) (.step (apart _ (by simpa using sign)) (passes_digits? reads))
        · obtain ⟨⟨digits, left⟩, reads, same⟩ := Option.map_eq_some_iff.1 given
          obtain ⟨-, rfl⟩ := Prod.mk.inj same
          exact .step (other _ (by simpa using letter)) (passes_digits? reads)
      · cases given
    · obtain ⟨-, rfl⟩ := Prod.mk.inj (Option.some_inj.1 given)
      exact .refl _
  · obtain ⟨-, rfl⟩ := Prod.mk.inj (Option.some_inj.1 given)
    exact .refl _

theorem passes_number? {value : Json} (given : number? bytes = some (value, rest)) : Passes bytes rest := by
  obtain ⟨⟨whole, afterWhole⟩, wholeReads, given⟩ := Option.bind_eq_some_iff.1 given
  obtain ⟨⟨fraction, afterFraction⟩, fractionReads, given⟩ := Option.bind_eq_some_iff.1 given
  obtain ⟨⟨exponent, afterExponent⟩, exponentReads, given⟩ := Option.bind_eq_some_iff.1 given
  obtain ⟨-, rfl⟩ := Prod.mk.inj (Option.some_inj.1 given)
  have unsigned := (passes_whole? wholeReads).trans
    ((passes_fraction? fractionReads).trans (passes_exponent? exponentReads))
  cases bytes with
  | nil => exact unsigned
  | cons b bytes =>
    dsimp only at unsigned
    split at unsigned
    · next sign => exact .step (sign ▸ by decide) unsigned
    · exact unsigned

theorem passes_escape? {piece : Piece} (given : escape? bytes = some (piece, rest)) : Passes bytes rest := by
  have digit {h : UInt8} {value : Nat} (hex : Hex.value? (Char.ofNat h.toNat) = some value) : h ≠ byte '\x7b' := by
    rintro rfl
    rw [show Hex.value? (Char.ofNat (byte '\x7b').toNat) = none by decide] at hex
    cases hex
  cases bytes with
  | nil => cases given
  | cons b after =>
    by_cases unit : b = byte 'u'
    · simp only [escape?, unit, if_true] at given
      split at given
      · next h1 h2 h3 h4 left =>
        simp only [List.map_cons, List.map_nil, List.mapM_cons, List.mapM_nil, Option.bind_eq_bind,
          Option.bind_eq_some_iff] at given
        obtain ⟨_, ⟨_, one, _, ⟨_, two, _, ⟨_, three, _, ⟨_, four, -⟩, -⟩, -⟩, -⟩, given⟩ := given
        obtain ⟨-, rfl⟩ := Prod.mk.inj (Option.some_inj.1 given)
        exact .step (unit ▸ by decide) (.step (digit one) (.step (digit two) (.step (digit three)
          (.step (digit four) (.refl _)))))
      · cases given
    · have other : b ≠ byte '\x7b' := by
        rintro rfl
        exact absurd given (by simp [escape?, byte])
      have ends {found : Piece} (given : some (found, after) = some (piece, rest)) : Passes (b :: after) rest := by
        obtain ⟨-, rfl⟩ := Prod.mk.inj (Option.some_inj.1 given)
        exact .step other (.refl _)
      simp only [escape?, unit, if_false] at given
      split at given
      · exact ends given
      split at given
      · exact ends given
      split at given
      · exact ends given
      split at given
      · exact ends given
      split at given
      · exact ends given
      split at given
      · exact ends given
      · cases given

end Tokens

/-- A byte that can follow neither a value nor a key, and is no space. -/
def Foreign (b : UInt8) : Prop :=
  isSpace b = false ∧ b ≠ byte ':' ∧ b ≠ byte ',' ∧ b ≠ byte ']' ∧ b ≠ byte '\x7d'

instance (b : UInt8) : Decidable (Foreign b) := inferInstanceAs (Decidable (_ ∧ _))

section Strings

variable {first : UInt8} {more bytes rest : Bytes} {patience : Nat}

theorem suffix_pieces? {found pieces : List Piece} (given : pieces? patience found bytes = some (pieces, rest)) :
    rest <:+ bytes := by
  induction patience generalizing found bytes with
  | zero => cases given
  | succ patience ih =>
    rw [pieces?, List.span_eq_takeWhile_dropWhile] at given
    dsimp only at given
    have plain := List.dropWhile_suffix (l := bytes) fun b => b != byte '"' && b != byte '\\' && b ≥ 0x20
    split at given
    · next b after shown =>
      rw [shown] at plain
      have behind := (List.suffix_cons b after).trans plain
      split at given
      · obtain ⟨-, rfl⟩ := Prod.mk.inj (Option.some_inj.1 given)
        exact behind
      · split at given
        · obtain ⟨⟨piece, left⟩, reads, given⟩ := Option.bind_eq_some_iff.1 given
          exact (ih given).trans ((passes_escape? reads).suffix.trans behind)
        · cases given
    · cases given

/-- A string ends before an object that is ahead, or at the first quote in it. -/
theorem ahead_pieces? {found pieces : List Piece} (given : pieces? patience found bytes = some (pieces, rest))
    (ahead : keyed first more <:+ bytes) : keyed first more <:+ rest ∨ rest = first :: more := by
  induction patience generalizing found bytes with
  | zero => cases given
  | succ patience ih =>
    obtain ⟨front, rfl⟩ := ahead
    rw [pieces?, List.span_eq_takeWhile_dropWhile, List.dropWhile_append] at given
    dsimp only at given
    cases stop : front.dropWhile fun b => b != byte '"' && b != byte '\\' && b ≥ 0x20 with
    | nil =>
      -- The string runs on over the brace, up to the quote behind it.
      have quote : (keyed first more).dropWhile (fun b => b != byte '"' && b != byte '\\' && b ≥ 0x20) =
          byte '"' :: first :: more := rfl
      rw [stop, List.isEmpty_nil, if_pos rfl, quote] at given
      obtain ⟨-, rfl⟩ := Prod.mk.inj (Option.some_inj.1 given)
      exact .inr rfl
    | cons b tail =>
      rw [stop, List.isEmpty_cons, if_neg (by decide), List.cons_append] at given
      dsimp only at given
      split at given
      · obtain ⟨-, rfl⟩ := Prod.mk.inj (Option.some_inj.1 given)
        exact .inl (List.suffix_append ..)
      · split at given
        · obtain ⟨⟨piece, left⟩, reads, given⟩ := Option.bind_eq_some_iff.1 given
          exact ih given ((passes_escape? reads).keeps (List.suffix_append ..))
        · cases given

theorem exists_pieces? {text : Option String} (given : string? patience bytes = some (text, rest)) :
    ∃ pieces, pieces? patience [] bytes = some (pieces, rest) := by
  obtain ⟨⟨pieces, left⟩, reads, given⟩ := Option.bind_eq_some_iff.1 given
  obtain ⟨-, rfl⟩ := Prod.mk.inj (Option.some_inj.1 given)
  exact ⟨pieces, reads⟩

theorem suffix_string? {text : Option String} (given : string? patience bytes = some (text, rest)) :
    rest <:+ bytes := by
  obtain ⟨pieces, reads⟩ := exists_pieces? given
  exact suffix_pieces? reads

theorem ahead_string? {text : Option String} (given : string? patience bytes = some (text, rest))
    (ahead : keyed first more <:+ bytes) : keyed first more <:+ rest ∨ rest = first :: more := by
  obtain ⟨pieces, reads⟩ := exists_pieces? given
  exact ahead_pieces? reads ahead

theorem exists_key? {key : Option String} (given : key? patience bytes = some (key, rest)) :
    ∃ opened closed, Passes bytes opened ∧ string? patience opened = some (key, closed) ∧
      word? [':'] (skipSpace closed) = some rest := by
  obtain ⟨opened, quote, given⟩ := Option.bind_eq_some_iff.1 given
  obtain ⟨⟨name, closed⟩, reads, given⟩ := Option.bind_eq_some_iff.1 given
  obtain ⟨left, colon, given⟩ := Option.bind_eq_some_iff.1 given
  obtain ⟨rfl, rfl⟩ := Prod.mk.inj (Option.some_inj.1 given)
  exact ⟨opened, closed, (passes_skipSpace bytes).trans (passes_word? (by decide) quote), reads, colon⟩

theorem passes_colon {closed : Bytes} (colon : word? [':'] (skipSpace closed) = some rest) : Passes closed rest :=
  (passes_skipSpace closed).trans (passes_word? (by decide) colon)

theorem suffix_key? {key : Option String} (given : key? patience bytes = some (key, rest)) : rest <:+ bytes := by
  obtain ⟨opened, closed, before, reads, colon⟩ := exists_key? given
  exact (passes_colon colon).suffix.trans ((suffix_string? reads).trans before.suffix)

theorem ahead_key? {key : Option String} (foreign : Foreign first) (given : key? patience bytes = some (key, rest))
    (ahead : keyed first more <:+ bytes) : keyed first more <:+ rest := by
  obtain ⟨opened, closed, before, reads, colon⟩ := exists_key? given
  rcases ahead_string? reads (before.keeps ahead) with still | rfl
  · exact (passes_colon colon).keeps still
  · -- The key ended at the first quote in the object, and no colon follows there.
    rw [skipSpace_cons foreign.1, word?, if_neg foreign.2.1] at colon
    cases colon

end Strings

section Values

variable {first : UInt8} {more bytes rest : Bytes} {patience : Nat} {reading : Reading}

/-- How the first byte of a value decides what is read of it at once. -/
inductive Begins (patience : Nat) : Bytes → Reading → Bytes → Prop where
  | plain {b : UInt8} {after rest : Bytes} {reading : Reading} (other : b ≠ byte '\x7b')
      (passes : Passes (b :: after) rest) : Begins patience (b :: after) reading rest
  | string {after rest : Bytes} {text : Option String} (reads : string? patience after = some (text, rest)) :
      Begins patience (byte '"' :: after) (.value (.string text)) rest
  | empty {after rest : Bytes} (closes : skipSpace after = byte '\x7d' :: rest) :
      Begins patience (byte '\x7b' :: after) (.value (.object [])) rest
  | object {after rest : Bytes} {key : Option String} (reads : key? patience after = some (key, rest)) :
      Begins patience (byte '\x7b' :: after) (.opened (.object [] key)) rest

theorem begins_start? (given : start? patience bytes = some (reading, rest)) :
    Begins patience (skipSpace bytes) reading rest := by
  have literal {b : UInt8} {after : Bytes} {word : List Char} {value : Json} (other : b ≠ byte '\x7b')
      (clean : byte '\x7b' ∉ word.map byte)
      (reads : (word? word after).map (fun rest => (Reading.value value, rest)) = some (reading, rest)) :
      Begins patience (b :: after) reading rest := by
    obtain ⟨left, found, same⟩ := Option.map_eq_some_iff.1 reads
    obtain ⟨-, rfl⟩ := Prod.mk.inj same
    exact .plain other (.step other (passes_word? clean found))
  rw [start?] at given
  split at given
  · cases given
  next b after shown =>
  rw [shown]
  split at given
  · next quote =>
    obtain ⟨⟨text, left⟩, reads, same⟩ := Option.map_eq_some_iff.1 given
    obtain ⟨rfl, rfl⟩ := Prod.mk.inj same
    exact quote ▸ .string reads
  split at given
  · next bracket =>
    have other : b ≠ byte '\x7b' := bracket ▸ by decide
    split at given
    · next c left within =>
      split at given
      · next closes =>
        obtain ⟨-, rfl⟩ := Prod.mk.inj (Option.some_inj.1 given)
        have passes := passes_skipSpace after
        rw [within] at passes
        exact .plain other (.step other (passes.trans (.step (closes ▸ by decide) (.refl _))))
      · obtain ⟨-, rfl⟩ := Prod.mk.inj (Option.some_inj.1 given)
        exact .plain other (.step other (.refl _))
    · cases given
  split at given
  · next brace =>
    subst brace
    split at given
    · next c left within =>
      split at given
      · next closes =>
        obtain ⟨rfl, rfl⟩ := Prod.mk.inj (Option.some_inj.1 given)
        exact .empty (closes ▸ within)
      · obtain ⟨⟨key, left⟩, reads, same⟩ := Option.map_eq_some_iff.1 given
        obtain ⟨rfl, rfl⟩ := Prod.mk.inj same
        exact .object reads
    · cases given
  next other =>
  split at given
  · exact literal other (by decide) given
  split at given
  · exact literal other (by decide) given
  split at given
  · exact literal other (by decide) given
  · obtain ⟨⟨number, left⟩, reads, same⟩ := Option.map_eq_some_iff.1 given
    obtain ⟨-, rfl⟩ := Prod.mk.inj same
    exact .plain other (passes_number? reads)

theorem Begins.suffix (begins : Begins patience bytes reading rest) : rest <:+ bytes := by
  cases begins with
  | plain other passes => exact passes.suffix
  | string reads => exact (suffix_string? reads).trans (List.suffix_cons ..)
  | empty closes =>
    have behind := (List.suffix_cons (byte '\x7d') rest).trans (closes ▸ (passes_skipSpace _).suffix)
    exact behind.trans (List.suffix_cons ..)
  | object reads => exact (suffix_key? reads).trans (List.suffix_cons ..)

/-- A value begins the object that is ahead, or leaves it ahead, or is a string that ends at the first quote
in the object. -/
theorem Begins.ahead (begins : Begins patience bytes reading rest) (foreign : Foreign first)
    (ahead : keyed first more <:+ bytes) :
    bytes = keyed first more ∨ keyed first more <:+ rest ∨
      rest = first :: more ∧ ∃ value, reading = .value value := by
  cases begins with
  | plain other passes => exact .inr (.inl (passes.keeps ahead))
  | string reads =>
    rcases List.suffix_cons_iff.1 ahead with same | ahead
    · exact .inl same.symm
    · exact .inr ((ahead_string? reads ahead).imp id fun inside => ⟨inside, _, rfl⟩)
  | empty closes =>
    rcases List.suffix_cons_iff.1 ahead with same | ahead
    · exact .inl same.symm
    · exact .inr (.inl (Passes.keeps_cons (by decide) (closes ▸ (passes_skipSpace _).keeps ahead)))
  | object reads =>
    rcases List.suffix_cons_iff.1 ahead with same | ahead
    · exact .inl same.symm
    · exact .inr (.inl (ahead_key? foreign reads ahead))

theorem Begins.opens (begins : Begins patience (keyed first more) reading rest) :
    ∃ frame, reading = .opened frame := by
  cases begins with
  | plain other passes => exact (other rfl).elim
  | empty closes =>
    rw [skipSpace_cons (by decide)] at closes
    exact absurd (List.cons.inj closes).1 (by decide)
  | object reads => exact ⟨_, rfl⟩

/-- A byte that ends an array or an object. -/
def closes (b : UInt8) : Bool := b == byte ']' || b == byte '\x7d'

/-- How the first byte behind a value decides what is read next. -/
inductive Continues (patience : Nat) : Bytes → Reading → Bytes → Prop where
  | item {rest : Bytes} {frame : Frame} : Continues patience (byte ',' :: rest) (.opened frame) rest
  | member {after rest : Bytes} {key : Option String} {members : List (Option String × Json)}
      (reads : key? patience after = some (key, rest)) :
      Continues patience (byte ',' :: after) (.opened (.object members key)) rest
  | close {b : UInt8} {rest : Bytes} {value : Json} (last : closes b = true) :
      Continues patience (b :: rest) (.value value) rest

theorem continues_add? {value : Json} {frame : Frame}
    (given : frame.add? patience value bytes = some (reading, rest)) :
    Continues patience (skipSpace bytes) reading rest := by
  unfold Frame.add? at given
  cases shown : skipSpace bytes with
  | nil =>
    rw [shown] at given
    cases given
  | cons b after =>
    rw [shown] at given
    cases frame with
    | array items =>
      dsimp only at given
      split at given
      · next comma =>
        obtain ⟨rfl, rfl⟩ := Prod.mk.inj (Option.some_inj.1 given)
        exact comma ▸ .item
      · split at given
        · next bracket =>
          obtain ⟨rfl, rfl⟩ := Prod.mk.inj (Option.some_inj.1 given)
          exact .close (by simp [closes, bracket])
        · cases given
    | object members key =>
      dsimp only at given
      split at given
      · next comma =>
        obtain ⟨⟨next, left⟩, reads, same⟩ := Option.map_eq_some_iff.1 given
        obtain ⟨rfl, rfl⟩ := Prod.mk.inj same
        exact comma ▸ .member reads
      · split at given
        · next brace =>
          obtain ⟨rfl, rfl⟩ := Prod.mk.inj (Option.some_inj.1 given)
          exact .close (by simp [closes, brace])
        · cases given

theorem Continues.ahead (continues : Continues patience bytes reading rest) (foreign : Foreign first)
    (ahead : keyed first more <:+ bytes) : keyed first more <:+ rest := by
  cases continues with
  | item => exact Passes.keeps_cons (by decide) ahead
  | member reads => exact ahead_key? foreign reads (Passes.keeps_cons (by decide) ahead)
  | close last =>
    refine Passes.keeps_cons ?_ ahead
    rintro rfl
    cases last

theorem Continues.not_foreign (continues : Continues patience (skipSpace (first :: more)) reading rest)
    (foreign : Foreign first) : False := by
  obtain ⟨solid, -, comma, bracket, brace⟩ := foreign
  rw [skipSpace_cons solid] at continues
  cases continues with
  | item => exact comma rfl
  | member reads => exact comma rfl
  | close last =>
    simp only [closes, Bool.or_eq_true, beq_iff_eq] at last
    exact last.elim bracket brace

def closers (bytes : Bytes) : Nat := bytes.countP closes

/-- How many arrays and objects have been begun. -/
def Reading.depth : Reading → Nat
  | .value _ => 0
  | .opened _ => 1

theorem closers_le (suffix : rest <:+ bytes) : closers rest ≤ closers bytes := suffix.sublist.countP_le

theorem closers_skipSpace_le (bytes : Bytes) : closers (skipSpace bytes) ≤ closers bytes :=
  closers_le (passes_skipSpace bytes).suffix

theorem Continues.closers_lt (continues : Continues patience bytes reading rest) :
    closers rest + 1 ≤ closers bytes + reading.depth := by
  cases continues with
  | item => exact Nat.add_le_add_right (closers_le (List.suffix_cons ..)) 1
  | member reads => exact Nat.add_le_add_right (closers_le ((suffix_key? reads).trans (List.suffix_cons ..))) 1
  | close last => simp [closers, last]

/-- How reading comes to the end of the outermost value. -/
inductive Completes : List Frame → Reading → Bytes → Bytes → Prop where
  | done {value : Json} {bytes : Bytes} : Completes [] (.value value) bytes bytes
  | adds {patience : Nat} {frame : Frame} {outer : List Frame} {value : Json} {reading : Reading}
      {bytes left rest : Bytes} (continues : Continues patience (skipSpace bytes) reading left)
      (later : Completes outer reading left rest) : Completes (frame :: outer) (.value value) bytes rest
  | starts {patience : Nat} {frame : Frame} {outer : List Frame} {reading : Reading} {bytes left rest : Bytes}
      (begins : Begins patience (skipSpace bytes) reading left)
      (later : Completes (frame :: outer) reading left rest) : Completes outer (.opened frame) bytes rest

theorem completes_finish? {outer : List Frame} {value : Json}
    (given : finish? patience outer reading bytes = some (value, rest)) : Completes outer reading bytes rest := by
  induction patience generalizing outer reading bytes with
  | zero => cases given
  | succ patience ih =>
    cases reading with
    | value found =>
      cases outer with
      | nil =>
        obtain ⟨-, rfl⟩ := Prod.mk.inj (Option.some_inj.1 given)
        exact .done
      | cons frame outer =>
        obtain ⟨⟨reading, left⟩, adds, given⟩ := Option.bind_eq_some_iff.1 given
        exact .adds (continues_add? adds) (ih given)
    | opened frame =>
      -- The step is the same one whether there are frames around or not.
      have given : (start? patience bytes >>= fun begun => finish? patience (frame :: outer) begun.1 begun.2) =
          some (value, rest) := by
        cases outer <;> exact given
      obtain ⟨⟨reading, left⟩, starts, given⟩ := Option.bind_eq_some_iff.1 given
      exact .starts (begins_start? starts) (ih given)

/-- All that was begun is closed, each array and object by a byte of its own. -/
theorem Completes.balanced {outer : List Frame} (completes : Completes outer reading bytes rest) :
    outer.length + reading.depth + closers rest ≤ closers bytes := by
  induction completes with
  | done => simp [Reading.depth]
  | @adds _ _ _ _ _ bytes _ _ continues _ ih =>
    have fewer := continues.closers_lt
    have space := closers_skipSpace_le bytes
    simp only [List.length_cons, Reading.depth]
    omega
  | @starts _ _ _ _ bytes _ _ begins _ ih =>
    have fewer := closers_le begins.suffix
    have space := closers_skipSpace_le bytes
    rw [List.length_cons] at ih
    simp only [Reading.depth]
    omega

/-- Reading does not come to the end of the bytes while an object is ahead, nor behind a string that ended
inside it. -/
theorem Completes.unfinished {outer : List Frame} (completes : Completes outer reading bytes rest)
    (foreign : Foreign first) (single : closers (keyed first more) ≤ 1)
    (ahead : keyed first more <:+ bytes ∨ bytes = first :: more ∧ ∃ value, reading = .value value) :
    skipSpace rest ≠ [] := by
  induction completes with
  | done =>
    rcases ahead with ahead | ⟨rfl, -⟩
    · intro ended
      exact absurd (ended ▸ (passes_skipSpace _).keeps ahead) (by simp [keyed])
    · simp [skipSpace_cons foreign.1]
  | adds continues _ ih =>
    rcases ahead with ahead | ⟨rfl, -⟩
    · exact ih (.inl (continues.ahead foreign ((passes_skipSpace _).keeps ahead)))
    · exact (continues.not_foreign foreign).elim
  | starts begins later ih =>
    have ahead := ahead.resolve_right fun inside => by
      obtain ⟨_, same⟩ := inside.2
      cases same
    rcases begins.ahead foreign ((passes_skipSpace _).keeps ahead) with same | still
    · -- The object lies in an array or an object that nothing is left to close.
      rw [same] at begins
      obtain ⟨within, rfl⟩ := begins.opens
      have needed := later.balanced
      have left := closers_le begins.suffix
      simp only [List.length_cons, Reading.depth] at needed
      omega
    · exact ih still

/-- Bytes other than space and an object behind them are no value, whatever the bytes are. -/
theorem parse?_before_object (foreign : Foreign first) (single : closers (keyed first more) ≤ 1) {front : Bytes}
    (solid : ¬ ∀ b ∈ front, isSpace b = true) : parse? (front ++ keyed first more) = none := by
  cases parsed : parse? (front ++ keyed first more) with
  | none => rfl
  | some value =>
    obtain ⟨⟨reading, left⟩, starts, given⟩ := Option.bind_eq_some_iff.1 parsed
    obtain ⟨⟨value, rest⟩, ends, given⟩ := Option.bind_eq_some_iff.1 given
    have ahead := (passes_skipSpace _).keeps (List.suffix_append front (keyed first more))
    rcases (begins_start? starts).ahead foreign ahead with same | ahead
    · refine (solid ?_).elim
      have split := List.takeWhile_append_dropWhile (p := isSpace) (l := front ++ keyed first more)
      rw [show List.dropWhile isSpace (front ++ keyed first more) = keyed first more from same] at split
      rw [← List.append_cancel_right split]
      exact fun b inside => List.all_eq_true.1 List.all_takeWhile b inside
    · have unread := (completes_finish? ends).unfinished foreign single ahead
      dsimp only at given
      rw [if_neg (by simpa using unread)] at given
      cases given

theorem parse?_unclosed {after : Bytes} (unclosed : closers after = 0) : parse? (byte '\x7b' :: after) = none := by
  cases parsed : parse? (byte '\x7b' :: after) with
  | none => rfl
  | some value =>
    obtain ⟨⟨reading, left⟩, starts, given⟩ := Option.bind_eq_some_iff.1 parsed
    obtain ⟨⟨value, rest⟩, ends, -⟩ := Option.bind_eq_some_iff.1 given
    have begins := begins_start? starts
    have fewer := closers_le begins.suffix
    have needed := (completes_finish? ends).balanced
    have none : closers (byte '\x7b' :: after) = 0 := unclosed
    rw [skipSpace_cons (by decide)] at begins fewer
    cases begins with
    | plain other passes => exact (other rfl).elim
    | empty closes =>
      have counted := closers_skipSpace_le after
      have own : closers (byte '\x7d' :: left) = closers left + 1 := List.countP_cons_of_pos rfl
      rw [closes] at counted
      omega
    | object reads =>
      simp only [List.length_nil, Reading.depth] at needed
      omega

end Values

end DualSlot.Json
