/-!
Lines end with a line feed, which a carriage return may precede. A last line without an end counts
unless it is empty, and keeps its carriage return.
-/

namespace DualSlot.Text

def dropReturn (line : List Char) : List Char :=
  if line.getLast? = some '\r' then line.dropLast else line

def lines (text : List Char) : List (List Char) :=
  let pieces := text.splitOn '\n'
  let ended := pieces.dropLast.map dropReturn
  match pieces.getLast? with
  | none | some [] => ended
  | some last => ended ++ [last]

/-- What stands before and after the first character with the property. -/
def cut (p : Char → Bool) (text : List Char) : Option (List Char × List Char) :=
  match text.span (fun c => !p c) with
  | (_, []) => none
  | (before, _ :: after) => some (before, after)

/-- The rest of the text after the given beginning. -/
def after? : (beginning text : List Char) → Option (List Char)
  | [], text => some text
  | _ :: _, [] => none
  | b :: beginning, c :: text => if b = c then after? beginning text else none

theorem after?_eq_some_iff {beginning text rest : List Char} :
    after? beginning text = some rest ↔ text = beginning ++ rest := by
  induction beginning generalizing text with
  | nil => simp [after?]
  | cons b beginning ih =>
    cases text with
    | nil => simp [after?]
    | cons c text =>
      by_cases same : b = c
      · simp [after?, same, ih]
      · simp [after?, same, Ne.symm same]

end DualSlot.Text
