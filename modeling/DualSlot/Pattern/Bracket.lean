import DualSlot.Pattern
import DualSlot.Text.Lines

/-!
Classes of characters in brackets. They hold characters, ranges, named classes and further classes,
between operators on sets.
-/

namespace DualSlot.Pattern

/-- A class whose end is still to come. -/
structure Bracket where
  /-- The levels of what stands before the last operator, if there is one. -/
  left : Option Nat
  /-- What has come since then. -/
  items : Row
  /-- Whether nothing but minus signs has come since the class began. -/
  fresh : Bool
  deriving DecidableEq, Repr

namespace Bracket

def empty : Bracket := ⟨none, .empty, true⟩

def add (bracket : Bracket) (levels : Nat) : Bracket :=
  { bracket with items := bracket.items.add levels, fresh := false }

/-- The levels inside the brackets. Operators group from the left. -/
def levels (bracket : Bracket) : Nat :=
  match bracket.left with
  | none => bracket.items.height
  | some left => max left bracket.items.height + 1

def operator (bracket : Bracket) : Bracket := ⟨some bracket.levels, .empty, false⟩

/-- The class that begins after an opening bracket. The complement of a set of bytes always has
some that are no characters. -/
def begin? (mode : Mode) (text : List Char) : Option (Bracket × List Char) :=
  match mode.skip text with
  | '^' :: rest => if mode.bytes then none else some (empty, rest)
  | rest => some (empty, rest)

def names : List String :=
  ["alnum", "alpha", "ascii", "blank", "cntrl", "digit", "graph", "lower", "print", "punct",
    "space", "upper", "word", "xdigit"]

/-- A named class, after an opening bracket: whether it is negated, and what follows. -/
def named? : List Char → Option (Bool × List Char)
  | ':' :: '^' :: rest => (ended? rest).map (true, ·)
  | ':' :: rest => (ended? rest).map (false, ·)
  | _ => none
where
  ended? (text : List Char) : Option (List Char) :=
    names.findSome? fun name => Text.after? (name.toList ++ [':', ']']) text

def operator? : List Char → Option (List Char)
  | '&' :: '&' :: rest | '-' :: '-' :: rest | '~' :: '~' :: rest => some rest
  | _ => none

def symbol? (mode : Mode) : List Char → Option (Symbol × List Char)
  | [] => none
  | '\\' :: rest => mode.escape? rest
  | c :: rest => some (.literal c false, rest)

/-- The next character that has a meaning. Behind a number sign it is looked for as well. -/
def ahead? (mode : Mode) (text : List Char) : Option Char :=
  if mode.spaced then
    match text.dropWhile Text.isBlank with
    | '#' :: rest => (rest.dropWhile Text.isBlank).head?
    | rest => rest.head?
  else text.head?

/-- What follows a symbol or a range. A minus sign before the end or before another one makes no
range. -/
def range? (mode : Mode) (text : List Char) : Option (List Char) := do
  let (first, rest) ← symbol? mode text
  let single (rest : List Char) : Option (List Char) :=
    if mode.admitsInClass first then some rest else none
  match mode.skip rest with
  | '-' :: after =>
    if [some ']', some '-'].contains (ahead? mode after) then single ('-' :: after)
    else
      match first, ← symbol? mode (mode.skip after) with
      | .literal low _, (.literal high byte, rest) =>
        if low ≤ high && mode.admitsInClass first && mode.admitsInClass (.literal high byte) then
          some rest
        else none
      | _, _ => none
  | rest => single rest

/-- Reads on to the end of the outermost class: its levels, and what follows it. -/
def finish? (mode : Mode) :
    Nat → Bracket → (outer : List Bracket) → List Char → Option (Nat × List Char)
  | 0, _, _, _ => none
  | patience + 1, bracket, outer, text =>
    match mode.skip text with
    | [] => none
    | c :: rest =>
      if c = '[' then
        match named? rest with
        | some (negated, rest) =>
          if mode.admitsNamed negated then finish? mode patience (bracket.add 0) outer rest
          else none
        | none => do
          let (inner, rest) ← begin? mode rest
          finish? mode patience inner (bracket :: outer) rest
      else if bracket.fresh && (c = '-' || (c = ']' && bracket.items.size = 0)) then
        if mode.admitsInClass (.literal c false) then
          finish? mode patience { bracket.add 0 with fresh := c = '-' } outer rest
        else none
      else if c = ']' then
        match outer with
        | [] => some (bracket.levels + 1, rest)
        | around :: outer => finish? mode patience (around.add (bracket.levels + 1)) outer rest
      else
        match operator? (c :: rest) with
        | some rest => finish? mode patience bracket.operator outer rest
        | none => do finish? mode patience (bracket.add 0) outer (← range? mode (c :: rest))

/-- A class, after its opening bracket. -/
def read? (mode : Mode) (patience : Nat) (text : List Char) : Option (Nat × List Char) := do
  let (bracket, rest) ← begin? mode text
  finish? mode patience bracket [] rest

end Bracket

end DualSlot.Pattern
