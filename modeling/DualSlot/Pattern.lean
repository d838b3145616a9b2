import DualSlot.Hex
import DualSlot.Text.Blank

/-!
Regular expressions, as far as it takes to tell whether a text is one. Nothing is matched with them,
so of each part only its levels of nesting are kept. No tables of letters are at hand: what would
need one, such as letters of either case beyond ASCII, is refused like a fault.
-/

namespace DualSlot.Pattern

/-- How flags let a pattern be read. -/
structure Mode where
  /-- Letters stand for both of their cases. -/
  anyCase : Bool
  /-- Classes are sets of bytes. They must not hold any that are no characters of their own. -/
  bytes : Bool
  /-- Blanks have no meaning, nor has what follows a number sign on its line. -/
  spaced : Bool
  deriving DecidableEq, Repr

namespace Mode

def plain : Mode := ⟨false, false, false⟩

/-- The mode after flags, of which those behind a minus sign are taken back. -/
def set (mode : Mode) (flags : List Char) : Mode :=
  let given := flags.takeWhile (· ≠ '-')
  let switch (flag : Char) (old : Bool) : Bool :=
    given.contains flag || (old && !flags.contains flag)
  { anyCase := switch 'i' mode.anyCase
    bytes := !switch 'u' !mode.bytes
    spaced := switch 'x' mode.spaced }

def skipFrom (comment : Bool) : List Char → List Char
  | [] => []
  | c :: rest =>
    if comment then skipFrom (c ≠ '\n') rest
    else if Text.isBlank c then skipFrom false rest
    else if c = '#' then skipFrom true rest
    else c :: rest

/-- The text from its first character that has a meaning. -/
def skip (mode : Mode) (text : List Char) : List Char :=
  if mode.spaced then skipFrom false text else text

end Mode

/-- Parts in a row: how many there are, and how many levels the deepest of them has. -/
structure Row where
  size : Nat
  levels : Nat
  deriving DecidableEq, Repr

namespace Row

def empty : Row := ⟨0, 0⟩

def add (row : Row) (levels : Nat) : Row := ⟨row.size + 1, max row.levels levels⟩

/-- Several parts are one more level than the deepest of them, and a single one is none. -/
def height (row : Row) : Nat := if 2 ≤ row.size then row.levels + 1 else row.levels

end Row

/-- What a character or an escape stands for. -/
inductive Symbol where
  /-- A character, which may have been written as the number of a byte. -/
  | literal (c : Char) (byte : Bool)
  /-- The digits, the blanks or the characters of words, or all but those. -/
  | family (negated : Bool)
  /-- A place between characters, which may depend on where words are. -/
  | place (ofWords : Bool)
  deriving DecidableEq, Repr

namespace Mode

/-- Whether a symbol may stand in a pattern. -/
def admits (mode : Mode) : Symbol → Bool
  | .literal c byte => if mode.bytes then !byte || c.toNat < 0x80 else !mode.anyCase
  | .family negated => mode.bytes && !negated
  | .place ofWords => mode.bytes || !ofWords

/-- Whether a symbol may stand in a class. -/
def admitsInClass (mode : Mode) : Symbol → Bool
  | .literal c _ => if mode.bytes then c.toNat < 0x80 else !mode.anyCase
  | .family negated => mode.bytes && !negated
  | .place _ => false

/-- Whether a class with a name may stand in a class. -/
def admitsNamed (mode : Mode) (negated : Bool) : Bool :=
  if mode.bytes then !negated else !mode.anyCase

/-- As many hexadecimal digits, read onto a number. -/
def hexDigits? (mode : Mode) : (count value : Nat) → List Char → Option (Nat × List Char)
  | 0, value, text => some (value, text)
  | count + 1, value, text =>
    match mode.skip text with
    | [] => none
    | c :: rest => do mode.hexDigits? count (16 * value + (← Hex.value? c)) rest

/-- The symbol of an escape, after the backslash. Signs stand for themselves, but not every letter
stands for something. -/
def escape? (mode : Mode) : List Char → Option (Symbol × List Char)
  | [] => none
  | c :: rest =>
    let literal (c : Char) : Option (Symbol × List Char) := some (.literal c false, rest)
    let numbered (count : Nat) : Option (Symbol × List Char) := do
      let (code, rest) ← mode.hexDigits? count 0 rest
      if code.isValidChar then some (.literal (Char.ofNat code) (count = 2), rest) else none
    match c with
    | 'x' => numbered 2
    | 'u' => numbered 4
    | 'U' => numbered 8
    | 'd' | 's' | 'w' => some (.family false, rest)
    | 'D' | 'S' | 'W' => some (.family true, rest)
    | 'A' | 'z' => some (.place false, rest)
    | 'b' | 'B' | '<' | '>' => some (.place true, rest)
    | 'a' => literal '\x07'
    | 'f' => literal '\x0c'
    | 'n' => literal '\n'
    | 'r' => literal '\r'
    | 't' => literal '\t'
    | 'v' => literal '\x0b'
    | c => if c.isAlphanum || 0x80 ≤ c.toNat then none else literal c

end Mode

end DualSlot.Pattern
