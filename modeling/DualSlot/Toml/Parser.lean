import DualSlot.Decimal
import DualSlot.Hex
import DualSlot.Text.Decimal
import DualSlot.Text.Lines
import DualSlot.Toml

/-!
Reading configuration text: lines that set keys or open tables, with values in quotes, numbers,
arrays and inline tables.
-/

namespace DualSlot.Toml

def isSpace (c : Char) : Bool := c = ' ' || c = '\t'

def skipSpace (text : List Char) : List Char := text.dropWhile isSpace

/-- Text may hold tabs and no other control character of ASCII. -/
def isPlain (c : Char) : Bool := c = '\t' || (0x20 ≤ c.toNat && c.toNat ≠ 0x7f)

/-- The rest after a line end. -/
def lineEnd? : List Char → Option (List Char)
  | '\n' :: rest => some rest
  | '\r' :: '\n' :: rest => some rest
  | _ => none

/-- The rest after a comment, if there is one. -/
def skipComment : List Char → List Char
  | '#' :: rest => rest.dropWhile isPlain
  | text => text

/-- Skips space, comments and line ends. -/
def skipBlank : Nat → List Char → List Char
  | 0, text => text
  | patience + 1, text =>
    let text := skipSpace text
    match lineEnd? text with
    | some rest => skipBlank patience rest
    | none =>
      match text with
      | '#' :: _ =>
        match lineEnd? (skipComment text) with
        | some rest => skipBlank patience rest
        | none => text
      | _ => text

/-! Strings. -/

private def scalar? (digits : List Char) : Option Char := do
  let values ← digits.mapM Hex.value?
  let code := values.foldl (16 * · + ·) 0
  if code.isValidChar then some (Char.ofNat code) else none

/-- The character of an escape, after the backslash. -/
def escape? : List Char → Option (Char × List Char)
  | 'b' :: rest => some ('\x08', rest)
  | 't' :: rest => some ('\t', rest)
  | 'n' :: rest => some ('\n', rest)
  | 'f' :: rest => some ('\x0c', rest)
  | 'r' :: rest => some ('\r', rest)
  | '"' :: rest => some ('"', rest)
  | '\\' :: rest => some ('\\', rest)
  | 'u' :: a :: b :: c :: d :: rest => (scalar? [a, b, c, d]).map (·, rest)
  | 'U' :: a :: b :: c :: d :: e :: f :: g :: h :: rest =>
    (scalar? [a, b, c, d, e, f, g, h]).map (·, rest)
  | _ => none

/-- A string on one line with escapes, after its quote and what is found so far. -/
def basic? : Nat → (found : List Char) → List Char → Option (List Char × List Char)
  | 0, _, _ => none
  | patience + 1, found, text =>
    match text with
    | '"' :: rest => some (found.reverse, rest)
    | '\\' :: rest => do
      let (c, rest) ← escape? rest
      basic? patience (c :: found) rest
    | c :: rest => if isPlain c then basic? patience (c :: found) rest else none
    | [] => none

/-- A string on one line without escapes, after its quote. -/
def literal? (text : List Char) : Option (List Char × List Char) :=
  match text.span fun c => isPlain c && c ≠ '\'' with
  | (found, '\'' :: rest) => some (found, rest)
  | _ => none

/-- The rest of a backslash at the end of a line: the white space up to the next text. -/
private def joinLines? (text : List Char) : Option (List Char) :=
  (lineEnd? (skipSpace text)).map fun rest =>
    let isGap (c : Char) := isSpace c || c = '\n'
    let rec skip : List Char → List Char
      | '\r' :: '\n' :: rest => skip rest
      | c :: rest => if isGap c then skip rest else c :: rest
      | [] => []
    skip rest

/-- A string over several lines, after its quotes. Up to two more quotes may precede those that
close it. -/
private def blockFrom (mark : Char) : Nat → List Char → List Char → Option (List Char × List Char)
  | 0, _, _ => none
  | patience + 1, found, text =>
    match lineEnd? text with
    | some rest => blockFrom mark patience ('\n' :: found) rest
    | none =>
      match text with
      | [] => none
      | c :: rest =>
        if c = mark then
          let marks := (text.takeWhile (· = mark)).length
          if marks ≥ 3 then
            let kept := min marks 5 - 3
            some ((List.replicate kept mark ++ found).reverse, text.drop (kept + 3))
          else blockFrom mark patience (c :: found) rest
        else if c = '\\' ∧ mark = '"' then
          match joinLines? rest with
          | some rest => blockFrom mark patience found rest
          | none => do
            let (c, rest) ← escape? rest
            blockFrom mark patience (c :: found) rest
        else if isPlain c then blockFrom mark patience (c :: found) rest
        else none

private def block? (mark : Char) (patience : Nat) (text : List Char) :
    Option (List Char × List Char) :=
  blockFrom mark patience [] ((lineEnd? text).getD text)

def string? (patience : Nat) : List Char → Option (String × List Char)
  | '"' :: '"' :: '"' :: rest => (block? '"' patience rest).map text
  | '\'' :: '\'' :: '\'' :: rest => (block? '\'' patience rest).map text
  | '"' :: rest => (basic? patience [] rest).map text
  | '\'' :: rest => (literal? rest).map text
  | _ => none
where
  text : List Char × List Char → String × List Char
    | (found, rest) => (.ofList found, rest)

/-! Numbers, dates and words. -/

/-- Digits that may be grouped by single underscores. -/
def grouped? (isDigit : Char → Bool) (text : List Char) : Option (List Char) :=
  let groups := text.splitOn '_'
  if groups.all fun group => !group.isEmpty && group.all isDigit then some groups.flatten else none

private def isHex (c : Char) : Bool := (Hex.value? c).isSome

/-- The value of digits in a base, unless it is beyond what 64 bits hold with a sign. -/
private def ofDigits? (base : Nat) (digits : List Char) : Option Nat :=
  digits.foldlM (fun value c =>
    let longer := base * value + (Hex.value? c).getD 0
    if longer ≤ Int64.minValue.toInt.natAbs then some longer else none) 0

/-- Digits without a zero in front. -/
private def plain? (text : List Char) : Option (List Char) :=
  (grouped? Char.isDigit text).filter fun digits =>
    digits.length ≤ 1 || digits.head? ≠ some '0'

private def splitSign : List Char → Bool × List Char
  | '-' :: rest => (true, rest)
  | '+' :: rest => (false, rest)
  | text => (false, text)

/-- A whole number of 64 bits with a sign. -/
def integer? (text : List Char) : Option Int := do
  let value ← (match text with
    | '0' :: 'x' :: rest => do return (← ofDigits? 16 (← grouped? isHex rest) : Int)
    | '0' :: 'o' :: rest => do
      return (← ofDigits? 8 (← grouped? (fun c => '0' ≤ c && c ≤ '7') rest) : Int)
    | '0' :: 'b' :: rest => do
      return (← ofDigits? 2 (← grouped? (fun c => c = '0' || c = '1') rest) : Int)
    | text => do
      let (negative, digits) := splitSign text
      let value ← ofDigits? 10 (← plain? digits)
      return if negative then -(value : Int) else value)
  if value ≤ Int64.maxValue.toInt then some value else none

private def exponent? (text : List Char) : Option Int :=
  let (negative, digits) := splitSign text
  (grouped? Char.isDigit digits).map fun digits =>
    if negative then -(Text.exponentValue digits : Int) else Text.exponentValue digits

/-- The digits of a number with a fraction or an exponent, without its sign, and the power of ten
that they are multiplied by. -/
def decimal? (text : List Char) : Option (List Char × Int) := do
  let (mantissa, exponent) := text.span fun c => c ≠ 'e' && c ≠ 'E'
  let (whole, fraction) := mantissa.span (· ≠ '.')
  if fraction.isEmpty ∧ exponent.isEmpty then none
  let whole ← plain? whole
  let digits ← if fraction.isEmpty then some [] else grouped? Char.isDigit (fraction.drop 1)
  let power ← if exponent.isEmpty then some 0 else exponent? (exponent.drop 1)
  return (whole ++ digits, power - digits.length)

/-- Whether the text is a number with a fraction or an exponent, or one that is none. A number may
be too small for a double, also on the negative side, but not too large. -/
def isFloat (text : List Char) : Bool :=
  let (negative, unsigned) := splitSign text
  unsigned = "inf".toList || unsigned = "nan".toList ||
    (decimal? unsigned).any fun (digits, power) => negative || !Decimal.overflows digits power

private def fixed? (count : Nat) (text : List Char) : Option Nat :=
  if text.length = count && text.all Char.isDigit then some (Text.digitsValue text) else none

private def within (count low high : Nat) (text : List Char) : Bool :=
  match fixed? count text with
  | some value => low ≤ value && value ≤ high
  | none => false

private def daysIn (year month : Nat) : Nat :=
  match month with
  | 2 => if (year % 4 = 0 ∧ year % 100 ≠ 0) ∨ year % 400 = 0 then 29 else 28
  | 4 | 6 | 9 | 11 => 30
  | _ => 31

def isDate (text : List Char) : Bool :=
  match text.splitOn '-' with
  | [year, month, day] =>
    match fixed? 4 year, fixed? 2 month with
    | some y, some m => 1 ≤ m && m ≤ 12 && within 2 1 (daysIn y m) day
    | _, _ => false
  | _ => false

private def isClock (text : List Char) : Bool :=
  match text.splitOn ':' with
  | [hour, minute, second] =>
    let (whole, fraction) := second.span (· ≠ '.')
    within 2 0 23 hour && within 2 0 59 minute && within 2 0 60 whole &&
      (fraction.isEmpty || (fraction.length > 1 && (fraction.drop 1).all Char.isDigit))
  | _ => false

private def isOffset (text : List Char) : Bool :=
  match text.splitOn ':' with
  | [hour, minute] => within 2 0 23 hour && within 2 0 59 minute
  | _ => false

/-- A time of day, with a time zone if one may follow. -/
def isTime (zone : Bool) (text : List Char) : Bool :=
  match text.span fun c => c ≠ 'Z' && c ≠ 'z' && c ≠ '+' && c ≠ '-' with
  | (time, []) => isClock time
  | (time, mark :: offset) =>
    zone && isClock time && (if mark = '+' || mark = '-' then isOffset offset else offset.isEmpty)

private def isWordChar (c : Char) : Bool :=
  c.isAlphanum || c = '+' || c = '-' || c = '_' || c = '.' || c = ':'

/-- A number, a truth value, a date or a time: everything up to a character that ends it. -/
def word? (text : List Char) : Option (Toml × List Char) :=
  let (word, rest) := text.span isWordChar
  let value? : Option Toml :=
    if word = "true".toList then some (.boolean true)
    else if word = "false".toList then some (.boolean false)
    else match integer? word with
      | some value => some (.integer value)
      | none =>
        if isFloat word then some .decimal
        else
          let (date, time) := word.span fun c => c ≠ 'T' && c ≠ 't'
          if isTime false word || (isDate date && (time.isEmpty || isTime true (time.drop 1))) then
            some .moment
          else none
  match value?, rest with
  | some .moment, ' ' :: after =>
    let (time, beyond) := after.span isWordChar
    if isDate word && isTime true time then some (.moment, beyond) else some (.moment, rest)
  | some value, rest => some (value, rest)
  | none, _ => none

/-! Keys and values. -/

private def isBare (c : Char) : Bool := c.isAlphanum || c = '_' || c = '-'

def simpleKey? (patience : Nat) : List Char → Option (String × List Char)
  | '"' :: rest => (basic? patience [] rest).map fun (found, rest) => (.ofList found, rest)
  | '\'' :: rest => (literal? rest).map fun (found, rest) => (.ofList found, rest)
  | text =>
    match text.span isBare with
    | ([], _) => none
    | (name, rest) => some (.ofList name, rest)

/-- As many arrays and inline tables may stand inside each other, and as many keys in a row. -/
def maxNesting : Nat := 79

private def keysFrom :
    Nat → (path : List String) → List Char → Option ((List String × String) × List Char)
  | 0, _, _ => none
  | patience + 1, path, text => do
    let (key, rest) ← simpleKey? patience text
    match skipSpace rest with
    | '.' :: rest => keysFrom patience (key :: path) (skipSpace rest)
    | rest => if path.length < maxNesting then some ((path.reverse, key), rest) else none

/-- Keys between dots, and the space after them: the path, and the last key. -/
def keys? (patience : Nat) (text : List Char) : Option ((List String × String) × List Char) :=
  keysFrom patience [] text

mutual

/-- A value that may hold that many more levels of arrays and inline tables. -/
private def value? : Nat → (levels : Nat) → List Char → Option (Toml × List Char)
  | 0, _, _ => none
  | patience + 1, levels, text =>
    match text, levels with
    | '"' :: _, _ | '\'' :: _, _ =>
      (string? patience text).map fun (value, rest) => (.string value, rest)
    | '[' :: rest, levels + 1 => items? patience levels [] (skipBlank patience rest)
    | '\x7b' :: rest, levels + 1 =>
      match skipSpace rest with
      | '\x7d' :: rest => some (.table .braces ∅, rest)
      | rest => members? patience levels ∅ rest
    | _, _ => word? text

private def items? : Nat → (levels : Nat) → List Toml → List Char → Option (Toml × List Char)
  | 0, _, _, _ => none
  | patience + 1, levels, found, text =>
    match text with
    | ']' :: rest => some (.array found.reverse, rest)
    | _ => do
      let (item, rest) ← value? patience levels text
      match skipBlank patience rest with
      | ',' :: rest => items? patience levels (item :: found) (skipBlank patience rest)
      | ']' :: rest => some (.array (item :: found).reverse, rest)
      | _ => none

private def members? : Nat → (levels : Nat) → Members → List Char → Option (Toml × List Char)
  | 0, _, _, _ => none
  | patience + 1, levels, found, text => do
    let (((path, key), value), rest) ← setting? patience levels text
    let found ← found.assign value key path
    match skipSpace rest with
    | ',' :: rest => members? patience levels found (skipSpace rest)
    | '\x7d' :: rest => some (.table .braces found, rest)
    | _ => none

private def setting? :
    Nat → (levels : Nat) → List Char → Option (((List String × String) × Toml) × List Char)
  | 0, _, _ => none
  | patience + 1, levels, text => do
    let (keys, rest) ← keys? patience text
    match rest with
    | '=' :: rest => do
      let (value, rest) ← value? patience levels (skipSpace rest)
      return ((keys, value), rest)
    | _ => none

end

/-- The document so far, and the header of the table that lines add to. -/
structure Progress where
  root : Members
  header : List String

private def line? (patience : Nat) (progress : Progress) (text : List Char) :
    Option (Progress × List Char) :=
  match text with
  | [] | '\n' :: _ | '\r' :: _ | '#' :: _ => some (progress, text)
  | '[' :: '[' :: rest => do
    match ← keys? patience (skipSpace rest) with
    | ((path, key), ']' :: ']' :: rest) =>
      return (⟨← progress.root.openElement path key, path ++ [key]⟩, rest)
    | _ => none
  | '[' :: rest => do
    match ← keys? patience (skipSpace rest) with
    | ((path, key), ']' :: rest) =>
      return (⟨← progress.root.openTable path key, path ++ [key]⟩, rest)
    | _ => none
  | text => do
    let (((path, key), value), rest) ← setting? patience maxNesting text
    let root ← progress.root.descend (Members.assign value key path) progress.header
    return ({ progress with root }, rest)

private def linesFrom : Nat → Progress → List Char → Option Progress
  | 0, _, _ => none
  | patience + 1, progress, text => do
    let (progress, rest) ← line? patience progress (skipSpace text)
    match skipComment (skipSpace rest) with
    | [] => some progress
    | rest => do linesFrom patience progress (← lineEnd? rest)

/-- The members of the whole document. Reading takes at most two steps for each character. -/
def parse? (text : String) : Option Members :=
  let text := (Text.after? ['\ufeff'] text.toList).getD text.toList
  (linesFrom (2 * text.length + 3) ⟨∅, []⟩ text).map (·.root)

end DualSlot.Toml
