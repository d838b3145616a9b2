import DualSlot.Hex
import DualSlot.Json
import DualSlot.Text.Decimal

/-!
Reading JSON from bytes. Structure and literals are checked throughout; whether the bytes and
escapes of a string are text is left to the value.
-/

namespace DualSlot.Json

def byte (c : Char) : UInt8 := UInt8.ofNat c.toNat

def isSpace (b : UInt8) : Bool :=
  b == byte ' ' || b == byte '\n' || b == byte '\t' || b == byte '\r'

def skipSpace (bytes : Bytes) : Bytes := bytes.dropWhile isSpace

/-- The rest after the given ASCII word. -/
def word? : (word : List Char) → Bytes → Option Bytes
  | [], bytes => some bytes
  | c :: word, b :: bytes => if b = byte c then word? word bytes else none
  | _ :: _, [] => none

def isDigit (b : UInt8) : Bool := byte '0' ≤ b && b ≤ byte '9'

/-- At least one digit. -/
def digits? (bytes : Bytes) : Option (Bytes × Bytes) :=
  match bytes.span isDigit with
  | ([], _) => none
  | found => some found

def fraction? (bytes : Bytes) : Option (Bytes × Bytes) :=
  match bytes with
  | b :: rest =>
    if b = byte '.' then (digits? rest).map fun (found, rest) => (b :: found, rest)
    else some ([], bytes)
  | [] => some ([], [])

def exponent? (bytes : Bytes) : Option (Bytes × Bytes) :=
  match bytes with
  | b :: rest =>
    if b = byte 'e' || b = byte 'E' then
      match rest with
      | sign :: after =>
        if sign = byte '+' || sign = byte '-' then
          (digits? after).map fun (found, rest) => (b :: sign :: found, rest)
        else (digits? rest).map fun (found, rest) => (b :: found, rest)
      | [] => none
    else some ([], bytes)
  | [] => some ([], [])

/-- A whole part has no leading zero. -/
def whole? (bytes : Bytes) : Option (Bytes × Bytes) := do
  let (found, rest) ← digits? bytes
  if found.length > 1 ∧ found.head? = some (byte '0') then none else some (found, rest)

def number? (bytes : Bytes) : Option (Json × Bytes) := do
  let (sign, rest) := (match bytes with
    | b :: rest => if b = byte '-' then ([b], rest) else ([], bytes)
    | [] => ([], []))
  let (whole, rest) ← whole? rest
  let (fraction, rest) ← fraction? rest
  let (exponent, rest) ← exponent? rest
  let literal := sign ++ whole ++ fraction ++ exponent
  return (.number (.ofList (literal.map fun b => Char.ofNat b.toNat)), rest)

/-- One part of a string: bytes as they stand, an escaped character, or half of a pair. -/
inductive Piece where
  | raw (bytes : Bytes)
  | unit (value : Nat)

def escape? : Bytes → Option (Piece × Bytes)
  | b :: rest =>
    if b = byte 'u' then
      match rest with
      | h1 :: h2 :: h3 :: h4 :: rest => do
        let digits := [h1, h2, h3, h4].map fun b => Char.ofNat b.toNat
        let values ← digits.mapM Hex.value?
        return (.unit (values.foldl (16 * · + ·) 0), rest)
      | _ => none
    else if b = byte '"' || b = byte '\\' || b = byte '/' then some (.raw [b], rest)
    else if b = byte 'b' then some (.raw [8], rest)
    else if b = byte 'f' then some (.raw [12], rest)
    else if b = byte 'n' then some (.raw [10], rest)
    else if b = byte 'r' then some (.raw [13], rest)
    else if b = byte 't' then some (.raw [9], rest)
    else none
  | [] => none

def pieces? : Nat → List Piece → Bytes → Option (List Piece × Bytes)
  | 0, _, _ => none
  | patience + 1, found, bytes =>
    let (plain, rest) := bytes.span fun b => b != byte '"' && b != byte '\\' && b ≥ 0x20
    let found := if plain.isEmpty then found else .raw plain :: found
    match rest with
    | b :: rest =>
      if b = byte '"' then some (found.reverse, rest)
      else if b = byte '\\' then do
        let (piece, rest) ← escape? rest
        pieces? patience (piece :: found) rest
      else none
    | [] => none

def isHighHalf (unit : Nat) : Bool := 0xd800 ≤ unit && unit ≤ 0xdbff

def isLowHalf (unit : Nat) : Bool := 0xdc00 ≤ unit && unit ≤ 0xdfff

def encoded (code : Nat) : Bytes := Bytes.ofString (String.singleton (Char.ofNat code))

/-- The bytes of a string's parts, after those found so far, unless half of a pair stands alone. -/
def joinFrom (found : List Bytes) : List Piece → Option Bytes
  | [] => some found.reverse.flatten
  | .raw bytes :: rest => joinFrom (bytes :: found) rest
  | .unit unit :: rest =>
    if isHighHalf unit then
      match rest with
      | .unit low :: rest =>
        if isLowHalf low then
          joinFrom (encoded (0x10000 + 0x400 * (unit - 0xd800) + (low - 0xdc00)) :: found) rest
        else none
      | _ => none
    else if isLowHalf unit then none
    else joinFrom (encoded unit :: found) rest

/-- A string after its opening quote. -/
def string? (patience : Nat) (bytes : Bytes) : Option (Option String × Bytes) := do
  let (pieces, rest) ← pieces? patience [] bytes
  return ((joinFrom [] pieces).bind Bytes.text?, rest)

/-- An array or object whose end is still to come, with what it holds so far, last first, and the
key of the member that comes next. -/
inductive Frame where
  | array (items : List Json)
  | object (members : List (Option String × Json)) (key : Option String)

/-- What has been read: a whole value, or the beginning of an array or object up to one of its
values. -/
inductive Reading where
  | value (value : Json)
  | opened (frame : Frame)

/-- A key and its colon. -/
def key? (patience : Nat) (bytes : Bytes) : Option (Option String × Bytes) := do
  let rest ← word? ['"'] (skipSpace bytes)
  let (key, rest) ← string? patience rest
  return (key, ← word? [':'] (skipSpace rest))

/-- A value, or as much of it as comes before the first value in it. -/
def start? (patience : Nat) (bytes : Bytes) : Option (Reading × Bytes) :=
  match skipSpace bytes with
  | [] => none
  | b :: rest =>
    if b = byte '"' then
      (string? patience rest).map fun (text, rest) => (.value (.string text), rest)
    else if b = byte '[' then
      match skipSpace rest with
      | c :: after =>
        if c = byte ']' then some (.value (.array []), after)
        else some (.opened (.array []), rest)
      | [] => none
    else if b = byte '\x7b' then
      match skipSpace rest with
      | c :: after =>
        if c = byte '\x7d' then some (.value (.object []), after)
        else (key? patience rest).map fun (key, rest) => (.opened (.object [] key), rest)
      | [] => none
    else if b = byte 'n' then (word? "ull".toList rest).map fun rest => (.value .null, rest)
    else if b = byte 't' then (word? "rue".toList rest).map fun rest => (.value (.bool true), rest)
    else if b = byte 'f' then
      (word? "alse".toList rest).map fun rest => (.value (.bool false), rest)
    else (number? (b :: rest)).map fun (literal, rest) => (.value literal, rest)

/-- Takes a value into the array or object that it stands in, and reads on to the next value or to
the end. -/
def Frame.add? (patience : Nat) (value : Json) (bytes : Bytes) (frame : Frame) :
    Option (Reading × Bytes) :=
  match skipSpace bytes, frame with
  | [], _ => none
  | b :: rest, .array items =>
    if b = byte ',' then some (.opened (.array (value :: items)), rest)
    else if b = byte ']' then some (.value (.array (value :: items).reverse), rest)
    else none
  | b :: rest, .object members key =>
    let members := (key, value) :: members
    if b = byte ',' then
      (key? patience rest).map fun (key, rest) => (.opened (.object members key), rest)
    else if b = byte '\x7d' then some (.value (.object members.reverse), rest)
    else none

/-- Reads on to the end of the outermost value. The frames around what has been read are a list, so
that no depth of nesting is too much. -/
def finish? : Nat → List Frame → Reading → Bytes → Option (Json × Bytes)
  | 0, _, _, _ => none
  | _ + 1, [], .value value, bytes => some (value, bytes)
  | patience + 1, frame :: outer, .value value, bytes => do
    let (reading, rest) ← frame.add? patience value bytes
    finish? patience outer reading rest
  | patience + 1, outer, .opened frame, bytes => do
    let (reading, rest) ← start? patience bytes
    finish? patience (frame :: outer) reading rest

/-- The value that the bytes hold, with nothing but white space around it. Each step reads at least
one byte. -/
def parse? (bytes : Bytes) : Option Json := do
  let patience := bytes.length + 1
  let (reading, rest) ← start? patience bytes
  let (value, rest) ← finish? patience [] reading rest
  if (skipSpace rest).isEmpty then some value else none

end DualSlot.Json
