import DualSlot.Bytes

/-!
Text as UTF-8: decoding bytes that may be none, where each longest piece that begins a character and
does not complete it counts as one replacement character, and distances in text that are counted in
bytes.
-/

namespace DualSlot.Text

/-- What is known of an unfinished character: how many bytes are missing, which range the next one
must be in, and the bits so far. -/
structure Partial where
  missing : Nat
  low : UInt8
  high : UInt8
  bits : Nat

/-- Decoded characters, last first, and the character that is being read. -/
structure Decoding where
  read : List Char
  pending : Option Partial

def replacement : Char := '\ufffd'

/-- The first byte of a character. -/
def begin? (byte : UInt8) : Except Char (Option Partial) :=
  if byte < 0x80 then .error (Char.ofNat byte.toNat)
  else if 0xc2 ≤ byte ∧ byte ≤ 0xdf then .ok (some ⟨1, 0x80, 0xbf, byte.toNat - 0xc0⟩)
  else if byte = 0xe0 then .ok (some ⟨2, 0xa0, 0xbf, 0⟩)
  else if byte = 0xed then .ok (some ⟨2, 0x80, 0x9f, 0xd⟩)
  else if 0xe1 ≤ byte ∧ byte ≤ 0xef then .ok (some ⟨2, 0x80, 0xbf, byte.toNat - 0xe0⟩)
  else if byte = 0xf0 then .ok (some ⟨3, 0x90, 0xbf, 0⟩)
  else if 0xf1 ≤ byte ∧ byte ≤ 0xf3 then .ok (some ⟨3, 0x80, 0xbf, byte.toNat - 0xf0⟩)
  else if byte = 0xf4 then .ok (some ⟨3, 0x80, 0x8f, 4⟩)
  else .ok none

def Decoding.start (state : Decoding) (byte : UInt8) : Decoding :=
  match begin? byte with
  | .error c => ⟨c :: state.read, none⟩
  | .ok (some pending) => ⟨state.read, some pending⟩
  | .ok none => ⟨replacement :: state.read, none⟩

def Decoding.step (state : Decoding) (byte : UInt8) : Decoding :=
  match state.pending with
  | none => state.start byte
  | some pending =>
    if pending.low ≤ byte ∧ byte ≤ pending.high then
      let bits := 64 * pending.bits + (byte.toNat - 0x80)
      if pending.missing ≤ 1 then ⟨Char.ofNat bits :: state.read, none⟩
      else ⟨state.read, some ⟨pending.missing - 1, 0x80, 0xbf, bits⟩⟩
    else Decoding.start ⟨replacement :: state.read, none⟩ byte

/-- The text of the bytes, with replacement characters for what is no UTF-8. -/
def lossy (bytes : Bytes) : List Char :=
  let state := bytes.foldl Decoding.step ⟨[], none⟩
  (match state.pending with
    | none => state.read
    | some _ => replacement :: state.read).reverse

def size (text : List Char) : Nat := text.foldl (fun size c => size + c.utf8Size) 0

def splitBytesFrom (found : List Char) : Nat → List Char → Option (List Char × List Char)
  | 0, rest => some (found.reverse, rest)
  | _ + 1, [] => none
  | count + 1, c :: rest =>
    if c.utf8Size ≤ count + 1 then splitBytesFrom (c :: found) (count + 1 - c.utf8Size) rest
    else none

/-- A text in two parts, of which the first has that many bytes. A character is not split. -/
def splitBytes? (count : Nat) (text : List Char) : Option (List Char × List Char) :=
  splitBytesFrom [] count text

end DualSlot.Text
