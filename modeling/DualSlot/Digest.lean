import DualSlot.Hex
import DualSlot.Text.Blank
import DualSlot.Text.Lines

/-!
Digests of 32 bytes and their text: 64 hexadecimal digits, written in lower case and read in either
case with white space around them.
-/

namespace DualSlot

structure Digest where
  bytes : Bytes
  length_bytes : bytes.length = 32
  deriving DecidableEq

inductive DigestError where
  | empty
  | notHex
  | wrongSize (count : Nat)
  deriving DecidableEq, Repr

namespace DigestError

def message : DigestError → String
  | empty => "digest is empty"
  | notHex => "digest is not a hex string"
  | wrongSize count => s!"digest has {count} bytes instead of 32"

end DigestError

namespace Digest

def size : Nat := 32

def zero : Digest := ⟨List.replicate 32 0, rfl⟩

def ofBytes (bytes : Bytes) : Except DigestError Digest :=
  if fits : bytes.length = 32 then .ok ⟨bytes, fits⟩ else .error (.wrongSize bytes.length)

def hex (digest : Digest) : String := .ofList (Hex.encode digest.bytes)

def parseChars (text : List Char) : Except DigestError Digest :=
  match Text.trim text with
  | [] => .error .empty
  | text =>
    match Hex.decode? text with
    | none => .error .notHex
    | some bytes => ofBytes bytes

def parse (text : String) : Except DigestError Digest := parseChars text.toList

def parse? (text : String) : Option Digest := (parse text).toOption

end Digest

theorem Digest.ofBytes_bytes (digest : Digest) : Digest.ofBytes digest.bytes = .ok digest := by
  simp [Digest.ofBytes, digest.length_bytes]

end DualSlot
