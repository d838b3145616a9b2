import DualSlot.Sha256

/-!
The parameters of a hash tree and what makes them usable.
-/

namespace DualSlot.HashTree

structure Params where
  dataBlockSize : Nat
  hashBlockSize : Nat
  /-- Hashed before every block. -/
  salt : Bytes
  deriving DecidableEq, Repr

inductive ParamsError where
  | tooLarge
  | dataBlockSize
  | hashBlockSize
  deriving DecidableEq, Repr

def ParamsError.message : ParamsError → String
  | tooLarge => "block sizes must not exceed 512 KiB"
  | dataBlockSize => "data block size must be a power of two of at least 512 bytes"
  | hashBlockSize => "hash block size must be a power of two of at least 64 bytes"

def defaultBlockSize : Nat := 4096

def maxBlockSize : Nat := 512 * 1024

def isPowerOfTwo (n : Nat) : Bool := Nat.pow 2 n.log2 == n

namespace Params

def standard : Params := ⟨defaultBlockSize, defaultBlockSize, []⟩

/-- A hash block has to hold two digests, or the levels would not shrink. -/
def validate (params : Params) : Except ParamsError Unit :=
  if params.dataBlockSize > maxBlockSize || params.hashBlockSize > maxBlockSize then
    .error .tooLarge
  else if !isPowerOfTwo params.dataBlockSize || params.dataBlockSize < 512 then
    .error .dataBlockSize
  else if !isPowerOfTwo params.hashBlockSize || params.hashBlockSize < 2 * Digest.size then
    .error .hashBlockSize
  else .ok ()

def digestsPerBlock (params : Params) : Nat := params.hashBlockSize / Digest.size

end Params

end DualSlot.HashTree
