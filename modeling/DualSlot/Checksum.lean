import DualSlot.Stream

/-!
The flat checksum of a stream, taken while its bytes pass.
-/

namespace DualSlot

/-- The hash and the number of the bytes that have passed. -/
structure Tally where
  hasher : Sha256.Hasher
  consumed : Nat

namespace Tally

def start : Tally := ⟨.start, 0⟩

/-- A read that fails or is interrupted brings nothing and leaves the tally as it was. -/
def after (tally : Tally) : Arrival → Tally
  | .bytes piece => ⟨tally.hasher.update piece, tally.consumed + piece.length⟩
  | .interrupted | .failed _ => tally

def digest (tally : Tally) : Digest := tally.hasher.digest

end Tally

/-- A stream with the tally of what was read from it so far. -/
structure TalliedStream where
  stream : Stream
  tally : Tally

namespace TalliedStream

def ofStream (stream : Stream) : TalliedStream := ⟨stream, .start⟩

def read (tallied : TalliedStream) (room : Nat) : Arrival × TalliedStream :=
  let (arrival, stream) := tallied.stream.read room
  (arrival, ⟨stream, tallied.tally.after arrival⟩)

end TalliedStream

/-- The checksum of everything the stream delivers, or the error that a read ended with. -/
def Stream.checksum (stream : Stream) : Except IoError Digest :=
  match stream.fold Sha256.Hasher.update .start with
  | (hasher, none) => .ok hasher.digest
  | (_, some cause) => .error cause

def Stream.hasChecksum (stream : Stream) (expected : Digest) : Except IoError Bool :=
  return (← stream.checksum) = expected

end DualSlot
