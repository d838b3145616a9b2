import DualSlot.Slot
import DualSlot.Stream

/-!
Slots in memory, on media that may lose or change what is written to them.
-/

namespace DualSlot.Simulation

/-- How a medium misbehaves. -/
inductive MediumFault where
  /-- The power goes after so many bytes are written. -/
  | powerLoss (after : Nat)
  | bitFlip (offset : Nat)
  /-- All is written, but another number of bytes is reported. -/
  | report (count : Nat)
  /-- Nothing after so many bytes is written, but all is reported. -/
  | keep (length : Nat)
  /-- So many zero bytes are written after the image. -/
  | extend (length : Nat)
  /-- Reading fails at an offset, and does not stop where it was asked to. -/
  | readFailure (offset : Nat)
  deriving DecidableEq, Repr

structure Media where
  a : Bytes
  b : Bytes
  fault : Option MediumFault
  deriving DecidableEq, Repr

namespace Media

def bytes (media : Media) : Slot → Bytes
  | .a => media.a
  | .b => media.b

def store (media : Media) (slot : Slot) (bytes : Bytes) : Media :=
  match slot with
  | .a => { media with a := bytes }
  | .b => { media with b := bytes }

/-- The last bit of the byte at an offset is turned over. -/
def flip (offset : Nat) (bytes : Bytes) : Bytes := bytes.modify offset (· ^^^ 1)

/-- The bytes on the medium after an image was written, and what the writer is told. -/
def written (fault : Option MediumFault) (image : Bytes) : Bytes × Except IoError Nat :=
  match fault with
  | some (.powerLoss after) => (image.take after, .error (.other "power loss"))
  | some (.bitFlip offset) => (flip offset image, .ok image.length)
  | some (.report count) => (image, .ok count)
  | some (.keep length) => (image.take length, .ok image.length)
  | some (.extend length) => (image ++ List.replicate length 0, .ok image.length)
  | some (.readFailure _) | none => (image, .ok image.length)

/-- Nothing is written if the image cannot be read as a whole. -/
def write (media : Media) (slot : Slot) (image : Stream) : Except IoError Nat × Media :=
  match image.contents with
  | .error cause => (.error cause, media)
  | .ok image =>
    let (bytes, reply) := written media.fault image
    (reply, media.store slot bytes)

/-- The first bytes of a slot. -/
def read (media : Media) (slot : Slot) (length : Nat) : Stream :=
  match media.fault with
  | some (.readFailure offset) =>
    { Stream.ofBytes (media.bytes slot) with
      failure := some (offset, .other "injected read error") }
  | _ => .ofBytes ((media.bytes slot).take length)

end Media

end DualSlot.Simulation
