import DualSlot.Digest

/-!
SHA-256, for a message that arrives in pieces. A hasher keeps the chaining words and the bytes of
the block that is not complete yet; a digest pads what is left.
-/

namespace DualSlot.Sha256

/-- The eight chaining words. -/
structure Chain where
  a : UInt32
  b : UInt32
  c : UInt32
  d : UInt32
  e : UInt32
  f : UInt32
  g : UInt32
  h : UInt32

def Chain.start : Chain :=
  ⟨0x6a09e667, 0xbb67ae85, 0x3c6ef372, 0xa54ff53a, 0x510e527f, 0x9b05688c, 0x1f83d9ab, 0x5be0cd19⟩

/-- One constant for each of the 64 rounds. -/
def constants : Array UInt32 := #[
  0x428a2f98, 0x71374491, 0xb5c0fbcf, 0xe9b5dba5, 0x3956c25b, 0x59f111f1, 0x923f82a4, 0xab1c5ed5,
  0xd807aa98, 0x12835b01, 0x243185be, 0x550c7dc3, 0x72be5d74, 0x80deb1fe, 0x9bdc06a7, 0xc19bf174,
  0xe49b69c1, 0xefbe4786, 0x0fc19dc6, 0x240ca1cc, 0x2de92c6f, 0x4a7484aa, 0x5cb0a9dc, 0x76f988da,
  0x983e5152, 0xa831c66d, 0xb00327c8, 0xbf597fc7, 0xc6e00bf3, 0xd5a79147, 0x06ca6351, 0x14292967,
  0x27b70a85, 0x2e1b2138, 0x4d2c6dfc, 0x53380d13, 0x650a7354, 0x766a0abb, 0x81c2c92e, 0x92722c85,
  0xa2bfe8a1, 0xa81a664b, 0xc24b8b70, 0xc76c51a3, 0xd192e819, 0xd6990624, 0xf40e3585, 0x106aa070,
  0x19a4c116, 0x1e376c08, 0x2748774c, 0x34b0bcb5, 0x391c0cb3, 0x4ed8aa4a, 0x5b9cca4f, 0x682e6ff3,
  0x748f82ee, 0x78a5636f, 0x84c87814, 0x8cc70208, 0x90befffa, 0xa4506ceb, 0xbef9a3f7, 0xc67178f2]

def rotate (word count : UInt32) : UInt32 := (word >>> count) ||| (word <<< (32 - count))

def word (a b c d : UInt8) : UInt32 :=
  (a.toUInt32 <<< 24) ||| (b.toUInt32 <<< 16) ||| (c.toUInt32 <<< 8) ||| d.toUInt32

def words : Bytes → List UInt32
  | a :: b :: c :: d :: rest => word a b c d :: words rest
  | _ => []

/-- The next word of the schedule, after at least sixteen. -/
def extend (schedule : Array UInt32) : Array UInt32 :=
  let at? (back : Nat) := schedule.getD (schedule.size - back) 0
  let older := at? 15
  let newer := at? 2
  let low := rotate older 7 ^^^ rotate older 18 ^^^ (older >>> 3)
  let high := rotate newer 17 ^^^ rotate newer 19 ^^^ (newer >>> 10)
  schedule.push (at? 16 + low + at? 7 + high)

def schedule (block : Bytes) : Array UInt32 :=
  Nat.fold 48 (fun _ _ done => extend done) (words block).toArray

def round (constant input : UInt32) (s : Chain) : Chain :=
  let mix := rotate s.e 6 ^^^ rotate s.e 11 ^^^ rotate s.e 25
  let choice := (s.e &&& s.f) ^^^ ((~~~ s.e) &&& s.g)
  let first := s.h + mix + choice + constant + input
  let spread := rotate s.a 2 ^^^ rotate s.a 13 ^^^ rotate s.a 22
  let majority := (s.a &&& s.b) ^^^ (s.a &&& s.c) ^^^ (s.b &&& s.c)
  ⟨first + (spread + majority), s.a, s.b, s.c, s.d + first, s.e, s.f, s.g⟩

/-- Takes in one block of 64 bytes. -/
def compress (s : Chain) (block : Bytes) : Chain :=
  let inputs := schedule block
  let t := Nat.fold 64 (fun i _ s => round (constants.getD i 0) (inputs.getD i 0) s) s
  ⟨s.a + t.a, s.b + t.b, s.c + t.c, s.d + t.d, s.e + t.e, s.f + t.f, s.g + t.g, s.h + t.h⟩

def wordBytes (w : UInt32) : Bytes :=
  [(w >>> 24).toUInt8, (w >>> 16).toUInt8, (w >>> 8).toUInt8, w.toUInt8]

def Chain.digest (s : Chain) : Digest where
  bytes := wordBytes s.a ++ wordBytes s.b ++ wordBytes s.c ++ wordBytes s.d ++
    wordBytes s.e ++ wordBytes s.f ++ wordBytes s.g ++ wordBytes s.h
  length_bytes := rfl

/-- What follows a message of the given length: a one bit, zeros up to a whole block, and the length
in bits. -/
def padding (length : Nat) : Bytes :=
  0x80 :: (List.replicate ((119 - length % 64) % 64) 0 ++ Bytes.bigEndian 8 (8 * length))

structure Hasher where
  chain : Chain
  pending : Bytes
  length : Nat

def Hasher.start : Hasher := ⟨.start, [], 0⟩

def Hasher.update (hasher : Hasher) (piece : Bytes) : Hasher :=
  let ready := hasher.pending ++ piece
  let whole := 64 * (ready.length / 64)
  ⟨(blocks 64 (ready.take whole)).foldl compress hasher.chain, ready.drop whole,
    hasher.length + piece.length⟩

def Hasher.digest (hasher : Hasher) : Digest :=
  ((blocks 64 (hasher.pending ++ padding hasher.length)).foldl compress hasher.chain).digest

def digest (message : Bytes) : Digest := (Hasher.start.update message).digest

end DualSlot.Sha256
