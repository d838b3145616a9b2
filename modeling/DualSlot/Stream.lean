import DualSlot.IoError
import DualSlot.Sha256

/-!
A stream of bytes as its consumer meets it: reads return a piece of what is left, are interrupted,
or fail. A consumer asks again after an interruption and stops at an empty piece.
-/

namespace DualSlot

/-- The bytes still to come, and how reads will deliver them. -/
structure Stream where
  rest : Bytes
  position : Nat
  /-- The most bytes that one read at a position returns, if it is bounded. -/
  piece : Nat → Option Nat
  /-- Positions, each of which interrupts the first read at or after it. -/
  interrupts : List Nat
  /-- The position from which every read fails. -/
  failure : Option (Nat × IoError)

/-- What a read comes to. -/
inductive Arrival where
  | bytes (piece : Bytes)
  | interrupted
  | failed (cause : IoError)
  deriving DecidableEq, Repr

namespace Stream

/-- A stream that delivers all it is asked for. -/
def ofBytes (bytes : Bytes) : Stream := ⟨bytes, 0, fun _ => none, [], none⟩

/-- A stream that fails before its first byte. -/
def broken (cause : IoError) : Stream := ⟨[], 0, fun _ => none, [], some (0, cause)⟩

/-- How much a read with the given room may return here: it stops short of the next interruption and
of the failure. -/
def allowance (stream : Stream) (room : Nat) : Nat :=
  let marks := stream.interrupts ++ (stream.failure.map (·.1)).toList
  let bounds := (stream.piece stream.position).toList ++ marks.map (· - stream.position)
  bounds.foldl min room

def advance (stream : Stream) (count : Nat) : Stream :=
  { stream with rest := stream.rest.drop count, position := stream.position + count }

/-- One read with room for some bytes. -/
def read (stream : Stream) (room : Nat) : Arrival × Stream :=
  match stream.interrupts.find? (· ≤ stream.position) with
  | some mark => (.interrupted, { stream with interrupts := stream.interrupts.erase mark })
  | none =>
    match stream.failure.filter (·.1 ≤ stream.position) with
    | some (_, cause) => (.failed cause, stream)
    | none =>
      let piece := stream.rest.take (stream.allowance room)
      (.bytes piece, stream.advance piece.length)

/-- Enough reads to exhaust the stream. -/
def patience (stream : Stream) : Nat := stream.rest.length + stream.interrupts.length + 1

/-- The room of a read whose consumer takes everything. -/
def ample : Nat := 8192

def foldFrom (f : β → Bytes → β) : Nat → β → Stream → β × Option IoError
  | 0, state, _ => (state, none)
  | patience + 1, state, stream =>
    match stream.read ample with
    | (.interrupted, stream) => foldFrom f patience state stream
    | (.failed cause, _) => (state, some cause)
    | (.bytes [], _) => (state, none)
    | (.bytes piece, stream) => foldFrom f patience (f state piece) stream

/-- Takes in every piece until the stream ends or fails. -/
def fold (f : β → Bytes → β) (start : β) (stream : Stream) : β × Option IoError :=
  foldFrom f stream.patience start stream

/-- Everything that arrives, and the failure that ended it. -/
def drain (stream : Stream) : Bytes × Option IoError :=
  let (pieces, failure) := stream.fold (fun pieces piece => piece :: pieces) []
  (pieces.reverse.flatten, failure)

/-- The whole contents, unless a read fails. -/
def contents (stream : Stream) : Except IoError Bytes :=
  match stream.drain with
  | (bytes, none) => .ok bytes
  | (_, some cause) => .error cause

/-- The stream cut off after its first bytes: what lies beyond is never asked for. -/
def take (count : Nat) (stream : Stream) : Stream :=
  let stop := stream.position + count
  { stream with
    rest := stream.rest.take count
    interrupts := stream.interrupts.filter (· < stop)
    failure := stream.failure.filter (·.1 < stop) }

def fillFrom : Nat → Nat → List Bytes → Stream → Except IoError (Bytes × Stream)
  | 0, _, pieces, stream => .ok (pieces.reverse.flatten, stream)
  | patience + 1, room, pieces, stream =>
    if room = 0 then .ok (pieces.reverse.flatten, stream)
    else
      match stream.read room with
      | (.interrupted, stream) => fillFrom patience room pieces stream
      | (.failed cause, _) => .error cause
      | (.bytes [], stream) => .ok (pieces.reverse.flatten, stream)
      | (.bytes piece, stream) => fillFrom patience (room - piece.length) (piece :: pieces) stream

/-- Reads until the room is filled or the stream ends. -/
def fill (room : Nat) (stream : Stream) : Except IoError (Bytes × Stream) :=
  fillFrom (room + stream.interrupts.length + 1) room [] stream

end Stream

end DualSlot
