import DualSlot.Explanation
import DualSlot.HashTree.Params
import DualSlot.Stream

/-!
The hash tree of an image, built while the image is read. The image is cut into data blocks whose
salted digests are the leaves. Digests are packed into hash blocks, and each hash block is hashed
for the next level, until one hash block is left: its digest is the root.
-/

namespace DualSlot

structure HashTree where
  rootHash : Digest
  /-- The number of bytes read. -/
  imageSize : Nat
  dataBlocks : Nat
  levels : Nat
  /-- The size of all hash blocks of all levels. -/
  hashTreeSize : Nat
  deriving DecidableEq

namespace HashTree

variable (hash : Bytes → Digest) (params : Params)

inductive BuildError where
  | params (cause : ParamsError)
  | unreadable (cause : IoError)
  deriving DecidableEq, Repr

def BuildError.message : BuildError → String
  | .params cause => s!"invalid verity parameters: {cause.message}"
  | .unreadable _ => "unable to read image"

def BuildError.explanation (error : BuildError) : Explanation :=
  match error with
  | .params _ => [error.message]
  | .unreadable cause => [error.message, cause.message]

def saltedDigest (block : Bytes) : Digest := hash (params.salt ++ block)

/-- The leaves of the blocks that were read, and the number of bytes in them. -/
structure Leaves where
  digests : List Digest
  size : Nat

def readLeaves : Nat → List Digest → Nat → Stream → Except IoError Leaves
  | 0, digests, size, _ => .ok ⟨digests.reverse, size⟩
  | patience + 1, digests, size, stream => do
    let (block, stream) ← stream.fill params.dataBlockSize
    if block.isEmpty then return ⟨digests.reverse, size⟩
    let leaf := saltedDigest hash params (block.padded params.dataBlockSize)
    let size := size + block.length
    if block.length < params.dataBlockSize then return ⟨(leaf :: digests).reverse, size⟩
    readLeaves patience (leaf :: digests) size stream

/-- Reads the image block by block; the last block is padded with zeros. -/
def leaves (stream : Stream) : Except IoError Leaves :=
  readLeaves hash params (stream.rest.length + 1) [] 0 stream

/-- One hash block: digests side by side, padded with zeros. -/
def pack (digests : List Digest) : Bytes :=
  Bytes.padded params.hashBlockSize (digests.flatMap Digest.bytes)

/-- The hash blocks that hold the digests in order; at least one. -/
def hashBlocks (digests : List Digest) : List Bytes :=
  match blocks params.digestsPerBlock digests with
  | [] => [pack params []]
  | groups => groups.map (pack params)

/-- The root, the number of levels, and the number of hash blocks in them. -/
structure Levels where
  root : Digest
  count : Nat
  hashBlocks : Nat

def climbFrom : Nat → List Digest → Levels
  | patience, digests =>
    match patience, hashBlocks params digests with
    | patience + 1, first :: second :: rest =>
      let level := first :: second :: rest
      let above := climbFrom patience (level.map (saltedDigest hash params))
      ⟨above.root, above.count + 1, above.hashBlocks + level.length⟩
    | _, blocks => ⟨saltedDigest hash params blocks.flatten, 1, blocks.length⟩

/-- Packs and hashes level by level until one hash block holds the level. -/
def climb (digests : List Digest) : Levels := climbFrom hash params digests.length digests

/-- The tree of everything the stream delivers. -/
def build (stream : Stream) : Except BuildError HashTree := do
  params.validate.mapError .params
  let leaves ← (leaves hash params stream).mapError .unreadable
  let levels := climb hash params leaves.digests
  return {
    rootHash := levels.root
    imageSize := leaves.size
    dataBlocks := leaves.digests.length
    levels := levels.count
    hashTreeSize := params.hashBlockSize * levels.hashBlocks }

/-- Whether the stream delivers an image with this root hash. A failing read is no answer. -/
def verify (expected : Digest) (stream : Stream) : Except BuildError Bool :=
  return (← build hash params stream).rootHash = expected

end HashTree

end DualSlot
