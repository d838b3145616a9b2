import DualSlot.Explanation
import DualSlot.HashTree.Params
import DualSlot.Text.Decimal
import DualSlot.Text.Quoted

/-!
The files beside an image. The checksum file begins with the checksum. The metadata file describes
the hash tree in lines of a key, a colon and a value, or is nothing but the root hash.
-/

namespace DualSlot

inductive SidecarError where
  | digest (cause : DigestError)
  | emptyChecksum
  | missingRootHash
  | invalidSalt (value : String)
  | unsupportedAlgorithm (value : String)
  | unsupportedType (value : String)
  | invalidNumber (key value : String)
  deriving DecidableEq, Repr

namespace SidecarError

def reason : SidecarError → String
  | digest cause => cause.message
  | emptyChecksum => "empty checksum file"
  | missingRootHash => "missing root hash"
  | invalidSalt value => s!"invalid salt {Text.quote value}"
  | unsupportedAlgorithm value => s!"unsupported hash algorithm {Text.quote value}"
  | unsupportedType value => s!"unsupported hash type {Text.quote value}"
  | invalidNumber key value => s!"invalid value {Text.quote value} for {Text.quote key}"

def message (error : SidecarError) : String :=
  match error with
  | digest _ => s!"invalid hash digest: {error.reason}"
  | _ => s!"invalid integrity metadata: {error.reason}"

def explanation (error : SidecarError) : Explanation :=
  match error with
  | digest cause => [error.message, cause.message]
  | _ => [error.message]

end SidecarError

/-- What the metadata file says of the tree. -/
structure Metadata where
  rootHash : Digest
  salt : Bytes
  dataBlockSize : Option Nat
  hashBlockSize : Option Nat
  dataBlocks : Option Nat
  deriving DecidableEq

namespace Metadata

/-- The keys with a meaning. Lines with another key are for the reader only. -/
inductive Key where
  | rootHash
  | salt
  | dataBlockSize
  | hashBlockSize
  | dataBlocks
  | algorithm
  | type
  deriving DecidableEq, Repr

def Key.name : Key → String
  | rootHash => "root hash"
  | salt => "salt"
  | dataBlockSize => "data block size"
  | hashBlockSize => "hash block size"
  | dataBlocks => "data blocks"
  | algorithm => "hash algorithm"
  | type => "hash type"

def Key.all : List Key :=
  [.rootHash, .salt, .dataBlockSize, .hashBlockSize, .dataBlocks, .algorithm, .type]

def lower (text : List Char) : List Char := text.map Char.toLower

/-- Keys are compared without regard to ASCII case and surrounding white space. -/
def Key.parse? (text : List Char) : Option Key :=
  Key.all.find? fun key => key.name.toList = lower (Text.trim text)

/-- The values of the lines read so far. -/
structure Fields where
  rootHash : Option Digest
  salt : Bytes
  dataBlockSize : Option Nat
  hashBlockSize : Option Nat
  dataBlocks : Option Nat

def Fields.blank : Fields := ⟨none, [], none, none, none⟩

def number (key value : List Char) : Except SidecarError Nat :=
  match Text.number? UInt64.size value with
  | some value => .ok value
  | none => .error (.invalidNumber (.ofList key) (.ofList value))

/-- Takes in one line. A dash stands for a salt that is left as it was. -/
def Fields.readLine (fields : Fields) (line : List Char) : Except SidecarError Fields :=
  match Text.cut (· = ':') line with
  | none => .ok fields
  | some (key, value) =>
    let value := Text.trim value
    match Key.parse? key with
    | none => .ok fields
    | some .rootHash => do
      let digest ← (Digest.parseChars value).mapError .digest
      return { fields with rootHash := some digest }
    | some .salt =>
      if value = ['-'] then .ok fields
      else match Hex.decode? value with
        | some salt => .ok { fields with salt }
        | none => .error (.invalidSalt (.ofList value))
    | some .dataBlockSize => return { fields with dataBlockSize := some (← number key value) }
    | some .hashBlockSize => return { fields with hashBlockSize := some (← number key value) }
    | some .dataBlocks => return { fields with dataBlocks := some (← number key value) }
    | some .algorithm =>
      if lower value = "sha256".toList then .ok fields
      else .error (.unsupportedAlgorithm (.ofList value))
    | some .type =>
      if value = ['1'] then .ok fields else .error (.unsupportedType (.ofList value))

def ofRootHash (rootHash : Digest) : Metadata := ⟨rootHash, [], none, none, none⟩

def Fields.metadata (fields : Fields) : Except SidecarError Metadata :=
  match fields.rootHash with
  | none => .error .missingRootHash
  | some rootHash =>
    .ok ⟨rootHash, fields.salt, fields.dataBlockSize, fields.hashBlockSize, fields.dataBlocks⟩

/-- A text of one line without a colon is a bare root hash. -/
def parse (text : String) : Except SidecarError Metadata :=
  let text := Text.trim text.toList
  if ':' ∉ text ∧ '\n' ∉ text then
    ((Digest.parseChars text).mapError .digest).map ofRootHash
  else do
    let fields ← (Text.lines text).foldlM Fields.readLine Fields.blank
    fields.metadata

/-- The parameters of the tree, with defaults for sizes that are not given. -/
def params (metadata : Metadata) (defaults : HashTree.Params) : HashTree.Params where
  dataBlockSize := metadata.dataBlockSize.getD defaults.dataBlockSize
  hashBlockSize := metadata.hashBlockSize.getD defaults.hashBlockSize
  salt := metadata.salt

end Metadata

/-- The first word of the checksum file, or nothing. -/
def checksumWord (text : String) : String := .ofList ((Text.words text.toList).headD [])

def parseChecksum (text : String) : Except SidecarError Digest :=
  match Text.words text.toList with
  | [] => .error .emptyChecksum
  | word :: _ => (Digest.parseChars word).mapError .digest

end DualSlot
