import DualSlot.Json.Number
import DualSlot.Json.Parser
import DualSlot.Json.Printer
import DualSlot.Record

/-!
Records as JSON. A record is an object with each field once and any other members, or the array of
its fields in order; a name is a string or an object that maps it to null.
-/

namespace DualSlot

namespace Json

/-- The name of an alternative without contents. -/
def name? : Json → Option String
  | .string text => text
  | .object [(name, .null)] => name
  | _ => none

/-- A literal of digits alone, below the bound. -/
def natural? (bound : Nat) : Json → Option Nat
  | .number literal =>
    let digits := literal.toList
    if digits.all Char.isDigit then Text.number? bound digits else none
  | _ => none

/-- The values of the fields in their order, from an object that has each exactly once or from an
array of their number. -/
def fields? (names : List String) : Json → Option (List Json)
  | .object members =>
    if members.all fun (key, _) => key.isSome then
      names.mapM fun name =>
        match members.filter fun (key, _) => key = some name with
        | [(_, value)] => some value
        | _ => none
    else none
  | .array items => if items.length = names.length then some items else none
  | _ => none

end Json

open Json

def Slot.json (slot : Slot) : Json := .text slot.name

def Slot.ofJson? (value : Json) : Option Slot := do
  let name ← value.name?
  Slot.all.find? fun slot => slot.name = name

def Outcome.json (outcome : Outcome) : Json := .text outcome.name

def Outcome.ofJson? (value : Json) : Option Outcome := do
  let name ← value.name?
  [Outcome.success, .rollback].find? fun outcome => outcome.name = name

def word32OfJson? (value : Json) : Option UInt32 := (natural? UInt32.size value).map UInt32.ofNat

def word64OfJson? (value : Json) : Option UInt64 := (natural? UInt64.size value).map UInt64.ofNat

/-- A record that can be written as JSON and read back. -/
class JsonRecord (α : Type) where
  json : α → Json
  ofJson? : Json → Option α

instance : JsonRecord BootState where
  json state := .ofMembers
    [("active_slot", state.activeSlot.json), ("boot_count", .natural state.bootCount.toNat)]
  ofJson? value := do
    match ← fields? ["active_slot", "boot_count"] value with
    | [slot, count] => return ⟨← Slot.ofJson? slot, ← word32OfJson? count⟩
    | _ => none

instance : JsonRecord SlotRecord where
  json record := .ofMembers
    [("slot", record.slot.json), ("root_hash", .text record.rootHash),
      ("created_at", .natural record.createdAt.toNat)]
  ofJson? value := do
    match ← fields? ["slot", "root_hash", "created_at"] value with
    | [slot, hash, created] => return ⟨← Slot.ofJson? slot, ← hash.text?, ← word64OfJson? created⟩
    | _ => none

instance : JsonRecord HistoryEntry where
  json entry := .ofMembers
    [("timestamp", .natural entry.timestamp.toNat), ("outcome", entry.outcome.json),
      ("active_slot", entry.activeSlot.json)]
  ofJson? value := do
    match ← fields? ["timestamp", "outcome", "active_slot"] value with
    | [time, outcome, slot] =>
      return ⟨← word64OfJson? time, ← Outcome.ofJson? outcome, ← Slot.ofJson? slot⟩
    | _ => none

namespace JsonRecord

/-- The contents of a record's own file. -/
def file [JsonRecord α] (record : α) : Bytes :=
  Bytes.ofString ((json record).pretty 0 ++ "\n")

/-- A record on one line. -/
def line [JsonRecord α] (record : α) : String := (json record).compact

def read? [JsonRecord α] (bytes : Bytes) : Option α := (Json.parse? bytes).bind ofJson?

end JsonRecord

/-- What kind of value stands where text is expected. -/
def Json.kind : Json → String
  | .null => "null"
  | .bool value => s!"boolean `{value}`"
  | .number literal =>
    if isInteger literal then s!"integer `{literal}`"
    else s!"floating point `{Decimal.ofDouble (double literal)}`"
  | .string text => "string " ++ Text.quote (text.getD "")
  | .array _ => "sequence"
  | .object _ => "map"

namespace Digest

def json (digest : Digest) : Json := .text digest.hex

/-- The digest that a value holds, or what the value is instead. -/
def ofJson (value : Json) : Except String Digest :=
  let wrong (what : String) := s!"invalid {what}: {value.kind}, expected hex-encoded SHA-256 digest"
  match value.text? with
  | none => .error (wrong "type")
  | some text => (parse text).mapError fun _ => wrong "value"

end Digest

end DualSlot
