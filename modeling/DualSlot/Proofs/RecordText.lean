import DualSlot.Record.Codec
import DualSlot.Proofs.JsonText

/-! Records in the files of a store. Whatever their texts and numbers are, they are read back as they were
written. -/

namespace DualSlot

/-- A record whose JSON is an object of scalars from which it is made again. -/
class FlatRecord (α : Type) [JsonRecord α] : Prop where
  flat (record : α) : ∃ members, members ≠ [] ∧ (∀ member ∈ members, Json.Scalar member.2) ∧
    JsonRecord.json record = .ofMembers members
  ofJson?_json (record : α) : JsonRecord.ofJson? (JsonRecord.json record) = some record

namespace JsonRecord

variable {α : Type} [JsonRecord α] [FlatRecord α]

/-- A record is read back from its own file. -/
theorem read?_file (record : α) : read? (file record) = some record := by
  obtain ⟨members, given, scalars, shape⟩ := FlatRecord.flat record
  rw [read?, file, shape, Json.parse?_pretty given scalars, Option.bind_some, ← shape, FlatRecord.ofJson?_json]

/-- A record is read back from its line, also behind space. -/
theorem read?_spaced {gap : Bytes} (blank : ∀ b ∈ gap, Json.isSpace b = true) (record : α) :
    read? (gap ++ Bytes.ofString (line record)) = some record := by
  obtain ⟨members, given, scalars, shape⟩ := FlatRecord.flat record
  rw [read?, line, shape, Json.parse?_compact blank given scalars, Option.bind_some, ← shape, FlatRecord.ofJson?_json]

theorem read?_line (record : α) : read? (Bytes.ofString (line record)) = some record :=
  read?_spaced (List.forall_mem_nil _) record

end JsonRecord

open Json

theorem Slot.scalar_json (slot : Slot) : Scalar slot.json := .text _

theorem Slot.ofJson?_json (slot : Slot) : ofJson? slot.json = some slot := by
  cases slot <;> decide

theorem Outcome.ofJson?_json (outcome : Outcome) : ofJson? outcome.json = some outcome := by
  cases outcome <;> decide

theorem natural?_natural {bound value : Nat} (below : value < bound) :
    natural? bound (.natural value) = some value := by
  have digits : (toString value).toList.all Char.isDigit = true := by
    rw [Nat.toString_eq_ofList_toDigits, String.toList_ofList, List.all_eq_true]
    exact fun c inside => Nat.isDigit_of_mem_toDigits (by decide) (by decide) inside
  simp only [natural?, natural, digits, if_true]
  rw [Nat.toString_eq_ofList_toDigits, String.toList_ofList, Text.number?_toDigits below]

theorem word32OfJson?_natural (value : UInt32) : word32OfJson? (.natural value.toNat) = some value := by
  rw [word32OfJson?, natural?_natural value.toNat_lt]
  simp

theorem word64OfJson?_natural (value : UInt64) : word64OfJson? (.natural value.toNat) = some value := by
  rw [word64OfJson?, natural?_natural value.toNat_lt]
  simp

instance : FlatRecord BootState where
  flat state := ⟨_, by simp, by simp [Slot.scalar_json, Scalar.natural], rfl⟩
  ofJson?_json state := by
    simp [JsonRecord.json, JsonRecord.ofJson?, ofMembers, fields?, Slot.ofJson?_json, word32OfJson?_natural]

instance : FlatRecord SlotRecord where
  flat record := ⟨_, by simp, by simp [Slot.scalar_json, Scalar.natural, Scalar.text], rfl⟩
  ofJson?_json record := by
    simp [JsonRecord.json, JsonRecord.ofJson?, ofMembers, fields?, Slot.ofJson?_json, word64OfJson?_natural,
      text?, text]

instance : FlatRecord HistoryEntry where
  flat entry := ⟨_, by simp, by simp [Slot.scalar_json, Scalar.natural, Outcome.json, Scalar.text], rfl⟩
  ofJson?_json entry := by
    simp [JsonRecord.json, JsonRecord.ofJson?, ofMembers, fields?, Slot.ofJson?_json, word64OfJson?_natural,
      Outcome.ofJson?_json]

end DualSlot
