import DualSlot.Settings
import DualSlot.Toml.Parser

/-!
Settings from configuration text. Every key is optional and none is unknown; a group of settings is
a table or an array of values in their order.
-/

namespace DualSlot.Settings

/-- How to set one key of a group. -/
structure Field (α : Type) where
  key : String
  set : Toml → α → Option α

private def text (update : String → α → α) (value : Toml) (group : α) : Option α :=
  match value with
  | .string value => some (update value group)
  | _ => none

private def path (update : Path → α → α) : Toml → α → Option α :=
  text fun value => update ⟨value⟩

private def number (bound : Nat) (update : Nat → α → α) (value : Toml) (group : α) : Option α :=
  match value with
  | .integer (.ofNat value) => if value < bound then some (update value group) else none
  | _ => none

private def word32 (update : UInt32 → α → α) : Toml → α → Option α :=
  number UInt32.size fun value => update (.ofNat value)

private def size (update : Nat → α → α) : Toml → α → Option α := number UInt64.size update

/-- Sets the members one after the other. -/
def setMembers (fields : List (Field α)) (members : Toml.Members) (group : α) : Option α :=
  members.toList.foldlM (fun group (key, value) => do
    let field ← fields.find? fun field => field.key = key
    field.set value group) group

/-- Sets the fields in their order as long as there are values. -/
def setItems (fields : List (Field α)) (items : List Toml) (group : α) : Option α :=
  (fields.zip items).foldlM (fun group (field, value) => field.set value group) group

def setGroup (fields : List (Field α)) (value : Toml) (group : α) : Option α :=
  match value with
  | .table _ members => setMembers fields members group
  | .array items => setItems fields items group
  | .tables elements => setItems fields (elements.reverse.map (.table .header)) group
  | _ => none

def slotFields : List (Field Settings) := [
  ⟨"a", path fun value settings => { settings with slotA := value }⟩,
  ⟨"b", path fun value settings => { settings with slotB := value }⟩]

private def template (update : String → BootTemplates → BootTemplates) :
    Toml → Settings → Option Settings :=
  text fun value settings =>
    { settings with boot.templates := update value settings.boot.templates }

def bootFields : List (Field Settings) := [
  ⟨"entries-dir", path fun value settings => { settings with boot.entriesDir := value }⟩,
  ⟨"loader-conf", path fun value settings => { settings with boot.loaderFile := value }⟩,
  ⟨"title", template fun value templates => { templates with title := value }⟩,
  ⟨"kernel", template fun value templates => { templates with kernel := value }⟩,
  ⟨"initrd", template fun value templates => { templates with initrd := value }⟩,
  ⟨"root", template fun value templates => { templates with root := value }⟩,
  ⟨"options", template fun value templates => { templates with options := value }⟩,
  ⟨"timeout", word32 fun value settings => { settings with boot.templates.timeout := value }⟩]

def treeFields : List (Field Settings) := [
  ⟨"data-block-size", size fun value settings => { settings with dataBlockSize := value }⟩,
  ⟨"hash-block-size", size fun value settings => { settings with hashBlockSize := value }⟩]

def fields : List (Field Settings) := [
  ⟨"state-dir", path fun value settings => { settings with stateDir := value }⟩,
  ⟨"max-boot-count", word32 fun value settings => { settings with maxBootCount := value }⟩,
  ⟨"history-limit", size fun value settings => { settings with historyLimit := value }⟩,
  ⟨"slots", setGroup slotFields⟩,
  ⟨"boot", setGroup bootFields⟩,
  ⟨"verity", setGroup treeFields⟩]

/-- The settings that a configuration text describes. -/
def decode? (text : String) : Option Settings := do
  setMembers fields (← Toml.parse? text) .standard

end DualSlot.Settings
