import DualSlot.Bytes

/-!
JSON values. Numbers keep their literal, and a string may turn out not to be text, which only
matters to whoever looks at it.
-/

namespace DualSlot

inductive Json where
  | null
  | bool (value : Bool)
  | number (literal : String)
  | string (text : Option String)
  | array (items : List Json)
  | object (members : List (Option String × Json))

namespace Json

def text (value : String) : Json := .string (some value)

def natural (value : Nat) : Json := .number (toString value)

def ofMembers (members : List (String × Json)) : Json :=
  .object (members.map fun (key, value) => (some key, value))

def ofOption (write : α → Json) : Option α → Json
  | none => .null
  | some value => write value

/-- The member with the key, if the value is an object and has one. -/
def member? (key : String) : Json → Option Json
  | .object members => (members.find? fun (name, _) => name = some key).map (·.2)
  | _ => none

def text? : Json → Option String
  | .string text => text
  | _ => none

def elements? : Json → Option (List Json)
  | .array items => some items
  | _ => none

def bool? : Json → Option Bool
  | .bool value => some value
  | _ => none

end Json

end DualSlot
