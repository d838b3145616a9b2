import DualSlot.Hex
import DualSlot.Json

/-!
Writing JSON, on one line or indented by two spaces a level. Only quotes, backslashes and control
characters are escaped.
-/

namespace DualSlot.Json

def escape (c : Char) : List Char :=
  match c with
  | '"' => ['\\', '"']
  | '\\' => ['\\', '\\']
  | '\x08' => ['\\', 'b']
  | '\x0c' => ['\\', 'f']
  | '\n' => ['\\', 'n']
  | '\r' => ['\\', 'r']
  | '\t' => ['\\', 't']
  | c =>
    if c.toNat < 0x20 then ['\\', 'u', '0', '0', Hex.digit (c.toNat / 16), Hex.digit (c.toNat % 16)]
    else [c]

def quoted (text : String) : String :=
  .ofList ('"' :: (text.toList.flatMap escape ++ ['"']))

mutual

/-- The value on one line, without any space. -/
def compact : Json → String
  | .null => "null"
  | .bool value => toString value
  | .number literal => literal
  | .string text => quoted (text.getD "")
  | .array items => "[" ++ String.intercalate "," (compactItems items) ++ "]"
  | .object members => "\x7b" ++ String.intercalate "," (compactMembers members) ++ "\x7d"

def compactItems : List Json → List String
  | [] => []
  | item :: items => compact item :: compactItems items

def compactMembers : List (Option String × Json) → List String
  | [] => []
  | (key, value) :: members =>
    (quoted (key.getD "") ++ ":" ++ compact value) :: compactMembers members

end

def indentation (depth : Nat) : String := "\n" ++ .ofList (List.replicate (2 * depth) ' ')

mutual

/-- The value over several lines, starting at a depth of indentation. -/
def pretty (depth : Nat) : Json → String
  | .array (item :: items) =>
    "[" ++ String.intercalate "," (prettyItems (depth + 1) (item :: items)) ++
      indentation depth ++ "]"
  | .object (member :: members) =>
    "\x7b" ++ String.intercalate "," (prettyMembers (depth + 1) (member :: members)) ++
      indentation depth ++ "\x7d"
  | value => compact value

def prettyItems (depth : Nat) : List Json → List String
  | [] => []
  | item :: items => (indentation depth ++ pretty depth item) :: prettyItems depth items

def prettyMembers (depth : Nat) : List (Option String × Json) → List String
  | [] => []
  | (key, value) :: members =>
    (indentation depth ++ quoted (key.getD "") ++ ": " ++ pretty depth value) ::
      prettyMembers depth members

end

end DualSlot.Json
