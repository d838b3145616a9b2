import DualSlot.Text.Printable

/-!
Quoted text, as messages show names that come from outside: between double quotes, with a short
escape or the number in place of a character that would not be seen as itself.
-/

namespace DualSlot.Text

def quoteChar (c : Char) : List Char :=
  match c with
  | '\x00' => ['\\', '0']
  | '\t' => ['\\', 't']
  | '\n' => ['\\', 'n']
  | '\r' => ['\\', 'r']
  | '"' => ['\\', '"']
  | '\\' => ['\\', '\\']
  | c =>
    if isPrintable c then [c]
    else ['\\', 'u', '\x7b'] ++ Nat.toDigits 16 c.toNat ++ ['\x7d']

def quote (text : String) : String :=
  .ofList ('"' :: (text.toList.flatMap quoteChar ++ ['"']))

end DualSlot.Text
