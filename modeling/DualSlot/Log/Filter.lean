import DualSlot.Log
import DualSlot.Pattern.Parser
import DualSlot.Text.Decimal
import DualSlot.Text.Utf8

/-!
The filter that decides which log messages are written: rules between commas, of which the most
specific one about a message decides.
-/

namespace DualSlot

/-- A rule lets through the messages it is about, up to a greatest detail; with none, it lets
nothing through. -/
structure LogRule where
  /-- What the topic's name starts with; without it, the rule is about any topic. -/
  target : Option (List Char)
  /-- A field that the message has to have. Messages have a text and nothing else. -/
  field : Option (List Char)
  /-- Whether only messages inside a span count, or with a field of some value. None are. -/
  confined : Bool
  detail : Nat
  deriving DecidableEq, Repr

namespace LogRule

def about (rule : LogRule) (topic : LogTopic) : Bool :=
  !rule.confined && rule.target.all (·.isPrefixOf topic.name.toList) &&
    rule.field.all (· = "message".toList)

/-- Whether a rule is at least as specific as another about the same topic: a longer target comes
first, and then a field. -/
def refines (rule other : LogRule) : Bool :=
  let reach (rule : LogRule) : Nat := (rule.target.map fun target => target.length + 1).getD 0
  reach other < reach rule ||
    (reach other = reach rule && (rule.field.isSome || other.field.isNone))

/-- A level by its name in any case or by its number. -/
def level? (text : List Char) : Option Nat :=
  match Text.number? 6 text with
  | some detail => some detail
  | none =>
    let upper := text.map Char.toUpper
    if upper = "OFF".toList then some 0
    else (LogLevel.all.find? fun level => upper = level.name.toList).map (·.detail)

/-- The rule that a word alone spells: a level for everything, or all detail about a target. -/
def ofWord (word : List Char) : LogRule :=
  match level? word with
  | some detail => ⟨none, none, false, detail⟩
  | none => ⟨some word, none, false, LogLevel.trace.detail⟩

/-- The text of a rule, and the same without the blanks around it. Where the parts of a rule are is
seen in the latter, but they are taken from the former, at the same distances from its beginning. -/
structure Spelling where
  whole : List Char
  body : List Char

namespace Spelling

def ofText (text : List Char) : Spelling := ⟨text, Text.trim text⟩

/-- The distance to a part of the body, given by all that follows from there on. -/
def distance (spelling : Spelling) (rest : List Char) : Nat :=
  Text.size spelling.body - Text.size rest

def from? (spelling : Spelling) (rest : List Char) : Option (List Char) :=
  (Text.splitBytes? (spelling.distance rest) spelling.whole).map (·.2)

/-- What there is for a part of the body, given by itself and what follows it. -/
def part? (spelling : Spelling) (part rest : List Char) : Option (List Char) := do
  let (found, _) ← Text.splitBytes? (Text.size part) (← spelling.from? (part ++ rest))
  return found

end Spelling

/-- A field may be asked to have a value, which is a number or a pattern. -/
def isValue (text : List Char) : Bool := Text.isNumeral text || Pattern.isPattern text

/-- The rule about a field, which another equals sign ends the value of. -/
def ofField? (target : Option (List Char)) (inSpan : Bool) (text : List Char) : Option LogRule :=
  match Text.cut (· = '=') text with
  | none => some ⟨target, some text, inSpan, LogLevel.trace.detail⟩
  | some (field, value) =>
    if isValue (value.takeWhile (· ≠ '=')) then
      some ⟨target, some field, true, LogLevel.trace.detail⟩
    else none

/-- A rule with brackets, after the opening one, and what follows them. They hold the name of a
span, a field in braces, or both. -/
def bracketed? (spelling : Spelling) (target : Option (List Char)) (text : List Char) :
    Option (LogRule × List Char) :=
  let (span, after) := text.span fun c => c ≠ ']' && c ≠ '\x7b'
  match after with
  | ']' :: rest => some (⟨target, none, true, LogLevel.trace.detail⟩, rest)
  | '\x7b' :: after =>
    match after.span (· ≠ '\x7d') with
    | (field, '\x7d' :: ']' :: rest) => do
      if field.isEmpty then none
      let field ← spelling.part? field ('\x7d' :: ']' :: rest)
      return (← ofField? target (!span.isEmpty) field, rest)
    | _ => none
  | _ => none

/-- The rule that the text before an equals sign spells, and what follows it. -/
def subject? (spelling : Spelling) : Option (LogRule × List Char) :=
  match spelling.body with
  | [] => none
  | '[' :: rest => bracketed? spelling none rest
  | first :: _ =>
    if ['-', ':', '_'].contains first || Text.isAlphanumeric first then
      match spelling.body.span fun c => c ≠ '=' && c ≠ '[' with
      | (_, []) => some (ofWord spelling.whole, [])
      | (word, '[' :: rest) => do
        bracketed? spelling (some (← spelling.part? word ('[' :: rest))) rest
      | (word, rest) => do
        return (⟨some (← spelling.part? word rest), none, false, LogLevel.trace.detail⟩, rest)
    else none

/-- The rule that a text spells. An equals sign may lead to a level, without which all detail is
meant. -/
def parse? (text : List Char) : Option LogRule := do
  let spelling := Spelling.ofText text
  let (rule, rest) ← subject? spelling
  match rest with
  | [] => return rule
  | '=' :: level =>
    let level ← spelling.from? level
    if level.isEmpty then return rule
    return { rule with detail := ← level? level }
  | _ => none

end LogRule

/-- The rules in their order. -/
structure LogFilter where
  rules : List LogRule
  deriving DecidableEq, Repr

namespace LogFilter

/-- Nothing is written. -/
def off : LogFilter := ⟨[]⟩

def upTo (level : LogLevel) : LogFilter := ⟨[⟨none, none, false, level.detail⟩]⟩

/-- The rule that decides on messages about a topic. Of equally specific ones it is the last. -/
def rule? (filter : LogFilter) (topic : LogTopic) : Option LogRule :=
  (filter.rules.filter (·.about topic)).foldl (fun best rule =>
    match best with
    | some other => if rule.refines other then some rule else best
    | none => some rule) none

def admits (filter : LogFilter) (topic : LogTopic) (level : LogLevel) : Bool :=
  (filter.rule? topic).any fun rule => level.detail ≤ rule.detail

/-- The filter that a text spells, if each of its rules is one. -/
def parse? (text : String) : Option LogFilter :=
  let pieces := (text.toList.splitOn ',').filter fun piece => !piece.isEmpty
  (pieces.mapM LogRule.parse?).map fun rules => ⟨rules⟩

/-- The filter that a text spells, or the usual one, which leaves out what helps to find faults. -/
def ofText (text : String) : LogFilter := (parse? text).getD (upTo .info)

end LogFilter

end DualSlot
