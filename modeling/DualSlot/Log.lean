import DualSlot.Hex

/-!
Log messages: how much detail they are, what they are about, and the lines that show them.
-/

namespace DualSlot

inductive LogLevel where
  | error
  | warn
  | info
  | debug
  | trace
  deriving DecidableEq, Repr

namespace LogLevel

def all : List LogLevel := [error, warn, info, debug, trace]

def name : LogLevel → String
  | error => "ERROR"
  | warn => "WARN"
  | info => "INFO"
  | debug => "DEBUG"
  | trace => "TRACE"

/-- How much detail a level stands for. -/
def detail : LogLevel → Nat
  | error => 1
  | warn => 2
  | info => 3
  | debug => 4
  | trace => 5

/-- The number of a character that could steer a terminal, and otherwise the character. -/
def shownChar (c : Char) : List Char :=
  let digits := [Hex.digit (c.toNat / 16), Hex.digit (c.toNat % 16)]
  if ['\x07', '\x08', '\x0c', '\x1b', '\x7f'].contains c then '\\' :: 'x' :: digits
  else if 0x80 ≤ c.toNat ∧ c.toNat ≤ 0x9f then '\\' :: 'u' :: '\x7b' :: (digits ++ ['\x7d'])
  else [c]

/-- The line of a message: the level's name, aligned to the right, and the text. -/
def line (level : LogLevel) (text : String) : String :=
  .ofList (List.replicate (5 - level.name.length) ' ') ++ level.name ++ " " ++
    .ofList (text.toList.flatMap shownChar)

end LogLevel

/-- What a message is about. -/
inductive LogTopic where
  | slots
  | records
  | bootEntries
  | source
  | update
  | device
  | rollback
  | system
  | status
  deriving DecidableEq, Repr

/-- The name that filters know a topic by. -/
def LogTopic.name : LogTopic → String
  | slots => "twinboot_ctrl::slots"
  | records => "twinboot_ctrl::state::dir"
  | bootEntries => "twinboot_ctrl::boot_entries"
  | source => "twinboot_ctrl::source"
  | update => "twinboot_ctrl::orchestrator"
  | device => "twinboot_ctrl::device"
  | rollback => "twinboot_ctrl::rollback"
  | system => "twinboot_ctrl::system"
  | status => "twinboot_ctrl::status"

end DualSlot
