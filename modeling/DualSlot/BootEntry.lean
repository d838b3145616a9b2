import DualSlot.Slot
import DualSlot.Text.Decimal

/-!
Boot entries and the loader's configuration as text: how they are written, and what is read back
from them.
-/

namespace DualSlot

/-- What a boot entry says of its slot. -/
structure BootEntry where
  slot : Slot
  rootHash : Digest
  /-- The boot attempts granted to the slot when it was activated. -/
  tries : UInt32
  triesLeft : UInt32
  deriving DecidableEq

/-- The texts around the fields of an entry. They may name the slot in braces, in either case. -/
structure BootTemplates where
  title : String
  kernel : String
  initrd : String
  root : String
  options : String
  timeout : UInt32
  deriving DecidableEq, Repr

def replaceFrom (pattern new : List Char) (done : List Char) : Nat → List Char → List Char
  | _, [] => done.reverse
  | skipped + 1, _ :: text => replaceFrom pattern new done skipped text
  | 0, c :: text =>
    if pattern.isPrefixOf (c :: text) then
      replaceFrom pattern new (new.reverse ++ done) (pattern.length - 1) text
    else replaceFrom pattern new (c :: done) 0 text

/-- Every occurrence of the pattern, from left to right, is replaced. -/
def replaceAll (pattern new text : List Char) : List Char := replaceFrom pattern new [] 0 text

def Slot.expand (slot : Slot) (template : String) : String :=
  let lower := replaceAll "\x7bslot\x7d".toList slot.lower.toList template.toList
  .ofList (replaceAll "\x7bSLOT\x7d".toList slot.name.toList lower)

/-- The name of the slot's entry file. -/
def Slot.entryFile (slot : Slot) : String := s!"twinboot-{slot.lower}.conf"

namespace BootTemplates

def standard : BootTemplates where
  title := "Twinboot OS"
  kernel := "/twinboot/\x7bslot\x7d/vmlinuz"
  initrd := "/twinboot/\x7bslot\x7d/initrd.img"
  root := "PARTLABEL=slot-\x7bslot\x7d"
  options := ""
  timeout := 3

def renderEntry (templates : BootTemplates) (entry : BootEntry) : String :=
  let slot := entry.slot
  let hash := entry.rootHash.hex
  let extra := Text.trimmed (slot.expand templates.options)
  let options := s!"root={slot.expand templates.root} ro slot={slot.name} verity_hash={hash} " ++
    s!"tries={entry.tries.toNat} tries-left={entry.triesLeft.toNat}" ++
    (if extra.isEmpty then "" else " " ++ extra)
  s!"title {slot.expand templates.title} ({slot.name})\n" ++
    s!"version {String.ofList (hash.toList.take 12)}\n" ++
    s!"linux {slot.expand templates.kernel}\n" ++
    s!"initrd {slot.expand templates.initrd}\n" ++
    s!"options {options}\n"

def renderLoader (templates : BootTemplates) (defaultFile : String) : String :=
  s!"# Managed by twinboot-ctrl.\ndefault {defaultFile}\ntimeout {templates.timeout.toNat}\n"

end BootTemplates

/-- Why a text is not the entry of a slot. -/
inductive EntryFault where
  | noOptions
  | slot
  | wrongSlot
  | rootHash
  | tries
  | triesLeft
  deriving DecidableEq, Repr

def EntryFault.message : EntryFault → String
  | noOptions => "missing `options` line"
  | slot => "missing or invalid `slot`"
  | wrongSlot => "entry names the wrong slot"
  | rootHash => "missing or invalid `verity_hash`"
  | tries => "missing or invalid `tries`"
  | triesLeft => "missing or invalid `tries-left`"

/-- The value of the first word that assigns one to the name. -/
def assigned? (name : String) (words : List (List Char)) : Option (List Char) :=
  words.findSome? (Text.after? (name.toList ++ ['=']))

/-- Reads the fields of the first line of options; they have to be those of the slot. -/
def BootEntry.parse (slot : Slot) (text : String) : Except EntryFault BootEntry := do
  let optionsLine (line : List Char) := Text.after? "options ".toList (Text.trim line)
  let some options := (Text.lines text.toList).findSome? optionsLine | throw .noOptions
  let words := Text.words options
  let some named := (assigned? "slot" words).bind Slot.parseChars? | throw .slot
  if named ≠ slot then throw .wrongSlot
  let digest? (text : List Char) := (Digest.parseChars text).toOption
  let some rootHash := (assigned? "verity_hash" words).bind digest? | throw .rootHash
  let some tries := (assigned? "tries" words).bind Text.word32? | throw .tries
  let some triesLeft := (assigned? "tries-left" words).bind Text.word32? | throw .triesLeft
  return { slot, rootHash, tries, triesLeft }

/-- The value of the first setting of the default in the loader's configuration. -/
def loaderDefault? (text : String) : Option String :=
  (Text.lines text.toList).findSome? fun line =>
    match Text.cut Text.isBlank (Text.trim line) with
    | some (key, value) =>
      if key = "default".toList then some (.ofList (Text.trim value)) else none
    | none => none

/-- The slot whose entry the loader's configuration names as default. -/
def defaultSlot? (text : String) : Option Slot :=
  (loaderDefault? text).bind fun file => Slot.all.find? fun slot => slot.entryFile = file

end DualSlot
