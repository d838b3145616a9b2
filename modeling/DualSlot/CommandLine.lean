import DualSlot.Slot
import DualSlot.Text.Decimal

/-!
The command line: commands and their subcommands, options with a value, flags, and operands. Options
stand anywhere after the command they belong to; two dashes end them.
-/

namespace DualSlot

inductive Command where
  | install (source : String) (image : Option String) (reboot : Bool)
  | verify (source : String) (image : Option String) (json : Bool)
  | info (json : Bool)
  | rollback (reboot : Bool)
  | confirm
  | init (active : Slot) (rootHash : String) (force : Bool)
  | bootAttempt
  | history (limit : Option Nat) (json : Bool)
  deriving DecidableEq, Repr

/-- A command and the configuration file that was named for it. -/
structure Invocation where
  config : Option String
  command : Command
  deriving DecidableEq, Repr

/-- What keeps arguments from being an invocation. -/
inductive UsageError where
  | help
  | helpOnMissing
  | missingSubcommand
  | invalidSubcommand
  | unknownArgument
  | missingRequired
  | invalidValue
  | valueValidation
  | tooManyValues
  | conflict
  deriving DecidableEq, Repr

namespace CommandLine

/-- What an argument takes as its value. -/
inductive Kind where
  | flag
  | text
  | path
  | slot
  | number
  deriving DecidableEq, Repr

/-- The arguments of one command. -/
structure Level where
  commands : List String
  options : List (String × Kind)
  operands : List String
  required : List String

/-- The option that every level takes. -/
def config : String × Kind := ("config", .path)

private def group (commands : List String) : Level := ⟨commands, [config], [], []⟩

private def leaf (options : List (String × Kind)) (operands required : List String) : Level :=
  ⟨[], config :: options, operands, required⟩

/-- The level that a sequence of commands leads to. -/
def Level.of : List String → Option Level
  | [] => some (group ["update", "system", "state"])
  | ["update"] => some (group ["install", "verify"])
  | ["system"] => some (group ["info", "rollback", "confirm"])
  | ["state"] => some (group ["init", "boot-attempt", "history"])
  | ["update", "install"] =>
    some (leaf [("image", .text), ("reboot", .flag)] ["source"] ["source"])
  | ["update", "verify"] => some (leaf [("image", .text), ("json", .flag)] ["source"] ["source"])
  | ["system", "info"] => some (leaf [("json", .flag)] [] [])
  | ["system", "rollback"] => some (leaf [("reboot", .flag)] [] [])
  | ["system", "confirm"] => some (leaf [] [] [])
  | ["state", "init"] =>
    some (leaf [("active", .slot), ("root-hash", .text), ("force", .flag)] []
      ["active", "root-hash"])
  | ["state", "boot-attempt"] => some (leaf [] [] [])
  | ["state", "history"] => some (leaf [("limit", .number), ("json", .flag)] [] [])
  | _ => none

/-- An argument whose value is not taken in yet. -/
structure Pending where
  name : String
  kind : Kind
  value : Option String

/-- The arguments of a level that were taken in. -/
abbrev Values := List (String × String)

/-- What has been read of a level. -/
structure Scan where
  found : Values
  pending : Option Pending
  /-- Whether two dashes have ended the options. -/
  ended : Bool
  operands : Nat

def Scan.start : Scan := ⟨[], none, false, 0⟩

private def limit? (value : String) : Option Nat := Text.number? UInt64.size value.toList

def checkValue (kind : Kind) (value : String) : Except UsageError Unit :=
  match kind with
  | .flag | .text => .ok ()
  | .path => if value.isEmpty then .error .invalidValue else .ok ()
  | .slot => if (Slot.parse? value).isSome then .ok () else .error .valueValidation
  | .number => if (limit? value).isSome then .ok () else .error .valueValidation

/-- Takes in the value of the pending argument. -/
def Scan.settle (scan : Scan) : Except UsageError Scan :=
  match scan.pending with
  | none => .ok scan
  | some ⟨_, _, none⟩ => .error .invalidValue
  | some ⟨name, kind, some value⟩ => do
    if (scan.found.lookup name).isSome then throw .conflict
    checkValue kind value
    return { scan with found := (name, value) :: scan.found, pending := none }

/-- Takes in an argument whose value is at hand. -/
def Scan.take (scan : Scan) (name : String) (kind : Kind) (value : String) :
    Except UsageError Scan := do
  let scan ← scan.settle
  Scan.settle { scan with pending := some ⟨name, kind, some value⟩ }

/-- An argument that begins with two dashes: its name and the value attached to it. -/
private def long? (argument : String) : Option (String × Option String) :=
  match argument.toList with
  | '-' :: '-' :: rest =>
    let (name, value) := rest.span (· ≠ '=')
    some (.ofList name, match value with
      | [] => none
      | _ :: value => some (.ofList value))
  | _ => none

private def Scan.long (scan : Scan) (level : Level) (name : String) (value : Option String) :
    Except UsageError Scan := do
  let flag (take : Except UsageError Scan) : Except UsageError Scan :=
    if value.isSome then .error .tooManyValues else take
  match level.options.lookup name with
  | some .flag => flag (scan.take name .flag "")
  | some kind =>
    match value with
    | some value => scan.take name kind value
    | none => do
      let scan ← scan.settle
      return { scan with pending := some ⟨name, kind, none⟩ }
  | none =>
    if name = "help" then
      flag do
        let _ ← scan.settle
        throw .help
    else throw .unknownArgument

/-- The operand that an argument fills. -/
private def Scan.operand (scan : Scan) (level : Level) (argument : String) :
    Except UsageError Scan :=
  match level.operands[scan.operands]? with
  | some name => do
    let scan ← scan.settle
    return { scan with
      pending := some ⟨name, .text, some argument⟩, operands := scan.operands + 1 }
  | none =>
    if level.commands.isEmpty || (scan.ended && ("help" :: level.commands).contains argument) then
      .error .unknownArgument
    else .error .invalidSubcommand

/-- One argument that is no command. -/
def Scan.argument (scan : Scan) (level : Level) (argument : String) : Except UsageError Scan :=
  if scan.ended then scan.operand level argument
  else if argument = "--" then .ok { scan with ended := true }
  else
    match long? argument, argument.toList with
    | some (name, value), _ => scan.long level name value
    | none, '-' :: 'h' :: _ => do
      let _ ← scan.settle
      throw .help
    | none, '-' :: _ :: _ => .error .unknownArgument
    | none, _ =>
      match scan.pending with
      | some ⟨name, kind, none⟩ =>
        .ok { scan with pending := some ⟨name, kind, some argument⟩ }
      | _ => scan.operand level argument

/-- Whether an argument may be a command here. -/
private def Scan.awaitsCommand (scan : Scan) : Bool :=
  !scan.ended && (match scan.pending with
    | some ⟨_, _, none⟩ => false
    | _ => true)

/-- The commands and the values of all levels, the innermost first. -/
structure Reading where
  commands : List String
  values : Values

private def finish (level : Level) (scan : Scan) (inner : Option Reading) :
    Except UsageError Values := do
  let scan ← scan.settle
  if inner.isNone && !level.commands.isEmpty then
    throw (if scan.found.isEmpty then .helpOnMissing else .missingSubcommand)
  if level.required.all fun name => (scan.found.lookup name).isSome then return scan.found
  throw .missingRequired

/-- Whether the words after a request for help name a command. -/
private def helpFor (path : List String) : List String → UsageError
  | [] => .help
  | word :: words =>
    match Level.of path with
    | some level =>
      if level.commands.contains word then helpFor (path ++ [word]) words
      else if word = "help" && !level.commands.isEmpty && words.isEmpty then .help
      else .invalidSubcommand
    | none => .invalidSubcommand

/-- Reads the arguments of the level at a path of commands, and of the levels below it. -/
def read (path : List String) (level : Level) (scan : Scan) :
    List String → Except UsageError Reading
  | [] => return ⟨path, ← finish level scan none⟩
  | argument :: arguments =>
    if scan.awaitsCommand && !level.commands.isEmpty && argument = "help" then
      .error (helpFor path arguments)
    else if scan.awaitsCommand && level.commands.contains argument then
      let path := path ++ [argument]
      match Level.of path with
      | none => .error .invalidSubcommand
      | some inner => do
        let reading ← read path inner .start arguments
        let values ← finish level scan (some reading)
        return { reading with values := reading.values ++ values }
    else do
      read path level (← scan.argument level argument) arguments

private def command? (commands : List String) (values : Values) : Option Command :=
  let has (name : String) := (values.lookup name).isSome
  match commands with
  | ["update", "install"] =>
    return .install (← values.lookup "source") (values.lookup "image") (has "reboot")
  | ["update", "verify"] =>
    return .verify (← values.lookup "source") (values.lookup "image") (has "json")
  | ["system", "info"] => some (.info (has "json"))
  | ["system", "rollback"] => some (.rollback (has "reboot"))
  | ["system", "confirm"] => some .confirm
  | ["state", "init"] => do
    let active ← Slot.parse? (← values.lookup "active")
    return .init active (← values.lookup "root-hash") (has "force")
  | ["state", "boot-attempt"] => some .bootAttempt
  | ["state", "history"] => some (.history ((values.lookup "limit").bind limit?) (has "json"))
  | _ => none

end CommandLine

open CommandLine in
/-- The invocation that the arguments after the program's name spell. -/
def Invocation.parse (arguments : List String) : Except UsageError Invocation := do
  let some top := Level.of [] | throw .helpOnMissing
  let reading ← CommandLine.read [] top .start arguments
  match command? reading.commands reading.values with
  | some command => return ⟨reading.values.lookup "config", command⟩
  | none => throw .missingSubcommand

end DualSlot
