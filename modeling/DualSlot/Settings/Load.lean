import DualSlot.Durable
import DualSlot.Explanation
import DualSlot.Settings.Decode

/-!
Reading the settings from a file. The standard settings apply if the operator names no file and the
usual one is missing.
-/

namespace DualSlot

inductive SettingsError where
  | unreadable (path : Path) (cause : IoError)
  | malformed (path : Path)
  deriving DecidableEq, Repr

namespace SettingsError

def message : SettingsError → String
  | unreadable path _ => s!"unable to read configuration file {path.quoted}"
  | malformed path => s!"unable to parse configuration file {path.quoted}"

def explanation (error : SettingsError) : Explanation :=
  match error with
  | unreadable _ cause => [error.message, cause.message]
  | malformed _ => [error.message, "no such settings in TOML"]

end SettingsError

namespace Settings

def readFrom (path : Path) : ExceptT SettingsError Hosted Settings := do
  let stream ← ExceptT.adapt (.unreadable path) do
    FileTask.readAll (← FileTask.openFile path .read)
  match stream.contents with
  | .error cause => throw (.unreadable path cause)
  | .ok bytes =>
    match bytes.text? with
    | none => throw (.unreadable path .invalidText)
    | some text =>
      match decode? text with
      | some settings => return settings
      | none => throw (.malformed path)

/-- The settings in the file that the operator names, or in the usual one. -/
def load (file : Option Path) : ExceptT SettingsError Hosted Settings := do
  match file with
  | some path => readFrom path
  | none =>
    if (← Call.perform (.kind defaultFile)).isSome then readFrom defaultFile
    else return .standard

end Settings

end DualSlot
