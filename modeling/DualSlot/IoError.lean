import DualSlot.Text.Quoted

/-!
Why an operation on a file or a stream failed.
-/

namespace DualSlot

inductive IoError where
  /-- The operating system refused with this number. -/
  | system (code : Nat)
  | invalidText
  | nulInName
  /-- The failure happened at this path. -/
  | located (cause : IoError) (path : String)
  | other (reason : String)
  deriving DecidableEq, Repr

namespace IoError

def notFound : IoError := .system 2
def busy : IoError := .system 16
def alreadyExists : IoError := .system 17
def notDirectory : IoError := .system 20
def isDirectory : IoError := .system 21
def nameTooLong : IoError := .system 36
def notEmpty : IoError := .system 39

/-- What the system calls its error numbers. -/
def describe : Nat → String
  | 1 => "Operation not permitted"
  | 2 => "No such file or directory"
  | 5 => "Input/output error"
  | 6 => "No such device or address"
  | 9 => "Bad file descriptor"
  | 12 => "Cannot allocate memory"
  | 13 => "Permission denied"
  | 16 => "Device or resource busy"
  | 17 => "File exists"
  | 18 => "Invalid cross-device link"
  | 19 => "No such device"
  | 20 => "Not a directory"
  | 21 => "Is a directory"
  | 22 => "Invalid argument"
  | 23 => "Too many open files in system"
  | 24 => "Too many open files"
  | 26 => "Text file busy"
  | 27 => "File too large"
  | 28 => "No space left on device"
  | 30 => "Read-only file system"
  | 36 => "File name too long"
  | 39 => "Directory not empty"
  | 40 => "Too many levels of symbolic links"
  | code => s!"Unknown error {code}"

def message : IoError → String
  | system code => s!"{describe code} (os error {code})"
  | invalidText => "stream did not contain valid UTF-8"
  | nulInName => "file name contained an unexpected NUL byte"
  | located cause path => s!"{cause.message} at path {Text.quote path}"
  | other reason => reason

end IoError

end DualSlot
