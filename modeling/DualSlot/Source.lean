import DualSlot.Path
import DualSlot.Text.Lines

/-!
Where artifacts come from, and how an operator names one: a directory, a web address, or the image
itself.
-/

namespace DualSlot

inductive Source where
  | directory (base : Path)
  | web (base : String)
  deriving DecidableEq, Repr

namespace Source

def location : Source → String
  | directory base => base.text
  | web base => base

def defaultImage : String := "rootfs.img"

def dropSlashes (text : List Char) : List Char := (text.reverse.dropWhile (· = '/')).reverse

/-- The scheme and the rest of a web address. -/
def splitAddress (location : String) : Option (String × String) :=
  let address (scheme : String) :=
    (Text.after? (scheme ++ "://").toList location.toList).map fun rest => (scheme, .ofList rest)
  ["http", "https"].findSome? address

def ofAddress (base : String) : Source := .web (.ofList (dropSlashes base.toList))

/-- The source and the image's name in it. The last part of an address is the image if it has a dot
and the operator names no other. -/
def resolveAddress (location scheme rest : String) (image : Option String) : Source × String :=
  match image with
  | some image => (ofAddress location, image)
  | none =>
    match (dropSlashes rest.toList).reverse.span (· ≠ '/') with
    | (name, _ :: base) =>
      if '.' ∈ name then
        (ofAddress s!"{scheme}://{String.ofList base.reverse}", .ofList name.reverse)
      else (ofAddress location, defaultImage)
    | (_, []) => (ofAddress location, defaultImage)

/-- The same for a path, which names the image if there is such a file and the operator names no
other. -/
def resolvePath (path : Path) (isFile : Bool) (image : Option String) : Source × String :=
  match image with
  | some image => (.directory path, image)
  | none =>
    if isFile then
      (.directory (path.parent?.getD .here), path.fileName?.getD defaultImage)
    else (.directory path, defaultImage)

end Source

end DualSlot
