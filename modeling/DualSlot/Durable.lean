import DualSlot.Call

/-!
Changes to files that are on stable storage when they return. A replaced file holds either its old
or its new contents at every moment: the new ones are complete in a draft beside it before the
draft takes its place.
-/

namespace DualSlot.Durable

open FileTask

/-- A failure to make a directory does not matter where there is one. -/
def unlessDirectory (path : Path) (cause : IoError) : FileTask Unit := do
  if (← Call.perform (.kind path)) = some .directory then return () else throw cause

def makeDirsFrom : Nat → Path → FileTask Unit
  | patience, path =>
    if path.text.isEmpty then return ()
    else
      tryCatch (makeDir path) fun cause =>
        if cause ≠ .notFound then unlessDirectory path cause
        else
          match patience, path.parent? with
          | patience + 1, some parent => do
            makeDirsFrom patience parent
            tryCatch (makeDir path) (unlessDirectory path)
          | _, _ => throw (.other "failed to create whole tree")

/-- Makes a directory and those that it lies in. -/
def makeDirs (path : Path) : FileTask Unit := makeDirsFrom path.text.length path

def syncDir (dir : Path) : FileTask Unit := withFile dir .read sync

/-- Where the new contents of a file are written before they replace it. -/
def draft (path : Path) : Path := path.directory.join (path.fileName?.getD "" ++ ".new")

/-- The file has the given contents afterwards. -/
def replace (path : Path) (contents : Bytes) : FileTask Unit := do
  makeDirs path.directory
  withFile (draft path) .create fun file => do
    write file contents
    sync file
  rename (draft path) path
  syncDir path.directory

/-- The file ends with the given line afterwards. -/
def append (path : Path) (line : String) : FileTask Unit := do
  makeDirs path.directory
  withFile path .append fun file => do
    write file (Bytes.ofString line)
    write file (Bytes.ofString "\n")
    sync file

/-- There is no file at the path afterwards. -/
def erase (path : Path) : FileTask Unit := .mk do
  match ← (remove path).run with
  | .ok () => (syncDir path.directory).run
  | .error cause => return if cause = .notFound then .ok () else .error cause

/-- The contents of a file, if there is one. -/
def read? (path : Path) : FileTask (Option Bytes) := .mk do
  match ← (openFile path .read).run with
  | .ok file => return (← readAll file).contents.map some
  | .error cause => return if cause = .notFound then .ok none else .error cause

end DualSlot.Durable
