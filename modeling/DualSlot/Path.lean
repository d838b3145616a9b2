import DualSlot.Text.Quoted

/-!
Paths as text. A path is cut at its slashes; empty pieces and single dots count only at the very
beginning, where they stand for the root and for the working directory.
-/

namespace DualSlot

structure Path where
  text : String
  deriving DecidableEq, Repr

namespace Path

def here : Path := ⟨"."⟩

def quoted (path : Path) : String := Text.quote path.text

def isAbsolute (path : Path) : Bool := path.text.toList.head? = some '/'

/-- The name below the path. An absolute name stands for itself. -/
def join (base : Path) (name : String) : Path :=
  if name.toList.head? = some '/' then ⟨name⟩
  else
    match base.text.toList.getLast? with
    | none | some '/' => ⟨base.text ++ name⟩
    | some _ => ⟨base.text ++ "/" ++ name⟩

/-- What stands between the slashes. -/
def pieces (path : Path) : List (List Char) := path.text.toList.splitOn '/'

def isIdle (piece : List Char) : Bool := piece = [] || piece = ['.']

/-- The beginning that counts even if it is idle, and the pieces after it. -/
def splitHead : List (List Char) → List (List Char) × List (List Char)
  | [] => ([], [])
  | [[]] => ([], [])
  | piece :: rest => if isIdle piece then ([piece], rest) else ([], piece :: rest)

def dropIdleEnd (pieces : List (List Char)) : List (List Char) :=
  (pieces.reverse.dropWhile isIdle).reverse

/-- The beginning, the pieces before the last one that counts, and that one. -/
def splitLast (path : Path) : List (List Char) × List (List Char) × Option (List Char) :=
  let (head, body) := splitHead path.pieces
  let body := dropIdleEnd body
  (head, dropIdleEnd body.dropLast, body.getLast?)

/-- The path with the given pieces. -/
def ofPieces (pieces : List (List Char)) : Path :=
  if pieces = [[]] then ⟨"/"⟩ else ⟨.ofList (List.intercalate ['/'] pieces)⟩

/-- The path without its last name. A root has none; a lone dot goes with its name. -/
def parent? (path : Path) : Option Path :=
  match path.splitLast with
  | (head, before, some _) => some (ofPieces (head ++ before))
  | ([['.']], _, none) => some ⟨""⟩
  | (_, _, none) => none

/-- The last name, unless it only moves up. -/
def fileName? (path : Path) : Option String :=
  match path.splitLast with
  | (_, _, none) | (_, _, some ['.', '.']) => none
  | (_, _, some name) => some (.ofList name)

/-- The directory that holds the path. -/
def directory (path : Path) : Path :=
  match path.parent? with
  | some parent => if parent.text.isEmpty then here else parent
  | none => here

end Path

end DualSlot
