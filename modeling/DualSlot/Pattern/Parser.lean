import DualSlot.Pattern.Bracket
import DualSlot.Text.Alphanumeric

/-!
Reading patterns: branches of parts in a row, which may be repeated, and groups of branches.
-/

namespace DualSlot.Pattern

/-- A part of a branch. -/
structure Part where
  levels : Nat
  /-- Whether it stands for something, as all but mere flags do. -/
  repeatable : Bool
  deriving DecidableEq, Repr

/-- The branches that have been read of a group or of the whole pattern. -/
structure Group where
  finished : Row
  /-- The parts of the current branch before its last one. -/
  earlier : Row
  last : Option Part
  deriving DecidableEq, Repr

namespace Group

def empty : Group := ⟨.empty, .empty, none⟩

def branch (group : Group) : Row :=
  match group.last with
  | none => group.earlier
  | some part => group.earlier.add part.levels

def add (group : Group) (part : Part) : Group :=
  { group with earlier := group.branch, last := some part }

def repeat? (group : Group) : Option Group :=
  match group.last with
  | some ⟨levels, true⟩ => some { group with last := some ⟨levels + 1, true⟩ }
  | _ => none

def nextBranch (group : Group) : Group :=
  ⟨group.finished.add group.branch.height, .empty, none⟩

/-- The levels of all branches. -/
def levels (group : Group) : Nat := (group.finished.add group.branch.height).height

end Group

/-- What has been read of a pattern. -/
structure Progress where
  mode : Mode
  group : Group
  /-- The groups around the current one, and the modes that they go on in. -/
  outer : List (Mode × Group)
  names : List (List Char)

namespace Progress

def start : Progress := ⟨.plain, .empty, [], []⟩

def add (progress : Progress) (levels : Nat) : Progress :=
  { progress with group := progress.group.add ⟨levels, true⟩ }

def openGroup (progress : Progress) (mode : Mode) : Progress :=
  { progress with
    mode, group := .empty, outer := (progress.mode, progress.group) :: progress.outer }

def closeGroup? (progress : Progress) : Option Progress :=
  match progress.outer with
  | [] => none
  | (mode, group) :: outer =>
    some { progress with
      mode, group := group.add ⟨progress.group.levels + 1, true⟩, outer }

/-- Flags up to the mark that ends them: the flags, the mark, and what follows it. -/
def flags? (found : List Char) : List Char → Option (List Char × Char × List Char)
  | [] => none
  | c :: rest =>
    if c = ':' || c = ')' then
      if found.head? = some '-' then none else some (found.reverse, c, rest)
    else if "imsUuRx-".toList.contains c && !found.contains c then flags? (c :: found) rest
    else none

def isName : List Char → Bool
  | [] => false
  | c :: rest => (c = '_' || Text.isAlphabetic c) &&
      rest.all fun c => ['_', '.', '[', ']'].contains c || Text.isAlphanumeric c

/-- The name of a group up to its closing bracket. -/
def named? (progress : Progress) (text : List Char) : Option (Progress × List Char) :=
  match text.span (· ≠ '>') with
  | (name, '>' :: rest) =>
    if isName name && !progress.names.contains name then
      some ({ progress.openGroup progress.mode with names := name :: progress.names }, rest)
    else none
  | _ => none

/-- What follows an opening parenthesis: a group, or flags for the rest of the current one. -/
def opened? (progress : Progress) (text : List Char) : Option (Progress × List Char) :=
  match progress.mode.skip text with
  | '?' :: 'P' :: '<' :: rest | '?' :: '<' :: rest => progress.named? rest
  | '?' :: rest => do
    let (flags, mark, rest) ← flags? [] rest
    let mode := progress.mode.set flags
    if mark = ':' then return (progress.openGroup mode, rest)
    if flags.isEmpty then none
    return ({ progress with mode, group := progress.group.add ⟨0, false⟩ }, rest)
  | rest => some (progress.openGroup progress.mode, rest)

def symbol? (progress : Progress) (symbol : Symbol) : Option Progress :=
  if progress.mode.admits symbol then some (progress.add 0) else none

/-- Takes in what begins with a character. Braces would have to give a number of repetitions. -/
def step? (patience : Nat) (progress : Progress) (c : Char) (rest : List Char) :
    Option (Progress × List Char) :=
  let going (progress : Progress) : Option (Progress × List Char) := some (progress, rest)
  match c with
  | '(' => progress.opened? rest
  | ')' => progress.closeGroup?.bind going
  | '|' => going { progress with group := progress.group.nextBranch }
  | '[' => do
    let (levels, rest) ← Bracket.read? progress.mode patience rest
    return (progress.add levels, rest)
  | '?' | '*' | '+' => do
    let group ← progress.group.repeat?
    return ({ progress with group }, if rest.head? = some '?' then rest.tail else rest)
  | '\x7b' => none
  | '\\' => do
    let (symbol, rest) ← progress.mode.escape? rest
    return (← progress.symbol? symbol, rest)
  | '.' => if progress.mode.bytes then none else going (progress.add 0)
  | '^' | '$' => going (progress.add 0)
  | c => (progress.symbol? (.literal c false)).bind going

def finish? : Nat → Progress → List Char → Option Progress
  | 0, _, _ => none
  | patience + 1, progress, text =>
    match progress.mode.skip text with
    | [] => some progress
    | c :: rest => do
      let (progress, rest) ← progress.step? patience c rest
      finish? patience progress rest

end Progress

/-- As many levels may a pattern have. -/
def maxLevels : Nat := 250

/-- Whether a text is a pattern. -/
def isPattern (text : List Char) : Bool :=
  (Progress.finish? (text.length + 1) .start text).any fun progress =>
    progress.outer.isEmpty && progress.group.levels ≤ maxLevels

end DualSlot.Pattern
