/-!
# Words being expanded

The expansion of a word is drafted cell by cell: a cell is a character that stands for itself or
may still mean something, or the trace of a quotation mark. Regions of a draft are noted in which
it may be split into fields. Splitting takes separators away: a stretch of white space separates
once, and any other separator separates on its own.
-/

namespace GoldenSuite.Shell

/-- A cell of a word that is being expanded. -/
inductive Cell where
  | plain (c : Char)
  | quoted (c : Char)
  | mark
deriving DecidableEq, Repr

namespace Cell

def text : List Cell → List Char
  | [] => []
  | plain c :: rest => c :: text rest
  | quoted c :: rest => c :: text rest
  | mark :: rest => text rest

def ofText (isQuoted : Bool) (chars : List Char) : List Cell :=
  chars.map fun c => if isQuoted then quoted c else plain c

end Cell

/-- A stretch of a draft in which it may be split; `nulOnly` says that only the characters that
separate whole arguments count. -/
structure Region where
  start : Nat
  stop : Nat
  nulOnly : Bool := false
deriving DecidableEq, Repr

/-- A word as far as it has been expanded. -/
structure Draft where
  cells : Array Cell := #[]
  regions : Array Region := #[]

namespace Draft

/-- How many cells a draft has. -/
def size (draft : Draft) : Nat :=
  draft.cells.size

/-- Adds a cell. -/
def push (draft : Draft) (cell : Cell) : Draft :=
  { draft with cells := draft.cells.push cell }

/-- Adds a text, quoted or not. -/
def write (draft : Draft) (isQuoted : Bool) (chars : List Char) : Draft :=
  { draft with cells := draft.cells ++ (Cell.ofText isQuoted chars).toArray }

/-- Notes that the draft may be split from a cell on up to its end. -/
def separate (draft : Draft) (start : Nat) (nulOnly : Bool) : Draft :=
  { draft with regions := draft.regions.push { start, stop := draft.size, nulOnly } }

/-- Takes away all cells from one on. -/
def cut (draft : Draft) (start : Nat) : Draft :=
  { draft with cells := draft.cells.extract 0 start }

def cellsFrom (draft : Draft) (start : Nat) : List Cell :=
  (draft.cells.extract start draft.size).toList

def text (draft : Draft) : List Char :=
  Cell.text draft.cells.toList

/-! ### Splitting -/

/-- The character that separates whole arguments. -/
def nul : Char := '\x00'

/-- The separators when none have been set. -/
def usualSeparators : List Char :=
  [' ', '\t', '\n']

/-- Whether a character is white space as far as splitting goes. -/
def isWhite (c : Char) : Bool :=
  c = nul || c ∈ usualSeparators

/-- The state in which a draft is split. -/
structure Splitting where
  /-- The fields so far, the last one first. -/
  fields : List (List Cell) := []
  /-- The first cell of the next field. -/
  start : Nat := 0
  /-- Whether the last separator was white space that the next separator may still belong to. -/
  afterWhite : Bool := false
  /-- How many separators may still separate, when there is a limit. -/
  left : Option Nat := none
  /-- The cell from which on the last field is cut off. -/
  stop : Option Nat := none

namespace Splitting

/-- Takes in a cell of the last field: white space and separators at its end do not belong to
it. -/
def last (s : Splitting) (position : Nat) (separates white : Bool) : Splitting :=
  if white then { s with stop := s.stop.or (some position) }
  else
    { s with
      stop := if separates && s.afterWhite then s.stop else none
      afterWhite := false }

/-- Takes in a separator. -/
def separator (s : Splitting) (draft : Draft) (position : Nat) (white keepsWhite : Bool) :
    Splitting :=
  let s := if keepsWhite then s else { s with afterWhite := white }
  if position = s.start && s.afterWhite then
    { s with start := position + 1, afterWhite := false }
  else if s.left = some 1 then { s with left := some 0, stop := some position }
  else
    { s with
      fields := (draft.cells.extract s.start position).toList :: s.fields
      start := position + 1
      left := s.left.map (· - 1) }

/-- Takes in a cell with a character. `keepsWhite` says that white space separates like any
other separator. -/
def step (draft : Draft) (separators : List Char) (keepsWhite : Bool) (s : Splitting)
    (position : Nat) (c : Char) : Splitting :=
  let separates := c = nul || c ∈ separators
  let white := separates && isWhite c
  if s.left = some 0 then s.last position separates white
  else if s.afterWhite then
    let s := { s with start := if separates then position + 1 else position }
    if white then s else { s with afterWhite := false }
  else if separates then s.separator draft position white keepsWhite
  else { s with afterWhite := false }

/-- Takes in the cells of a region. `afterNul` says that the region before it was one for whole
arguments. -/
def region (draft : Draft) (separators : List Char) (s : Splitting) (region : Region)
    (afterNul : Bool) : Splitting :=
  let separators := if region.nulOnly then [] else separators
  let keepsWhite := afterNul || region.nulOnly
  let cells := (draft.cells.extract region.start region.stop).toList
  let take (s : Splitting) (next : Cell × Nat) : Splitting :=
    match next.1 with
    | .plain c => s.step draft separators keepsWhite next.2 c
    | .quoted c => s.step draft separators keepsWhite next.2 c
    | .mark => { s with afterWhite := false }
  (cells.zipIdx region.start).foldl take { s with afterWhite := false }

end Splitting

/-- The fields of a draft; `most` is how many there may be at most. -/
def fields (draft : Draft) (separators : List Char) (most : Option Nat) : List (List Cell) :=
  let regions := draft.regions.toList
  let before := none :: regions.map some
  let take (s : Splitting) (next : Region × Option Region) : Splitting :=
    s.region draft separators next.1 (next.2.any Region.nulOnly)
  let s := (regions.zip before).foldl take { left := most }
  let rest := (draft.cells.extract s.start (s.stop.getD draft.size)).toList
  if rest.isEmpty && !(regions.getLast?.any Region.nulOnly) then s.fields.reverse
  else (rest :: s.fields).reverse

example :
    ((({} : Draft).write false ['a', ' ', ' ', 'b', ' ']).separate 0 false).fields
      usualSeparators none = [[.plain 'a'], [.plain 'b']] := by
  decide +kernel

end Draft

end GoldenSuite.Shell
