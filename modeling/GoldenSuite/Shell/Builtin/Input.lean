import GoldenSuite.Shell.Builtin.Basic
import GoldenSuite.Shell.Draft

/-!
# Reading lines into variables

A line of the input is split into as many fields as there are variables; the last one gets all
that is left. A backslash keeps the character after it from separating anything, and joins a line
to the next one.
-/

namespace GoldenSuite.Shell.Builtin

/-- What has been read of a line. -/
structure Line where
  draft : Draft := {}
  /-- The first cell of the stretch that may be split. -/
  start : Nat := 0
  /-- Whether the last character was a backslash that means something. -/
  escaping : Bool := false

namespace Line

/-- The draft with the stretch that may be split up to its end. -/
def settled (line : Line) : Draft :=
  line.draft.separate line.start false

def take (raw : Bool) (line : Line) (c : Char) : Line :=
  if c = '\x00' then line
  else if line.escaping then
    let draft := line.settled.push (.quoted c)
    { draft, start := draft.size }
  else if c = '\\' && !raw then { line with escaping := true }
  else { line with draft := line.draft.push (.plain c) }

/-- Takes in that the line goes on after a line end. -/
def join (line : Line) : Line :=
  { draft := line.settled, start := line.draft.size }

/-- The fields of a whole line. -/
def fields (line : Line) (separators : List Char) (most : Nat) : List String :=
  (line.settled.fields separators (some most)).map fun field =>
    String.ofList (Cell.text field)

end Line

/-- Reads a line with those that are joined to it; whether its end was there. -/
def readJoined (raw : Bool) : Nat → Line → Run (Line × Bool)
  | 0, line => pure (line, false)
  | fuel + 1, line => do
    match ← Run.readLine 0 with
    | .error _ => pure (line, false)
    | .ok (bytes, whole) =>
      let line := (bytes.map Octets.ofByte).foldl (Line.take raw) line
      if whole && line.escaping then readJoined raw fuel line.join
      else pure (line, whole)

/-- Gives values to variables; those for which nothing is left become empty. -/
def giveValues : List String → List String → Run Unit
  | [], _ => pure ()
  | name :: names, values => do
    Run.assign name (values.head?.getD "")
    giveValues names values.tail

/-- Reads a line of the input into variables. -/
def read : Builtin := fun arguments => do
  let (options, names) ← takeOptions [('p', true), ('r', false)] arguments
  if names.isEmpty then Run.giveUp "arg count"
  else
    let raw := options.any fun option => option.1 = 'r'
    let (line, whole) ← readJoined raw Run.plenty {}
    giveValues names (line.fields (← get).separators names.length)
    pure (if whole then 0 else 1)

end GoldenSuite.Shell.Builtin
