import GoldenSuite.CommandLine.Run
import GoldenSuite.Shell.Program

/-!
# Snapshots

The program works on a snapshot of the files around it. A snapshot is a text with one record on
each line, whose fields are separated by tabs: a directory, a file with its contents in
hexadecimal, a link with its target, the working directory, and the wish for notes. A record
that makes no sense is passed over.
-/

namespace GoldenSuite.CommandLine

/-- The value of a hexadecimal digit. -/
def hexDigit? (c : Char) : Option Nat :=
  if c.isDigit then some (c.toNat - '0'.toNat)
  else if 'a' ≤ c ∧ c ≤ 'f' then some (c.toNat - 'a'.toNat + 10)
  else none

/-- The bytes that hexadecimal digits stand for. -/
def hexBytes? : List Char → Option Bytes
  | [] => some []
  | high :: low :: rest => do
    let byte := (← hexDigit? high) * 16 + (← hexDigit? low)
    pure (UInt8.ofNat byte :: (← hexBytes? rest))
  | [_] => none

/-- The request before any record: the programs are there and nothing else is. -/
def emptyRequest (arguments : List Bytes) : Request where
  arguments := arguments
  workspace := { tree := Shell.baseTree, here := [] }
  workingDir := .ok ⟨"/"⟩
  logging := none
  terminal := false

namespace Request

/-- Adds what stands at a path, with the directories on the way. -/
def place (r : Request) (path : Path) (put : Workspace → Except Fault Workspace) : Request :=
  let (_, made) := match path.ancestors with
    | parent :: _ => r.workspace.createDirectories parent
    | [] => (.ok (), r.workspace)
  match put made with
  | .ok workspace => { r with workspace }
  | .error _ => r

/-- Moves to a working directory, which is made when it is not there. -/
def enter (r : Request) (path : Path) : Request :=
  let (_, made) := r.workspace.createDirectories path
  match made.find true path with
  | .ok (loc, .directory) =>
    { r with
      workspace := { made with here := loc }
      workingDir := .ok ⟨"/" ++ "/".intercalate loc⟩ }
  | _ => r

def takeRecord (r : Request) (record : String) : Request :=
  match record.splitOn "\t" with
  | ["here", path] => r.enter (.ofText path)
  | ["notes", wish] => { r with logging := some wish }
  | ["directory", path] => { r with workspace := (r.workspace.createDirectories (.ofText path)).2 }
  | ["link", path, target] => r.place (.ofText path) (·.makeLink (.ofText path) (.ofText target))
  | ["file", path, digits] =>
    match hexBytes? digits.toList with
    | some contents => r.place (.ofText path) (·.write (.ofText path) contents)
    | none => r
  | _ => r

/-- The request that arguments and the records of a snapshot make up. -/
def ofRecords (arguments : List Bytes) (records : List String) : Request :=
  records.foldl takeRecord (emptyRequest arguments)

end Request

end GoldenSuite.CommandLine
