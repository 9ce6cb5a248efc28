import GoldenSuite.Fault
import GoldenSuite.FileTree.Basic

/-!
# Following paths

A path is followed name by name through a file tree. A symbolic link on the way is replaced by
its target; one at the very end is replaced only when the caller wants what it stands for.
Links are replaced a bounded number of times, so following a path always ends.
-/

namespace GoldenSuite.FileTree

/-- Where a path leads. -/
inductive Destination where
  /-- To something that is there. -/
  | existing (loc : Location)
  /-- To a name that a directory does not have. -/
  | vacant (directory : Location) (name : String)
deriving DecidableEq, Repr

/-- The largest number of bytes in a path. -/
def longestPath : Nat := 4095

/-- The number of symbolic links that are followed on the way. -/
def mostLinks : Nat := 40

/-- Why no name is looked up at a location that is no directory: it is something else, or, as with
a working directory that has been removed, nothing is there. -/
def astray (t : FileTree) (here : Location) : Fault :=
  if t.get? here = none then .notFound else .notADirectory

/-- Follows names from a location. A link that has to be followed is handed to `onLink` with
the directory it lies in and the names that are left. -/
def walk (t : FileTree) (followLast : Bool)
    (onLink : Path → Location → List String → Except Fault Destination) :
    Location → List String → Except Fault Destination
  | here, [] => .ok (.existing here)
  | here, name :: rest =>
    if ¬ t.IsDirectory here then .error (t.astray here)
    else if name = "." then walk t followLast onLink here rest
    else if name = ".." then walk t followLast onLink here.dropLast rest
    else if longestName < name.length then .error .nameTooLong
    else match t.get? (here ++ [name]) with
      | none => if rest = [] then .ok (.vacant here name) else .error .notFound
      | some (.link target) =>
        if rest = [] ∧ !followLast then .ok (.existing (here ++ [name]))
        else onLink target here rest
      | some _ => walk t followLast onLink (here ++ [name]) rest

/-- Follows names from a location through at most this many links. -/
def follow (t : FileTree) (followLast : Bool) :
    Nat → Location → List String → Except Fault Destination
  | 0 => walk t followLast fun _ _ _ => .error .tooManyLinks
  | links + 1 => walk t followLast fun target here rest =>
    if target.text = "" then .error .notFound
    else follow t followLast links (if target.isAbsolute then [] else here) (target.steps ++ rest)

/-- Follows a path from a working directory. -/
def resolve (t : FileTree) (here : Location) (followLast : Bool) (p : Path) :
    Except Fault Destination :=
  if '\x00' ∈ p.chars then .error .nulInName
  else if p.text = "" then .error .notFound
  else if longestPath < p.text.length then .error .nameTooLong
  else t.follow followLast mostLinks (if p.isAbsolute then [] else here) p.steps

end GoldenSuite.FileTree
