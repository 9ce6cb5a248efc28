import GoldenSuite.FileTree.Resolve

/-!
# Workspaces

A workspace is a file tree seen from a working directory, from which relative paths are
followed. This module has the questions that can be asked of one; the changes to it are in a
module of their own.
-/

namespace GoldenSuite

/-- A file tree seen from a working directory. -/
structure Workspace where
  tree : FileTree
  here : Location
deriving Inhabited

namespace Workspace

/-- What a path leads to, following a link at its end when asked to. -/
def find (ws : Workspace) (followLast : Bool) (p : Path) : Except Fault (Location × Entry) := do
  match ← ws.tree.resolve ws.here followLast p with
  | .vacant _ _ => throw .notFound
  | .existing loc =>
    match ws.tree.get? loc with
    | none => throw .notFound
    | some e => pure (loc, e)

/-- Whether a path leads to a directory, possibly through links. -/
def isDirectory (ws : Workspace) (p : Path) : Bool :=
  match ws.find true p with
  | .ok (_, .directory) => true
  | _ => false

/-- Whether a path leads to a regular file, possibly through links. -/
def isFile (ws : Workspace) (p : Path) : Bool :=
  match ws.find true p with
  | .ok (_, .file _) => true
  | _ => false

/-- The contents of the file that a path leads to. -/
def read (ws : Workspace) (p : Path) : Except Fault Bytes := do
  match ← ws.find true p with
  | (_, .file contents) => pure contents
  | (_, .directory) => throw .isADirectory
  | (_, .link _) => throw .tooManyLinks

/-- The text in the file that a path leads to. -/
def readText (ws : Workspace) (p : Path) : Except Fault String := do
  match Text.decode? (← ws.read p) with
  | some text => pure text
  | none => throw .notUtf8

/-- The directory that a path leads to and the names listed in it. -/
def list (ws : Workspace) (p : Path) : Except Fault (Location × List String) := do
  match ← ws.find true p with
  | (loc, .directory) => pure (loc, ws.tree.children loc)
  | _ => throw .notADirectory

end Workspace

end GoldenSuite
