import GoldenSuite.Workspace.Basic

/-!
# Changing a workspace

The changes that a run makes to its files: new directories, new file contents, new links, and
removals. A change that can stop half way returns the workspace as it was left, whether or not
it succeeded.
-/

namespace GoldenSuite.Workspace

/-- The outcome of a change and the workspace that it leaves behind. -/
abbrev Changed := Except Fault Unit × Workspace

/-- The same workspace with another tree. -/
def withTree (ws : Workspace) (tree : FileTree) : Workspace :=
  { ws with tree }

/-- The path without the separators at its end. -/
def trimmed (p : Path) : Path :=
  ⟨String.ofList (p.chars.reverse.dropWhile (· == '/')).reverse⟩

/-! ### Adding -/

/-- Makes the directory that a path names. -/
def makeDirectory (ws : Workspace) (p : Path) : Except Fault Workspace :=
  if '\x00' ∈ p.chars then throw .nulInName
  else if FileTree.longestPath < p.text.length then throw .nameTooLong
  else if p.isAbsolute ∧ p.names = [] then throw .alreadyExists
  else do
    match ← ws.tree.resolve ws.here false (trimmed p) with
    | .existing _ => throw .alreadyExists
    | .vacant directory name => pure (ws.withTree (ws.tree.add directory name .directory))

/-- Makes the first of the given directories, after the others when it cannot be made without
them. That it is there already is no fault. -/
def ensureDirectories : List Path → Workspace → Changed
  | [], ws => (.ok (), ws)
  | p :: above, ws =>
    let settle (fault : Fault) (ws : Workspace) : Changed :=
      if fault = .alreadyExists ∧ ws.isDirectory p then (.ok (), ws) else (.error fault, ws)
    match ws.makeDirectory p with
    | .ok made => (.ok (), made)
    | .error .notFound =>
      match ensureDirectories above ws with
      | (.error fault, left) => (.error fault, left)
      | (.ok (), left) =>
        match left.makeDirectory p with
        | .ok made => (.ok (), made)
        | .error fault => settle fault left
    | .error fault => settle fault ws

/-- Makes the directory that a path names, with every directory on the way that is not there. -/
def createDirectories (ws : Workspace) (p : Path) : Changed :=
  if p.components = [] ∨ p.components = [.root] then (.ok (), ws)
  else ensureDirectories (p :: p.ancestors) ws

/-- Gives the file that a path leads to new contents, or makes a new one. -/
def write (ws : Workspace) (p : Path) (contents : Bytes) : Except Fault Workspace := do
  match ← ws.tree.resolve ws.here true p with
  | .vacant directory name => pure (ws.withTree (ws.tree.add directory name (.file contents)))
  | .existing loc =>
    if ws.tree.IsDirectory loc then throw .isADirectory
    else pure (ws.withTree (ws.tree.overwrite loc contents))

/-- Makes a symbolic link. -/
def makeLink (ws : Workspace) (p target : Path) : Except Fault Workspace := do
  match ← ws.tree.resolve ws.here false p with
  | .existing _ => throw .alreadyExists
  | .vacant directory name => pure (ws.withTree (ws.tree.add directory name (.link target)))

/-! ### Removing -/

/-- Removes the file or link that a path names; a link at its end is removed itself. -/
def removeFile (ws : Workspace) (p : Path) : Except Fault Workspace := do
  match ← ws.find false p with
  | (_, .directory) => throw .isADirectory
  | (loc, _) => pure (ws.withTree (ws.tree.prune loc))

/-- Removes the empty directory that a path names. -/
def removeDirectory (ws : Workspace) (p : Path) : Except Fault Workspace := do
  match p.names.getLast? with
  | none => throw (if p.isAbsolute then .busy else .notFound)
  | some last =>
    if last = "." then
      discard (ws.find true (trimmed p))
      throw .invalidArgument
    else if last = ".." then
      discard (ws.find true (trimmed p))
      throw .notEmpty
    else
      match ← ws.find false (trimmed p) with
      | (loc, .directory) =>
        if ws.tree.children loc = [] then pure (ws.withTree (ws.tree.prune loc))
        else throw .notEmpty
      | _ => throw .notADirectory

/-- Removes the directory that a path names with everything in it; links in it are removed and
not followed. When the path itself names a link, the link alone is removed. -/
def removeAll (ws : Workspace) (p : Path) : Changed :=
  match ws.find false p with
  | .error fault => (.error fault, ws)
  | .ok (_, .file _) => (.error .notADirectory, ws)
  | .ok (loc, .link _) => (.ok (), ws.withTree (ws.tree.prune loc))
  | .ok (loc, .directory) =>
    let emptied := ws.withTree (ws.tree.clear loc)
    match emptied.removeDirectory p with
    | .ok removed => (.ok (), removed)
    | .error .notFound => (.ok (), emptied)
    | .error fault => (.error fault, emptied)

end GoldenSuite.Workspace
