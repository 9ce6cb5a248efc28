import GoldenSuite.Build.Error
import GoldenSuite.Config.Validity
import GoldenSuite.Workspace.Basic

/-!
# Sources

The sources of a suite are the files below its source directory whose path from there is
accepted by its pattern. The walk goes down into real directories only: a link to a directory
is not followed, so a cycle of links cannot hold it up, while a link to a file counts as that
file. Every directory on the walk is listed by its path, and the walk stops at the first one that
cannot be. The sources are listed in the order of their paths.
-/

namespace GoldenSuite

/-- A file that the walk has come to. -/
structure FoundFile where
  path : Path
  /-- The names on the way from the directory where the walk began. -/
  inner : List String
deriving DecidableEq, Repr

namespace FoundFile

/-- The bytes of the path from the directory where the walk began. -/
def innerBytes (file : FoundFile) : Bytes :=
  Octets.toBytes ("/".intercalate file.inner)

end FoundFile

namespace Workspace

/-- The files below the directory at a location, which is shown as the path `shown` and lies
`inner` names below the place where the walk began. -/
def filesBelow (ws : Workspace) (loc : Location) (shown : Path) (inner : List String) :
    List FoundFile :=
  (ws.tree.children loc).attach.flatMap fun child =>
    let file : FoundFile := ⟨shown.join ⟨child.val⟩, inner ++ [child.val]⟩
    match ws.tree.get? (loc ++ [child.val]) with
    | some .directory => filesBelow ws (loc ++ [child.val]) file.path file.inner
    | some (.file _) => [file]
    | some (.link _) => if ws.isFile file.path then [file] else []
    | none => []
termination_by ws.tree.sizeBelow loc
decreasing_by exact FileTree.sizeBelow_lt child.property

/-- The first directory on that walk that cannot be listed, and why. -/
def unlisted? (ws : Workspace) (loc : Location) (shown : Path) : Option (Path × Fault) :=
  match ws.list shown with
  | .error fault => some (shown, fault)
  | .ok _ =>
    (ws.tree.children loc).attach.findSome? fun child =>
      match ws.tree.get? (loc ++ [child.val]) with
      | some .directory => unlisted? ws (loc ++ [child.val]) (shown.join ⟨child.val⟩)
      | _ => none
termination_by ws.tree.sizeBelow loc
decreasing_by exact FileTree.sizeBelow_lt child.property

end Workspace

namespace Build

/-- The note on a walk that is done. -/
def walkRemark (root : Path) (count : Nat) : Note :=
  Part.build.debug ["count", "root"] s!"collected sources: {count} under {root.shown}"

/-- The files below the source directory that the pattern accepts, in the order of their
paths. -/
def matching (c : Config) (pattern : Glob.Pattern) (ws : Workspace) :
    Except BuildError (List Path) :=
  match ws.find true c.sourceRoot with
  | .ok (loc, .directory) =>
    match ws.unlisted? loc c.sourceRoot with
    | some (path, fault) => .error (.unreadableSources path fault)
    | none =>
      let files := ws.filesBelow loc c.sourceRoot []
      let accepted := files.filter fun file => pattern.accepts file.innerBytes
      .ok ((accepted.map (·.path)).mergeSort Path.precedes)
  | _ => .error (.noSources c.sourceRoot c.sourceGlob)

/-- The sources of a suite; there has to be one. -/
def sources (c : Config) (ws : Workspace) : Except (Halt BuildError) (List Path) := do
  let pattern ← c.sourcePattern.mapError (Halt.map BuildError.config)
  match ← (matching c pattern ws).mapError Halt.error with
  | [] => throw (.error (.noSources c.sourceRoot c.sourceGlob))
  | first :: others => pure (first :: others)

/-- The notes made while the sources are looked for. -/
def sourceRemarks (c : Config) (ws : Workspace) : List Note :=
  match c.sourcePattern with
  | .error _ => []
  | .ok pattern =>
    match matching c pattern ws with
    | .ok paths => [walkRemark c.sourceRoot paths.length]
    | .error _ => []

end Build

end GoldenSuite
