import GoldenSuite.Shell.Pattern
import GoldenSuite.Workspace.Basic

/-!
# Patterns in the place of paths

A pattern in the place of a path stands for the paths that are there, in the order of their
bytes. It is matched name by name; a name that starts with a dot is found only by a pattern that
does so as well.
-/

namespace GoldenSuite.Shell.PathPattern

/-- The first name in a pattern, and what comes after the slash behind it. -/
def firstName : List Char → List Char × Option (List Char)
  | [] => ([], none)
  | '/' :: rest => ([], some rest)
  | '\\' :: '/' :: rest => ([], some rest)
  | '\\' :: c :: rest =>
    let (name, after) := firstName rest
    ('\\' :: c :: name, after)
  | c :: rest =>
    let (name, after) := firstName rest
    (c :: name, after)

/-- Whether a class that was opened before a text is closed in it. -/
def closes : List Char → Bool
  | [] => false
  | '\\' :: _ :: rest => rest.head? == some ']' || closes rest
  | _ :: rest => rest.head? == some ']' || closes rest

/-- Whether a name is a pattern and not just itself. -/
def isActive : List Char → Bool
  | [] => false
  | '*' :: _ => true
  | '?' :: _ => true
  | '[' :: '!' :: rest => closes rest || isActive rest
  | '[' :: rest => closes rest || isActive rest
  | '\\' :: _ :: rest => isActive rest
  | _ :: rest => isActive rest

/-- A text without its backslashes. -/
def plain : List Char → List Char
  | [] => []
  | '\\' :: c :: rest => c :: plain rest
  | c :: rest => c :: plain rest

/-- The names in a directory, among them the two that every directory has. -/
def namesIn (ws : Workspace) (directory : List Char) : List (List Char) :=
  let path := if directory.isEmpty then "." else String.ofList directory
  match ws.list ⟨path⟩ with
  | .ok (_, names) => ['.'] :: ['.', '.'] :: names.map String.toList
  | .error _ => []

/-- Whether a name is found by a pattern. -/
def finds (pattern name : List Char) : Bool :=
  let dotted := (Pattern.bare pattern).head? == some '.'
  (name.head? != some '.' || dotted) && Pattern.accepts pattern name

/-- The paths for which a pattern stands below a path that has been found; at most `fuel` names
of the pattern are looked at. `listed` says whether a directory was listed on the way. -/
def pathsBelow (ws : Workspace) : Nat → List Char → List Char → Bool → List (List Char)
  | 0, _, _, _ => []
  | fuel + 1, found, pattern, listed =>
    let (name, after) := firstName pattern
    if isActive name then
      ((namesIn ws found).filter (finds name)).flatMap fun entry =>
        match after with
        | some rest => pathsBelow ws fuel (found ++ entry ++ ['/']) rest true
        | none => [found ++ entry]
    else
      match after with
      | some rest => pathsBelow ws fuel (found ++ plain name ++ ['/']) rest listed
      | none =>
        let path := found ++ plain name
        if listed && (ws.find false ⟨String.ofList path⟩).isOk then [path] else []

/-- The paths for which a pattern stands. -/
def paths (ws : Workspace) (pattern : List Char) : List String :=
  let found := pathsBelow ws (pattern.length + 1) [] pattern false
  (found.map String.ofList).mergeSort fun a b => !(b < a)

end GoldenSuite.Shell.PathPattern
