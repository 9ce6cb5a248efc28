import GoldenSuite.Shell.Access
import GoldenSuite.Shell.Builtin.Basic

/-!
# The working directory

A shell keeps the path by which it has reached its working directory. A new path is joined to it
and tidied up name by name, without a look at what the names lead to, unless that is asked for.
-/

namespace GoldenSuite.Shell.Builtin

/-- Names without those that stay or go back. -/
def tidied (names : List String) : List String :=
  (names.foldl (fun kept name =>
    if name = "" || name = "." then kept
    else if name = ".." then kept.tail
    else name :: kept) []).reverse

/-- The tidy path that is meant by a path in a directory. Two slashes at the start are kept. -/
def pathFrom (directory path : String) : String :=
  let joined := if path.startsWith "/" then path else s!"{directory}/{path}"
  let lead := match joined.toList with
    | ['/', '/'] => "//"
    | '/' :: '/' :: c :: _ => if c = '/' then "/" else "//"
    | _ => "/"
  lead ++ "/".intercalate (tidied (joined.splitOn "/"))

/-- The path to the working directory without links. -/
def physicalPath (m : Machine) : String :=
  "/" ++ "/".intercalate m.process.here

/-- Whether paths are to be followed link by link, and the operands. -/
def pathOptions (arguments : List String) : Run (Bool × List String) := do
  let (options, operands) ← takeOptions [('L', false), ('P', false)] arguments
  pure (options.getLast?.any fun option => option.1 = 'P', operands)

/-- Whether a path leads to a directory, and to which. -/
def directoryAt? (m : Machine) (path : String) : Option Location :=
  match m.kindAt true path with
  | .ok (loc, .directory) => some loc
  | _ => none

/-- Takes note of a new working directory. -/
def enter (loc : Location) (directory : String) : Run Unit := do
  let before := (← Run.process).directory
  let note (name value : String) : Run Unit := do
    Run.assign name value
    Run.changeVariable name fun v => { v with exported := true }
  note "OLDPWD" before
  Run.change fun p => { p with here := loc, directory }
  note "PWD" directory

/-- Goes to a directory; whether that is possible. -/
def goTo (physical : Bool) (path : String) : Run Bool := do
  let m ← get
  let target := if physical then path else pathFrom m.process.directory path
  match directoryAt? m target with
  | none => pure false
  | some loc => do
    enter loc (if physical then physicalPath { m with process.here := loc } else target)
    pure true

/-- The paths to a directory with a name, each with whether it is told where it leads. -/
def searchedPaths (m : Machine) (path : String) : List (String × Bool) :=
  let isFixed := path.startsWith "/" || path = "." || path = ".." ||
    path.startsWith "./" || path.startsWith "../"
  let listed := match m.valueOf? "CDPATH" with
    | some text => if text = "" then [""] else text.splitOn ":"
    | none => []
  if isFixed then []
  else listed.map fun place =>
    if place = "" then (path, false)
    else (if place.endsWith "/" then place ++ path else s!"{place}/{path}", true)

/-- Changes the working directory. -/
def cd : Builtin := fun arguments => do
  let (physical, operands) ← pathOptions arguments
  let m ← get
  let (path, back) := match operands with
    | [] => ((m.valueOf? "HOME").getD "", false)
    | "-" :: _ => ((m.valueOf? "OLDPWD").getD "", true)
    | path :: _ => (path, false)
  let path := if path = "" then "." else path
  let found := (searchedPaths m path).find? fun entry => (directoryAt? m entry.1).isSome
  let (target, told) := found.getD (path, false)
  if ← goTo physical target then
    if back || told then Run.sayLine (← Run.process).directory
    pure 0
  else Run.giveUp s!"can't cd to {path}"

/-- Says what the working directory is. -/
def pwd : Builtin := fun arguments => do
  let (physical, _) ← pathOptions arguments
  let m ← get
  Run.sayLine (if physical then physicalPath m else m.process.directory)
  pure 0

end GoldenSuite.Shell.Builtin
