import GoldenSuite.Shell.Access

/-!
# Programs

The programs that can be started are the utilities and the shell. Each has a file in one
directory, and no other file can be started. A name without a slash is looked up in the
directories of a search path, any other name is a path.
-/

namespace GoldenSuite.Shell

def programDirectory : Location := ["usr", "bin"]

def programNames : List String :=
  ["sh", "true", "false", "cat", "cp", "mkdir", "sleep", "echo", "printf", "pwd", "test", "[",
   "kill"]

/-- The directories in which programs are looked for. -/
def programPath : String :=
  "/usr/local/sbin:/usr/local/bin:/usr/sbin:/usr/bin:/sbin:/bin"

/-- The program that has its file at a location. -/
def programAt? (loc : Location) : Option String :=
  programNames.find? fun program => loc = programDirectory ++ [program]

/-- The program to which a path leads. -/
def programBy (ws : Workspace) (path : Path) : Except Fault String :=
  match ws.find true path with
  | .error fault => .error fault
  | .ok (loc, _) =>
    match programAt? loc with
    | some program => .ok program
    | none => .error .permissionDenied

/-- The paths at which a search path looks for a name. -/
def candidates (searchPath name : String) : List String :=
  (searchPath.splitOn ":").map fun directory =>
    if directory = "" then name else s!"{directory}/{name}"

/-- Looks for a program at one path after the other, with the path at which it was found. The
fault tells why it was not: `before` is what has been wrong so far. -/
def searchProgram (ws : Workspace) (before : Fault) :
    List String → Except Fault (String × String)
  | [] => .error before
  | path :: others =>
    match programBy ws ⟨path⟩ with
    | .ok program => .ok (program, path)
    | .error .notFound => searchProgram ws before others
    | .error .notADirectory => searchProgram ws before others
    | .error fault => searchProgram ws fault others

/-- The program that the name of a command stands for, with the path to it. -/
def findProgram (ws : Workspace) (searchPath name : String) : Except Fault (String × String) :=
  if '/' ∈ name.toList then (programBy ws ⟨name⟩).map fun program => (program, name)
  else searchProgram ws .notFound (candidates searchPath name)

/-- The value of the search path. -/
def Machine.searchPath (m : Machine) : String :=
  (m.valueOf? "PATH").getD ""

/-- The wording of the reason why a command cannot be started. -/
def startWording : Fault → String
  | .notFound => "not found"
  | .notADirectory => "not found"
  | fault => fault.plain

/-- The status of a command that cannot be started: one that is there differs from one that is
not. -/
def startStatus : Fault → Nat
  | .notFound => 127
  | .notADirectory => 127
  | .nameTooLong => 127
  | .tooManyLinks => 127
  | _ => 126

/-! ### The files that are always there -/

/-- The directories that are there before any run. -/
def baseDirectories : List Location :=
  [["usr"], ["usr", "bin"], ["dev"], ["proc"], ["proc", "self"], descriptorDirectory, ["etc"],
   ["home"], ["root"], ["tmp"], ["var"]]

/-- The links that are there before any run. -/
def baseLinks : List (Location × String) :=
  [(["bin"], "usr/bin"), (["dev", "fd"], "/proc/self/fd"),
   (["dev", "stdin"], "/proc/self/fd/0"), (["dev", "stdout"], "/proc/self/fd/1"),
   (["dev", "stderr"], "/proc/self/fd/2")]

/-- The files that are there before any run: the programs and the devices. -/
def baseFiles : List Location :=
  programNames.map (fun name => programDirectory ++ [name]) ++ devices.map Prod.fst

/-- What is there before any run. -/
def baseTree : FileTree :=
  let put (entry : Entry) (tree : FileTree) (loc : Location) : FileTree :=
    tree.add loc.dropLast (loc.getLast?.getD "") entry
  let tree := baseDirectories.foldl (put .directory) .empty
  let tree := baseLinks.foldl (fun tree link => put (.link ⟨link.2⟩) tree link.1) tree
  baseFiles.foldl (put (.file [])) tree

end GoldenSuite.Shell
