import GoldenSuite.Shell.Builtin.Directory
import GoldenSuite.Shell.Builtin.Input
import GoldenSuite.Shell.Builtin.Names
import GoldenSuite.Shell.Builtin.Parameters
import GoldenSuite.Shell.Builtin.Plain
import GoldenSuite.Shell.Builtin.Processes

/-!
# The commands of the shell

The table of the commands that are part of the shell. A few of them run other commands, and are
known here by their names alone.
-/

namespace GoldenSuite.Shell.Builtin

/-- The commands of the shell that run other commands. -/
def running : List String :=
  [".", "command", "eval", "exec"]

/-- The commands of the shell that do all by themselves and know nothing of each other. -/
def selfContained : List (String × Builtin) :=
  [(":", fun _ => pure 0), ("true", fun _ => pure 0), ("false", fun _ => pure 1),
   ("alias", aliasAll), ("bg", resume), ("break", leaveLoops .broken), ("cd", cd), ("chdir", cd),
   ("continue", leaveLoops .continued), ("echo", echo), ("exit", exit), ("export", export_),
   ("fg", resume), ("getopts", getopts), ("jobs", jobs), ("kill", kill), ("local", local_),
   ("printf", printf), ("pwd", pwd), ("read", read), ("readonly", readonly),
   ("return", return_), ("set", set_), ("shift", shift), ("test", test), ("[", bracket),
   ("times", times), ("trap", trap), ("ulimit", ulimit), ("umask", umask),
   ("unalias", unalias), ("unset", unset), ("wait", wait)]

/-- Whether a name is that of a command of the shell. -/
def isKnown (name : String) : Bool :=
  name ∈ running || name ∈ ["hash", "type"] || selfContained.any fun entry => entry.1 = name

/-- The command of the shell with a name, unless it runs other commands. -/
def ofName? (name : String) : Option Builtin :=
  if name = "hash" then some (hash isKnown)
  else if name = "type" then some (type_ isKnown)
  else selfContained.lookup name

/-- The commands whose arguments that look like assignments are expanded like assignments. -/
def assigning : List String :=
  ["alias", "export", "local", "readonly"]

example : (running ++ ["hash", "type"]).all isKnown = true := by decide +kernel

end GoldenSuite.Shell.Builtin
