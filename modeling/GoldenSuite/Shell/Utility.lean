import GoldenSuite.Shell.Utility.Cat
import GoldenSuite.Shell.Utility.Cp
import GoldenSuite.Shell.Utility.Format
import GoldenSuite.Shell.Utility.Plain
import GoldenSuite.Shell.Utility.Test

/-!
# Utilities

The programs that scripts call, each as a step on the machine that yields an exit status. What
cannot be done is said on the error stream, after the name under which the program was called.
-/

namespace GoldenSuite.Shell.Utility

/-- The programs with a file of their own, apart from the shell. -/
def programs : List (String × Program) :=
  [("true", fun _ _ => pure 0), ("false", fun _ _ => pure 1), ("cat", cat), ("cp", cp),
   ("mkdir", mkdir), ("sleep", sleep), ("echo", echo), ("printf", printf), ("pwd", pwd),
   ("test", test), ("[", bracket), ("kill", fun _ _ => pure 1)]

example : "sh" :: programs.map Prod.fst = ["sh", "true", "false", "cat", "cp", "mkdir", "sleep",
    "echo", "printf", "pwd", "test", "[", "kill"] := by decide

end GoldenSuite.Shell.Utility
