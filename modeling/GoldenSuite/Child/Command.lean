import GoldenSuite.Path.Basic

/-!
# Commands

What is handed to the operating system to start a child process: a program, its arguments and
the directory it starts in, as strings whose characters stand for bytes. The operating system ends
every text at its first NUL character, so a text that holds one cannot be handed over; a command
with such a text is kept with a stand-in for it, and is known to be spoiled.
-/

namespace GoldenSuite.Child

/-- A program to be started. -/
structure Command where
  program : String
  arguments : List String
  /-- The directory that the child starts in; the one of its parent when there is none. -/
  directory : Option Path
  /-- Whether a stand-in took the place of a text, so that the command cannot be started. -/
  spoiled : Bool := false
deriving DecidableEq, Repr

namespace Command

/-- Whether a text holds the character that ends texts. -/
def holdsNul (text : String) : Bool :=
  text.toList.contains '\x00'

/-- What stands for a text that cannot be handed over. -/
def standIn : String := "<string-with-nul>"

/-- A text as it is handed over. -/
def handed (text : String) : String :=
  if holdsNul text then standIn else text

/-- The command for a program with these arguments in a directory. -/
def of (program : String) (arguments : List String) (directory : Option Path) : Command where
  program := handed program
  arguments := arguments.map handed
  directory := directory.map fun path => ⟨handed path.text⟩
  spoiled := (program :: arguments ++ (directory.map (·.text)).toList).any holdsNul

/-- The program as it is shown. -/
def shownProgram (command : Command) : String :=
  Octets.toText command.program

/-- The program and its arguments as they are shown in one line. -/
def line (command : Command) : String :=
  " ".intercalate ((command.program :: command.arguments).map Octets.toText)

theorem handed_of_not_holdsNul {text : String} (h : holdsNul text = false) :
    handed text = text := by
  simp [handed, h]

example : (of "a\x00b" ["c"] none).line = "<string-with-nul> c" := by decide +kernel

end Command

end GoldenSuite.Child
