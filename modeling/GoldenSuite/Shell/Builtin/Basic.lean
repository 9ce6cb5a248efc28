import GoldenSuite.Shell.Speech
import GoldenSuite.Shell.Variables

/-!
# Commands of the shell

A command that is part of the shell itself is a step on the machine that yields a status. What it
has to say is gathered and written when it is done. Its options are letters behind hyphens, up to
two hyphens or the first argument that is no option.
-/

namespace GoldenSuite.Shell

/-- A command of the shell, as a function of its arguments. -/
abbrev Builtin := List String → Run Nat

namespace Run

/-- Runs a command for each of several arguments; the status is the last one that is not zero. -/
def forEach (arguments : List String) (body : String → Run Nat) : Run Nat :=
  arguments.foldlM (fun status argument => do
    let next ← body argument
    pure (if next = 0 then status else next)) 0

end Run

namespace Builtin

/-- A letter that a command takes, and whether a value comes with it. -/
abbrev Letter := Char × Bool

/-- The options in a group of letters. A value is the rest of the group; the letter whose value
is still to come is named. -/
def lettersIn (known : List Letter) : List Char → Except String (List (Char × String) × Option Char)
  | [] => .ok ([], none)
  | letter :: rest =>
    match known.lookup letter with
    | none => .error s!"Illegal option -{letter}"
    | some true =>
      if rest.isEmpty then .ok ([], some letter)
      else .ok ([(letter, String.ofList rest)], none)
    | some false => (lettersIn known rest).map fun found => ((letter, "") :: found.1, found.2)

/-- The options at the start of arguments with their values, and the arguments after them. -/
def optionsIn (known : List Letter) :
    List String → Except String (List (Char × String) × List String)
  | [] => .ok ([], [])
  | argument :: rest =>
    match argument.toList with
    | ['-', '-'] => .ok ([], rest)
    | '-' :: letter :: letters =>
      match lettersIn known (letter :: letters), rest with
      | .error problem, _ => .error problem
      | .ok (_, some letter), [] => .error s!"No arg for -{letter} option"
      | .ok (found, some letter), value :: rest =>
        (optionsIn known rest).map fun more => (found ++ (letter, value) :: more.1, more.2)
      | .ok (found, none), rest =>
        (optionsIn known rest).map fun more => (found ++ more.1, more.2)
    | _ => .ok ([], argument :: rest)

/-- Takes the options of a command, which gives up when they make no sense. -/
def takeOptions (known : List Letter) (arguments : List String) :
    Run (List (Char × String) × List String) :=
  match optionsIn known arguments with
  | .ok found => pure found
  | .error problem => Run.giveUp problem

/-- Takes the operands of a command without options. -/
def takeOperands (arguments : List String) : Run (List String) := do
  return (← takeOptions [] arguments).2

/-- The first letter among the options, if there is one, and the operands if there is none. -/
def takeLetter (known : List Char) : List String → Run (Option Char × List String)
  | [] => pure (none, [])
  | argument :: rest =>
    match argument.toList with
    | ['-', '-'] => pure (none, rest)
    | '-' :: letter :: _ =>
      if letter ∈ known then pure (some letter, rest) else Run.giveUp s!"Illegal option -{letter}"
    | _ => pure (none, argument :: rest)

end Builtin

end GoldenSuite.Shell
