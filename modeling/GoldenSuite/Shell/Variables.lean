import GoldenSuite.Shell.Arithmetic
import GoldenSuite.Shell.Transfer

/-!
# Variables

Giving values to variables and taking them away, and the scopes of functions, at whose end
variables become what they were before. Some variables mean something to the shell itself.
-/

namespace GoldenSuite.Shell

/-- The largest number that an argument can be. -/
def largestArgument : Int := Int.pow 2 31 - 1

/-- The number that an argument shows, when it is not negative and not too large. -/
def argumentNumber? (argument : String) : Option Nat :=
  match Arithmetic.decimal? argument.toList with
  | some value => if 0 ≤ value ∧ value ≤ largestArgument then some value.toNat else none
  | none => none

namespace Process

/-- What is known of a variable. -/
def find? (p : Process) (name : String) : Option Variable :=
  p.bindings.lookup name

/-- Makes a variable what it is to be. -/
def setVariable (p : Process) (name : String) (variable_ : Variable) : Process :=
  { p with bindings := (name, variable_) :: p.bindings.filter fun pair => pair.1 ≠ name }

/-- Takes a variable away. -/
def dropVariable (p : Process) (name : String) : Process :=
  { p with bindings := p.bindings.filter fun pair => pair.1 ≠ name }

/-- Forgets what was found by a variable when that changes. -/
def revise (p : Process) (name : String) : Process :=
  if name = "PATH" then { p with located := [] } else p

/-- Puts back what was saved. -/
def restore (p : Process) : Saved → Process
  | .variable_ name (some old) => (p.setVariable name old).revise name
  | .variable_ name none => (p.dropVariable name).revise name
  | .settings active => { p with settings := active }

/-- Starts a scope. -/
def enterScope (p : Process) : Process :=
  { p with scopes := [] :: p.scopes }

/-- Leaves scopes until only so many are left, and puts back what was saved in them. -/
def leaveScopes (p : Process) (count : Nat) : Process :=
  let left := p.scopes.take (p.scopes.length - count)
  { left.flatten.foldl restore p with scopes := p.scopes.drop left.length }

/-- Notes in the innermost scope what has to be put back. -/
def save (p : Process) (saved : Saved) : Process :=
  match p.scopes with
  | scope :: others => { p with scopes := (saved :: scope) :: others }
  | [] => p

end Process

namespace Run

/-- Refuses a text that is no name. -/
def checkName (name : String) : Run Unit :=
  if isName name.toList then pure () else giveUp s!"{name}: bad variable name"

/-- Refuses a number that does not fit. -/
def argumentNumber (argument : String) : Run Nat :=
  match argumentNumber? argument with
  | some value => pure value
  | none => giveUp s!"Illegal number: {argument}"

/-- Takes notice of a variable that means something to the shell. -/
def notice (name : String) (value : Option String) : Run Unit := do
  match name, value with
  | "OPTIND", some text =>
    let index ← argumentNumber text
    change fun p => { p with optionIndex := max index 1, optionLetters := none }
  | _, _ => change fun p => p.revise name

/-- Changes a variable that can be changed. -/
def changeVariable (name : String) (f : Variable → Variable) : Run Unit := do
  checkName name
  let p ← process
  let old := (p.find? name).getD {}
  let new := f old
  if old.fixed && new.value ≠ old.value then giveUp s!"{name}: is read only"
  else
    let exported := new.exported || (Setting.allexport ∈ p.settings && new.value.isSome)
    set { (← get) with process := p.setVariable name { new with exported } }

/-- Gives a variable a value. -/
def assign (name value : String) : Run Unit := do
  checkName name
  let p ← process
  if (p.find? name).any Variable.fixed then giveUp s!"{name}: is read only"
  else
    changeVariable name fun v => { v with value := some value }
    notice name (some value)

/-- Takes the value of a variable away. -/
def forget (name : String) : Run Unit := do
  checkName name
  let p ← process
  if (p.find? name).any Variable.fixed then giveUp s!"{name}: is read only"
  else
    change fun p => p.dropVariable name
    notice name none

/-- Lets the innermost scope put back a variable when it is left. -/
def keep (name : String) : Run Unit :=
  change fun p => p.save (.variable_ name (p.find? name))

/-- The name and the value in an argument such as `name=value`. -/
def assignmentOf (argument : String) : String × Option String :=
  let name := argument.toList.takeWhile (· ≠ '=')
  match argument.toList.drop name.length with
  | '=' :: value => (String.ofList name, some (String.ofList value))
  | _ => (String.ofList name, none)

end Run

end GoldenSuite.Shell
