import GoldenSuite.Shell.Draft
import GoldenSuite.Shell.Grammar
import GoldenSuite.Shell.Setting
import GoldenSuite.Shell.Signal
import GoldenSuite.Shell.World
import GoldenSuite.Text.Octets

/-!
# The machine that runs scripts

The state in which the commands of a script run: what is going on around the process, and what
belongs to the process itself, such as its variables and its open descriptors. A command yields
an exit status, or stops the script altogether.
-/

namespace GoldenSuite.Shell

/-- A variable. It can be marked without having a value. -/
structure Variable where
  value : Option String := none
  /-- Whether the programs that are started can see it. -/
  exported : Bool := false
  /-- Whether it cannot be changed. -/
  fixed : Bool := false
deriving DecidableEq, Repr

/-- What has to be put back when a scope is left. -/
inductive Saved where
  | variable_ (name : String) (old : Option Variable)
  | settings (active : List Setting)

/-- A function of a script. -/
structure Function where
  /-- The line on which its body starts. -/
  line : Nat
  body : Command

/-- A command that goes on beside the script. -/
structure Job where
  /-- The number of its process. -/
  process : Nat
  /-- Its status, and the signal that ended it, once that is known. -/
  ending : Option (Nat × Option Nat) := none
  /-- Whether the script has waited for its end. -/
  awaited : Bool := false
deriving DecidableEq, Repr

/-- What belongs to a process. -/
structure Process where
  /-- The number of the process, and that of the shell that it belongs to. -/
  number : Nat
  root : Nat
  parent : Nat
  /-- The processes that wait for this one, each with the signals that do not end it. -/
  waiting : List (Nat × List Nat) := []
  here : Location
  /-- The path by which the working directory was reached. -/
  directory : String
  /-- The name under which the script runs. -/
  name : String
  arguments : List String := []
  /-- The command of the shell that is being run, when there is one. -/
  command : Option String := none
  /-- The line of the script that is being run. -/
  line : Nat := 0
  bindings : List (String × Variable) := []
  functions : List (String × Function) := []
  aliases : List (String × String) := []
  settings : List Setting := []
  /-- What is run at signals; an empty text means that the signal is ignored. -/
  traps : List (Nat × String) := []
  /-- The signals that have been ignored from the start. -/
  ignored : List Nat := []
  /-- The signals whose traps are still to be run. -/
  caught : List Nat := []
  /-- The jobs by their places; a place that is free is used again. -/
  jobs : List (Option Job) := []
  /-- The last process that was started to go on beside the script. -/
  lastJob : Option Nat := none
  /-- The streams to which descriptors lead. -/
  descriptors : List (Nat × Nat) := []
  documents : List Document := []
  nextDocument : Nat := 0
  /-- How many functions the command is in. -/
  calls : Nat := 0
  /-- How many loops the command is in. -/
  loops : Nat := 0
  /-- What has to be put back when scopes are left, the innermost scope first. -/
  scopes : List (List Saved) := []
  /-- The exit status of the last command. -/
  status : Nat := 0
  /-- The exit status of the last command whose output was put into a word. -/
  substituted : Nat := 0
  /-- The status with which the script ends, when it is about to end. -/
  leaving : Option Nat := none
  /-- How far the options among the arguments have been read: the next argument, and how many
  letters of the one before it. -/
  optionIndex : Nat := 1
  optionLetters : Option Nat := none
  /-- The programs that have been found: their names with their paths. -/
  located : List (String × String) := []
  /-- The permissions that new files do not get. -/
  mask : Nat := 0o22
  /-- Whether the end of the script has been read already, as a token that is still to be used. -/
  exhausted : Bool := false
  /-- Whether what comes first on a line that shows a command is being found out. -/
  tracing : Bool := false
  /-- What a command has said so far, the last piece first. -/
  spoken : List String := []
  /-- Whether something that was said could not be written. -/
  unheard : Bool := false

/-- The state in which a command runs. -/
structure Machine where
  world : World
  process : Process

/-- What stops a script before its end. -/
inductive Stop where
  | exited (status : Nat)
  /-- An error of the script itself. -/
  | failed
  /-- A signal ends a process. -/
  | signaled (process signal : Nat)
  /-- The deadline was reached. -/
  | killed
  /-- The script goes on forever. -/
  | endless
  /-- The loops around the command are left, this many of them. -/
  | broken (levels : Nat)
  /-- The innermost loops but this many are left, and the next one goes on. -/
  | continued (levels : Nat)
  /-- The function around the command is left. -/
  | returned (status : Nat)
  /-- The script waits for others, and what they do is not known. -/
  | waiting
deriving DecidableEq, Repr

namespace Process

/-- The signals that do not end the process. -/
def survived (p : Process) : List Nat :=
  (Signal.harmless ++ p.traps.map Prod.fst ++ p.ignored).filter (· ∉ Signal.unstoppable)

end Process

/-- A step of a script. -/
abbrev Run (α : Type) := EStateM Stop Machine α

namespace Machine

/-- The files, seen from the working directory. -/
def workspace (m : Machine) : Workspace :=
  { tree := m.world.scene.tree, here := m.process.here }

/-- The value of a variable. -/
def valueOf? (m : Machine) (name : String) : Option String :=
  (m.process.bindings.lookup name).bind Variable.value

def has (m : Machine) (setting : Setting) : Bool :=
  setting ∈ m.process.settings

/-- The stream to which a descriptor leads. -/
def streamOf? (m : Machine) (descriptor : Nat) : Option (Nat × Stream) :=
  (m.process.descriptors.lookup descriptor).bind fun number =>
    (m.world.scene.stream? number).map fun stream => (number, stream)

/-- The characters that separate fields. -/
def separators (m : Machine) : List Char :=
  match m.valueOf? "IFS" with
  | some text => text.toList
  | none => Draft.usualSeparators

end Machine

namespace Run

/-! ### Parts of the state -/

/-- Changes what belongs to the process. -/
def change (f : Process → Process) : Run Unit :=
  modify fun m => { m with process := f m.process }

/-- What belongs to the process. -/
def process : Run Process := do
  pure (← get).process

/-- The files, seen from the working directory. -/
def workspace : Run Workspace := do
  pure (← get).workspace

/-- Does something to what processes share. -/
def act (deed : Scene → Scene) : Run Unit :=
  modify fun m => { m with world := m.world.act m.process.number deed }

def changeTree (f : FileTree → FileTree) : Run Unit :=
  act fun scene => { scene with tree := f scene.tree }

/-- Runs something and does something to the machine afterwards, however it comes out. -/
def always {α : Type} (after : Machine → Machine) (body : Run α) : Run α := fun m =>
  match body m with
  | .ok a m => .ok a (after m)
  | .error stop m => .error stop (after m)

/-- Runs something in such a way that an error of the script does not stop it; then there is no
result. -/
def attempt {α : Type} (body : Run α) : Run (Option α) := fun m =>
  match body m with
  | .ok a m => .ok (some a) m
  | .error .failed m => .ok none m
  | .error stop m => .error stop m

/-- More steps than any run takes. -/
def plenty : Nat := Nat.pow 2 40

end Run

end GoldenSuite.Shell
