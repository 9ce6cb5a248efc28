import GoldenSuite.Child.Supervision
import GoldenSuite.Shell.Evaluation

/-!
# Starting programs on the machine

The launcher that runs every child on the machine: a command is refused when its program cannot
be started, and otherwise run to its end, which says when and how the child ends. When a child
is killed before, it is run again up to that time to see what it leaves behind.
-/

namespace GoldenSuite.Shell

/-- How deep a run may go. -/
def depth : Nat := 200000

/-- The time that every child takes to start, in milliseconds. -/
def startup : Nat := 1

/-- The number of the process that starts children. -/
def parentNumber : Nat := 100

/-- How long a name in a directory may be. -/
def longestName : Nat := 255

/-- The machine on which a command starts: it can read nothing, what it writes goes nowhere, and
its error stream is kept. -/
def machineFor (command : Child.Command) (ws : Workspace) (deadline : Option Nat) : Machine :=
  let number := parentNumber + 1
  let input : Stream := { place := .nowhere, readable := true, writable := false }
  let output : Stream := { place := .nowhere, readable := false, writable := true }
  let errors : Stream := { place := .report, readable := false, writable := true }
  let environment := [("PATH", programPath), ("HOME", "/root")].map fun entry =>
    (entry.1, { value := some entry.2, exported := true : Variable })
  { world :=
      { scene := { tree := ws.tree, streams := [(0, input), (1, output), (2, errors)] }
        elapsed := startup, deadline, nextProcess := number + 1, nextStream := 3 }
    process :=
      { number, root := number, parent := parentNumber, here := ws.here, directory := ""
        name := command.program, bindings := environment
        descriptors := [(0, 0), (1, 1), (2, 2)] } }

/-- How and when a run ends, unless it goes on forever, and the machine then. -/
structure Run.End where
  ended : Option (Child.Exit × Nat)
  machine : Machine

/-- Runs a program to its end. -/
def runProgram (program name : String) (arguments : List String) (m : Machine) : Run.End :=
  let after (m : Machine) (exit : Child.Exit) : Run.End :=
    { ended := some (exit, m.world.elapsed), machine := m }
  match Run.whole (programRun depth program name arguments) m with
  | .ok status m => after m (.exited (status % 256))
  | .error (.signaled _ _) m => after m .signaled
  | .error _ m => { ended := none, machine := m }

/-- Lets the processes that go on after the end of a run go on up to a time. -/
def goOn (time : Nat) (m : Machine) : Machine :=
  match Run.pass (fun _ => false) (some time) Run.plenty m with
  | .ok _ m => m
  | .error _ m => m

/-- How long it takes from one look at a child to the next, in milliseconds. -/
def lookInterval : Nat :=
  Child.interval / 1000000

/-- The first time from a given one on at which a child is looked at. -/
def noticed (time : Nat) : Nat :=
  (time + lookInterval - 1) / lookInterval * lookInterval

/-- What can be observed of a child that is polled at every interval. -/
def scheduleOf (ended : Option (Child.Exit × Nat)) : Child.Schedule where
  poll n :=
    match ended with
    | some (exit, time) => if time ≤ lookInterval * n then .ended exit else .running
    | none => .running
  clock n := .ofMillis (lookInterval * n)
  ending :=
    match ended with
    | some (exit, _) => .ok exit
    | none => .error .interrupted
  reaped := .ok ()
  clock_advances n := by
    simp only [Duration.ofMillis, lookInterval, Child.interval]
    omega

/-- Seen from the working directory of the parent, what a child leaves behind. -/
def remainsOf (ws : Workspace) (m : Machine) : Child.Remains :=
  ⟨.ok m.world.scene.report.data.toList, ws.withTree m.world.scene.tree⟩

def startDirectory (command : Child.Command) (ws : Workspace) : Except Fault Workspace :=
  match command.directory with
  | none => .ok ws
  | some directory =>
    match ws.find true directory with
    | .error fault => .error fault
    | .ok (loc, .directory) => .ok { ws with here := loc }
    | .ok _ => .error .notADirectory

/-- The program that a command names. -/
def programOf (command : Child.Command) (ws : Workspace) : Except Fault String :=
  if command.program = "" then .error .notFound
  else if '/' ∉ command.program.toList && longestName < command.program.length then
    .error .nameTooLong
  else (findProgram ws programPath command.program).map Prod.fst

/-- Starts commands on the machine. -/
def launcher : Child.Launcher where
  launch _ command ws := do
    let inside ← startDirectory command ws
    let program ← programOf command inside
    let run (deadline : Option Nat) : Run.End :=
      runProgram program command.program command.arguments (machineFor command inside deadline)
    let whole := run none
    pure
      { schedule := scheduleOf whole.ended
        remains := fun killed =>
          match killed with
          | none => remainsOf ws (goOn (noticed whole.machine.world.elapsed) whole.machine)
          | some time =>
            if time.millis < startup then ⟨.ok [], ws⟩
            else remainsOf ws (run (some time.millis)).machine }

end GoldenSuite.Shell
