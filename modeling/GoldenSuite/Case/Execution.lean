import GoldenSuite.Case.Basic
import GoldenSuite.Child.Supervision
import GoldenSuite.Workspace.Change

/-!
# Running the simulator on a case

When the configuration asks for it, the output directory of the case is removed first, so that
no old output can be taken for new. Then the simulator is run under supervision.
-/

namespace GoldenSuite

/-- Why the simulator could not be run on a case. -/
inductive ExecutionError where
  | uncleaned (path : Path) (fault : Fault)
  | supervision (error : Child.SupervisionError)
deriving DecidableEq, Repr

namespace ExecutionError

/-- The wording of an error. -/
def message : ExecutionError → String
  | .uncleaned path fault => s!"failed to clean output directory '{path.shown}': {fault.message}"
  | .supervision error => error.message

/-- The diagnostic that an error ends a run with. -/
def diagnostic (e : ExecutionError) : Diagnostic :=
  match e with
  | .uncleaned _ _ => ⟨.system, "IO.CASE_OUTPUT", e.message⟩
  | .supervision error => error.diagnostic

end ExecutionError

namespace Execution

/-- The command that runs the simulator on a case. -/
def simulatorCommand (c : Config) (case : TestCase) : Child.Command :=
  .of (Octets.ofText c.runtime)
    ([Octets.ofText c.classpathFlag, c.buildRoot.withSeparator.text, Octets.ofText c.entryPoint,
      case.input.withSeparator.text] ++ c.simulatorArgs.map Octets.ofText)
    (some c.root)

/-- Removes an output directory, and tells whether there was one. -/
def removeOutput (output : Path) (ws : Workspace) : Except ExecutionError Bool × Workspace :=
  match ws.removeAll output with
  | (.ok (), left) => (.ok true, left)
  | (.error .notFound, left) => (.ok false, left)
  | (.error fault, left) => (.error (.uncleaned output fault), left)

/-- Sees to it that a case has no old output. -/
def clean (case : TestCase) : Act ExecutionError Unit := do
  if ← Act.change (removeOutput case.output) then
    Act.note (Part.execution.debug ["path"] s!"removed stale case output: {case.output.shown}")

/-- The note on a simulator that has ended. -/
def endRemark (case : TestCase) (outcome : Child.Outcome) : Note :=
  if outcome.succeeded then
    Part.execution.debug ["case", "elapsed_ms"] s!"simulator finished: {case.name}"
  else
    Part.execution.warn ["case", "status"]
      s!"simulator did not exit cleanly: {case.name}, {outcome.status.text}"

/-- Runs the simulator on a case. -/
def run (launcher : Child.Launcher) (c : Config) (case : TestCase) :
    Act ExecutionError Child.Outcome := do
  if c.cleanOutputs then clean case
  let command := simulatorCommand c case
  let outcome ← (Child.supervise launcher command c.testLimit).within ExecutionError.supervision
  Act.note (endRemark case outcome)
  pure outcome

end Execution

end GoldenSuite
