import GoldenSuite.Build.Basic
import GoldenSuite.Case.Execution

/-!
# Toolchains

A run leaves two things to a toolchain: building the simulator and running it on a case. A
toolchain has a state of its own and may change any files. The external toolchain does both
jobs with child processes.
-/

namespace GoldenSuite

/-- What a toolchain answers, and what it leaves behind. -/
structure Reply (σ α : Type) where
  answer : Except (Halt Diagnostic) α
  workspace : Workspace
  state : σ
  notes : List Note

/-- What builds the simulator and runs it. -/
structure Toolchain (σ : Type) where
  build : Config → Workspace → σ → Reply σ BuildReport
  execute : Config → TestCase → Workspace → σ → Reply σ Child.Outcome

namespace Toolchain

/-- Lets a step answer for a toolchain whose state are the commands it has run. -/
def reply {ε α : Type} (diagnose : ε → Halt Diagnostic) (step : Act ε α) (ws : Workspace)
    (commands : List Child.Command) : Reply (List Child.Command) α :=
  let (answer, left) := step.perform ⟨ws, commands, []⟩
  ⟨answer.mapError diagnose, left.workspace, left.commands, left.notes⟩

/-- The toolchain that runs the compiler and the simulator as child processes. -/
def external (launcher : Child.Launcher) : Toolchain (List Child.Command) where
  build c := reply (Halt.map BuildError.diagnostic) (Build.run launcher c)
  execute c case := reply (fun e => e.diagnostic) (Execution.run launcher c case)

end Toolchain

end GoldenSuite
