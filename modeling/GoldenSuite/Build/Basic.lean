import GoldenSuite.Build.Sources
import GoldenSuite.Workspace.Change

/-!
# Building the simulator

A build finds the sources, makes the build directory and runs the compiler once over all
sources. It succeeds when the compiler ends with exit code zero. Nothing is changed and nothing
is started before the sources have been found.
-/

namespace GoldenSuite

/-- What a build that succeeded reports. -/
structure BuildReport where
  sourceCount : Nat
  directory : Path
deriving DecidableEq, Repr

namespace Build

/-- The command that compiles the sources into a build directory. -/
def compilerCommand (c : Config) (sources : List Path) (directory : Path) : Child.Command :=
  .of (Octets.ofText c.compiler)
    (c.compilerArgs.map Octets.ofText ++ sources.map (·.text) ++
      [Octets.ofText c.outputFlag, directory.text])
    (some c.root)

/-- How many lines of what the compiler wrote an error quotes. -/
def reportLines : Nat := 20

/-- What the end of the compiler means for the build. -/
def judge (c : Config) (sourceCount : Nat) (outcome : Child.Outcome) :
    Except BuildError BuildReport :=
  match outcome.status with
  | .exited 0 => .ok ⟨sourceCount, c.buildRoot⟩
  | .timedOut limit => .error (.timedOut c.compiler limit)
  | status => .error (.compilerFailed c.compiler status (outcome.stderrTail reportLines))

theorem judge_eq_ok_iff {c : Config} {count : Nat} {outcome : Child.Outcome}
    {report : BuildReport} :
    judge c count outcome = .ok report ↔
      outcome.status = .exited 0 ∧ report = ⟨count, c.buildRoot⟩ := by
  unfold judge
  split <;> simp_all [eq_comm]

/-- Makes the build directory, with every directory on the way. -/
def makeDirectory (c : Config) : Act BuildError Unit :=
  Act.change fun ws =>
    let (answer, left) := ws.createDirectories c.buildRoot
    (answer.mapError (BuildError.directory c.buildRoot), left)

/-- The note on a build that is about to compile. -/
def compileRemark (c : Config) (found : List Path) : Note :=
  Part.build.info ["sources", "build_dir"]
    s!"compiling {found.length} simulator sources into {c.buildRoot.shown}"

/-- Runs the compiler over the sources that were found. -/
def compile (launcher : Child.Launcher) (c : Config) (found : List Path) :
    Act BuildError BuildReport := do
  Act.note (compileRemark c found)
  let command := compilerCommand c found c.buildRoot
  let outcome ← (Child.supervise launcher command c.buildLimit).within BuildError.supervision
  let report ← Act.look fun _ => judge c found.length outcome
  Act.note (Part.build.info ["elapsed_ms"] "build finished")
  pure report

/-- Builds the simulator. -/
def run (launcher : Child.Launcher) (c : Config) : Act (Halt BuildError) BuildReport := do
  Act.remarkOn (sourceRemarks c)
  let found ← Act.look (sources c)
  (makeDirectory c).within Halt.error
  (compile launcher c found).within Halt.error

end Build

end GoldenSuite
