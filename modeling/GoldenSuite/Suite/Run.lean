import GoldenSuite.Case.Comparison
import GoldenSuite.Case.Discovery
import GoldenSuite.Suite.Reporter
import GoldenSuite.Suite.Toolchain

/-!
# Running a suite

A run checks the configuration, has the simulator built, discovers the cases and takes them one
by one in the order of their names: the simulator is run, and when it ended with exit code zero
its artifacts are compared with the golden files. A case that fails does not stop the run. What
stops it is an error of the toolchain, of the discovery or of a comparison, and the run then ends
with that error, or a panic. After the last case the reporter gets the summary that the run
returns.
-/

namespace GoldenSuite.Suite

/-- A call that a run makes. -/
inductive Event where
  | build
  | started (name : String)
  | execute (name : String)
  | compare (name : String)
  | finished (name : String)
  | runFinished
deriving DecidableEq, Repr

/-- What a run acts on. -/
structure State (σ ρ : Type) where
  workspace : Workspace
  /-- The state of the toolchain. -/
  tools : σ
  /-- The state of the reporter. -/
  audience : ρ
  notes : List Note := []
  /-- The calls made, in their order. -/
  events : List Event := []

/-- A step of a run. -/
abbrev Step (σ ρ α : Type) := EStateM (Halt Diagnostic) (State σ ρ) α

section
variable {σ ρ α ε : Type}

/-! ### Steps -/

/-- Writes down a call. -/
def record (event : Event) : Step σ ρ Unit :=
  modify fun s => { s with events := s.events ++ [event] }

/-- Makes a note. -/
def note (n : Note) : Step σ ρ Unit :=
  modify fun s => { s with notes := s.notes ++ [n] }

/-- Lets the toolchain act. -/
def consult (request : Workspace → σ → Reply σ α) : Step σ ρ α := fun s =>
  let reply := request s.workspace s.tools
  let left : State σ ρ :=
    { s with workspace := reply.workspace, tools := reply.state, notes := s.notes ++ reply.notes }
  match reply.answer with
  | .ok a => .ok a left
  | .error h => .error h left

/-- Tells the reporter something. -/
def tell (message : ρ → ρ × List Note) : Step σ ρ Unit :=
  modify fun s =>
    let (audience, notes) := message s.audience
    { s with audience, notes := s.notes ++ notes }

/-- Takes a step on behalf of a case, which the notes made meanwhile remember. -/
def during (case : TestCase) (step : Step σ ρ α) : Step σ ρ α := fun s =>
  let remember (left : State σ ρ) : State σ ρ :=
    { left with notes := s.notes ++ left.notes.map (Note.during case.name) }
  match step { s with notes := [] } with
  | .ok a left => .ok a (remember left)
  | .error h left => .error h (remember left)

/-- Asks the files something, with the notes that come with the question. -/
def ask (diagnose : ε → Halt Diagnostic) (remarks : Workspace → List Note)
    (question : Workspace → Except ε α) : Step σ ρ α := fun s =>
  let left : State σ ρ := { s with notes := s.notes ++ remarks s.workspace }
  match question s.workspace with
  | .ok a => .ok a left
  | .error e => .error (diagnose e) left

/-! ### The run -/

/-- Judges a case by what the simulator did and, after exit code zero, by its artifacts. -/
def judge (c : Config) (case : TestCase) (outcome : Child.Outcome) : Step σ ρ Verdict := do
  match outcome.failure? with
  | some reason => pure (.fail reason)
  | none =>
    let comparator := Comparator.ofConfig c
    record (.compare case.name)
    let comparison ← ask (fun e => e.diagnostic) (comparator.remarks · case)
      (comparator.compareCase · case)
    pure comparison.verdict

/-- Runs and judges one case. -/
def runCase (toolchain : Toolchain σ) (reporter : Reporter ρ) (c : Config) (case : TestCase) :
    Step σ ρ CaseReport := do
  record (.started case.name)
  tell (reporter.caseStarted case)
  let verdict ← during case do
    record (.execute case.name)
    judge c case (← consult (toolchain.execute c case))
  let report : CaseReport := ⟨case.name, verdict⟩
  record (.finished case.name)
  tell (reporter.caseFinished report)
  pure report

/-- Runs and judges cases in their order. -/
def runCases (toolchain : Toolchain σ) (reporter : Reporter ρ) (c : Config) :
    List TestCase → Step σ ρ (List CaseReport)
  | [] => pure []
  | case :: others => do
    let report ← runCase toolchain reporter c case
    let reports ← runCases toolchain reporter c others
    pure (report :: reports)

/-- Runs a suite. -/
def run (toolchain : Toolchain σ) (reporter : Reporter ρ) (c : Config) : Step σ ρ Summary := do
  ask (Halt.map ConfigError.diagnostic) (fun _ => []) fun _ => c.validate
  record .build
  let build ← consult (toolchain.build c)
  let cases ← ask (fun e => e.diagnostic) (Discovery.remarks c) (Discovery.cases c)
  note (Part.suite.info ["cases"] s!"running integration cases: {cases.length}")
  let summary : Summary := ⟨build, ← runCases toolchain reporter c cases⟩
  note (Part.suite.info ["total", "passed", "failed"]
    s!"run finished: {summary.total}, {summary.passedCount}, {summary.failedCount}")
  record .runFinished
  tell (reporter.runFinished summary)
  pure summary

end

end GoldenSuite.Suite
