import GoldenSuite.Case.Basic
import GoldenSuite.Diagnostic
import GoldenSuite.Journal
import GoldenSuite.Verdict
import GoldenSuite.Workspace.Basic

/-!
# Comparing a case with its golden files

A case has two artifacts, a log and a result, each written by the simulator and kept as a
golden file. The logs are compared first: when both are there they have to be equal, when one
is missing the policy decides, and when neither is there they are passed over. Only then the
results are compared, which have to be there on both sides. Nothing is written here.
-/

namespace GoldenSuite

/-! ### Presence -/

/-- On which sides an artifact is there. -/
inductive Presence where
  | neither
  | both
  | actualOnly
  | expectedOnly
deriving DecidableEq, Repr

namespace Presence

/-- On which sides an artifact is there, given whether it is on each. -/
def ofSides (actual expected : Bool) : Presence :=
  match actual, expected with
  | false, false => .neither
  | true, true => .both
  | true, false => .actualOnly
  | false, true => .expectedOnly

/-- The one side where an artifact is missing. -/
def missing? : Presence → Option Side
  | .actualOnly => some .expected
  | .expectedOnly => some .actual
  | .neither => none
  | .both => none

end Presence

/-! ### Two copies of an artifact -/

/-- Where two texts first differ, counted on from an offset. Where one goes on and the other has
ended, they differ. -/
def mismatchFrom (offset : Nat) : Bytes → Bytes → Option Nat
  | [], [] => none
  | [], _ :: _ => some offset
  | _ :: _, [] => some offset
  | a :: as, b :: bs => if a = b then mismatchFrom (offset + 1) as bs else some offset

theorem mismatchFrom_eq_none_iff {offset : Nat} {a b : Bytes} :
    mismatchFrom offset a b = none ↔ a = b := by
  induction a generalizing offset b with
  | nil => cases b <;> simp [mismatchFrom]
  | cons x xs ih =>
    cases b with
    | nil => simp [mismatchFrom]
    | cons y ys =>
      rw [mismatchFrom]
      split
      · next h => simp [ih, h]
      · next h => simp [h]

/-- What came of comparing the two copies of an artifact. -/
structure ArtifactComparison where
  artifact : String
  actualBytes : Nat
  expectedBytes : Nat
  /-- The offset of the first byte that is not on both sides. -/
  mismatch : Option Nat
deriving DecidableEq, Repr

namespace ArtifactComparison

/-- Compares the two copies of an artifact. -/
def ofContents (artifact : String) (actual expected : Bytes) : ArtifactComparison :=
  ⟨artifact, actual.length, expected.length, mismatchFrom 0 expected actual⟩

/-- Whether the copies are equal. -/
def passed (comparison : ArtifactComparison) : Bool :=
  comparison.mismatch.isNone

theorem passed_ofContents_iff {artifact : String} {actual expected : Bytes} :
    (ofContents artifact actual expected).passed = true ↔ actual = expected := by
  rw [passed, Option.isNone_iff_eq_none, ofContents, mismatchFrom_eq_none_iff]
  exact eq_comm

end ArtifactComparison

/-! ### Errors -/

/-- Why a case could not be compared. -/
inductive ComparisonError where
  | missing (artifact : String) (side : Side) (path : Path)
  | unreadable (path : Path) (fault : Fault)
deriving DecidableEq, Repr

namespace ComparisonError

/-- The wording of an error. -/
def message : ComparisonError → String
  | .missing artifact side path => s!"{side.name} {artifact} artifact '{path.shown}' is missing"
  | .unreadable path fault => s!"failed to read artifact '{path.shown}': {fault.message}"

/-- The diagnostic that an error ends a run with. -/
def diagnostic (e : ComparisonError) : Diagnostic :=
  match e with
  | .missing _ _ _ => ⟨.system, "IO.RESULT_ARTIFACT", e.message⟩
  | .unreadable _ _ => ⟨.system, "IO.ARTIFACT_READ", e.message⟩

end ComparisonError

/-! ### Comparing -/

/-- The contents of an artifact, when it is there. -/
def readArtifact? (ws : Workspace) (path : Path) : Except ComparisonError (Option Bytes) :=
  match ws.read path with
  | .ok contents => .ok (some contents)
  | .error .notFound => .ok none
  | .error fault => .error (.unreadable path fault)

/-- The contents of an artifact that has to be there. -/
def readArtifact (ws : Workspace) (artifact : String) (side : Side) (path : Path) :
    Except ComparisonError Bytes := do
  match ← readArtifact? ws path with
  | some contents => pure contents
  | none => throw (.missing artifact side path)

/-- Compares an artifact that has to be there on both sides. -/
def compareRequired (ws : Workspace) (artifact : String) (actual expected : Path) :
    Except ComparisonError ArtifactComparison := do
  let actualContents ← readArtifact ws artifact .actual actual
  let expectedContents ← readArtifact ws artifact .expected expected
  pure (.ofContents artifact actualContents expectedContents)

/-- What came of the logs of a case. -/
structure LogCheck where
  presence : Presence
  /-- There is one when both logs are. -/
  comparison : Option ArtifactComparison
deriving DecidableEq, Repr

namespace LogCheck

/-- What came of two logs that may be there. -/
def ofContents (artifact : String) (actual expected : Option Bytes) : LogCheck where
  presence := .ofSides actual.isSome expected.isSome
  comparison :=
    match actual, expected with
    | some actual, some expected => some (.ofContents artifact actual expected)
    | _, _ => none

/-- Why the logs fail the case, when they do. -/
def failure? (policy : LogPolicy) (check : LogCheck) : Option Reason :=
  match check.comparison, check.presence.missing?, policy with
  | some comparison, _, _ => if comparison.passed then none else some .logMismatch
  | none, some side, .strict => some (.logMissing side)
  | none, some _, .lenient => none
  | none, none, _ => none

end LogCheck

/-- What came of a case. -/
structure Comparison where
  logPresence : Presence
  log : Option ArtifactComparison
  /-- There is none when the logs have failed the case already. -/
  result : Option ArtifactComparison
  verdict : Verdict
deriving DecidableEq, Repr

/-- How the artifacts of a case are called, and what happens when a log is missing. -/
structure Comparator where
  logArtifact : String
  resultArtifact : String
  policy : LogPolicy
deriving DecidableEq, Repr

namespace Comparator

/-- The comparator that a configuration asks for. -/
def ofConfig (c : Config) : Comparator :=
  ⟨c.logArtifact, c.resultArtifact, c.logPolicy⟩

def checkLogs (comparator : Comparator) (ws : Workspace) (case : TestCase) :
    Except ComparisonError LogCheck := do
  let actual ← readArtifact? ws (case.output.join (.ofText comparator.logArtifact))
  let expected ← readArtifact? ws (case.expected.join (.ofText comparator.logArtifact))
  pure (.ofContents comparator.logArtifact actual expected)

def checkResults (comparator : Comparator) (ws : Workspace) (case : TestCase) :
    Except ComparisonError ArtifactComparison :=
  compareRequired ws comparator.resultArtifact
    (case.output.join (.ofText comparator.resultArtifact))
    (case.expected.join (.ofText comparator.resultArtifact))

/-- Compares a case with its golden files. -/
def compareCase (comparator : Comparator) (ws : Workspace) (case : TestCase) :
    Except ComparisonError Comparison := do
  let logs ← comparator.checkLogs ws case
  match logs.failure? comparator.policy with
  | some reason => pure ⟨logs.presence, logs.comparison, none, .fail reason⟩
  | none =>
    let result ← comparator.checkResults ws case
    let verdict := if result.passed then Verdict.pass else .fail .resultMismatch
    pure ⟨logs.presence, logs.comparison, some result, verdict⟩

/-! ### Notes -/

/-- The note on two copies that differ. -/
def mismatchRemarks (case : TestCase) (comparison : ArtifactComparison) : List Note :=
  match comparison.mismatch with
  | some offset =>
    [Part.comparison.debug ["case", "artifact", "offset", "actual_bytes", "expected_bytes"]
      s!"artifact mismatch: {case.name}, {comparison.artifact} at byte {offset}"]
  | none => []

def logRemarks (comparator : Comparator) (case : TestCase) (logs : LogCheck) : List Note :=
  match logs.comparison, logs.presence.missing?, comparator.policy with
  | some comparison, _, _ => mismatchRemarks case comparison
  | none, none, _ =>
    [Part.comparison.debug ["case"] s!"no log on either side: {case.name}, log check skipped"]
  | none, some side, .lenient =>
    [Part.comparison.warn ["case", "missing"]
      s!"log missing from {side.name} output: {case.name}, log check skipped"]
  | none, some _, .strict => []

/-- The notes made while a case is compared. -/
def remarks (comparator : Comparator) (ws : Workspace) (case : TestCase) : List Note :=
  match comparator.checkLogs ws case with
  | .error _ => []
  | .ok logs =>
    comparator.logRemarks case logs ++
      match logs.failure? comparator.policy, comparator.checkResults ws case with
      | none, .ok result => mismatchRemarks case result
      | _, _ => []

end Comparator

end GoldenSuite
