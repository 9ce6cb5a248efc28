import GoldenSuite.Child.Status

/-!
# Verdicts

What a run says about one case: it passed, or it failed for a reason. Each verdict has one
wording, which is used both in its own line and in the summary.
-/

namespace GoldenSuite

/-- Which of the two copies of an artifact is meant. -/
inductive Side where
  /-- The one that the simulator wrote. -/
  | actual
  /-- The golden one. -/
  | expected
deriving DecidableEq, Repr

/-- The word for a side. -/
def Side.name : Side → String
  | .actual => "actual"
  | .expected => "expected"

/-- Why a case failed. -/
inductive Reason where
  /-- Both logs are there and differ. -/
  | logMismatch
  /-- One log is there and the other is not. -/
  | logMissing (side : Side)
  /-- The results differ. -/
  | resultMismatch
  /-- The simulator did not end with success; `excerpt` is the end of what it reported. -/
  | simulatorFailed (status : Child.Status) (excerpt : String)
  /-- The simulator ran out of time. -/
  | timedOut (limit : Duration)
deriving DecidableEq, Repr

/-- The wording of a reason. -/
def Reason.text : Reason → String
  | .logMismatch => "Log files differ!"
  | .logMissing side => s!"Log file missing from {side.name} output!"
  | .resultMismatch => "Result files differ!"
  | .simulatorFailed status excerpt =>
    if excerpt = "" then s!"Simulator failed ({status.text})!"
    else s!"Simulator failed ({status.text}): {excerpt}"
  | .timedOut limit => s!"Simulator timed out after {limit.seconds}s!"

/-- What a run says about a case. -/
inductive Verdict where
  | pass
  | fail (reason : Reason)
deriving DecidableEq, Repr

namespace Verdict

/-- Whether the case passed. -/
def passed : Verdict → Bool
  | .pass => true
  | .fail _ => false

/-- The wording of a verdict. -/
def text : Verdict → String
  | .pass => "Test Passed!"
  | .fail reason => reason.text

theorem passed_iff {v : Verdict} : v.passed = true ↔ v = .pass := by
  cases v <;> simp [passed]

end Verdict

end GoldenSuite
