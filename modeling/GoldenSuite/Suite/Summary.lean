import GoldenSuite.Build.Basic

/-!
# Summaries

When every case has been judged, a run ends with a summary: how many cases passed, which ones
failed and why, and an exit code that is zero exactly when none failed.
-/

namespace GoldenSuite

/-- What a run says about one case. -/
structure CaseReport where
  name : String
  verdict : Verdict
deriving DecidableEq, Repr

/-- What a run says in the end. -/
structure Summary where
  build : BuildReport
  /-- The cases in the order in which they were run. -/
  cases : List CaseReport
deriving DecidableEq, Repr

namespace Summary

/-- How many cases there are. -/
def total (s : Summary) : Nat :=
  s.cases.length

/-- How many cases passed. -/
def passedCount (s : Summary) : Nat :=
  s.cases.countP (·.verdict.passed)

/-- How many cases failed. -/
def failedCount (s : Summary) : Nat :=
  s.total - s.passedCount

/-- The cases that failed, in their order. -/
def failedCases (s : Summary) : List CaseReport :=
  s.cases.filter fun report => !report.verdict.passed

/-- Whether no case failed. -/
def allPassed (s : Summary) : Bool :=
  s.failedCount == 0

/-- The exit code of a run that comes to its summary. -/
def exitCode (s : Summary) : Nat :=
  if s.allPassed then 0 else 1

theorem passedCount_le_total (s : Summary) : s.passedCount ≤ s.total :=
  List.countP_le_length

theorem passedCount_add_failedCount (s : Summary) : s.passedCount + s.failedCount = s.total := by
  have := s.passedCount_le_total
  unfold failedCount
  omega

theorem length_failedCases (s : Summary) : s.failedCases.length = s.failedCount := by
  have whole := List.length_eq_countP_add_countP (p := fun r : CaseReport => r.verdict.passed)
    (l := s.cases)
  have failed : s.failedCases.length = s.cases.countP fun r => !r.verdict.passed :=
    List.countP_eq_length_filter.symm
  simp only [Bool.not_eq_true, Bool.decide_eq_false] at whole
  rw [failed]
  unfold failedCount total passedCount
  omega

theorem allPassed_iff (s : Summary) :
    s.allPassed = true ↔ ∀ report ∈ s.cases, report.verdict.passed = true := by
  rw [allPassed, beq_iff_eq, ← length_failedCases, List.length_eq_zero_iff, failedCases,
    List.filter_eq_nil_iff]
  simp

/-! ### Wording -/

/-- The line with the counts. -/
def headline (s : Summary) : String :=
  s!"Summary: {s.total} cases ({s.passedCount} passed, {s.failedCount} failed)"

def failureLine (report : CaseReport) : String :=
  s!"  failed: {report.name} ({report.verdict.text})"

/-- The wording of a summary: the counts, and then a line for every case that failed. -/
def text (s : Summary) : String :=
  "\n".intercalate (s.headline :: s.failedCases.map failureLine)

end Summary

end GoldenSuite
