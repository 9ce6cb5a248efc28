import GoldenSuite.Case.Basic
import GoldenSuite.Journal
import GoldenSuite.Suite.Summary

/-!
# Reporters

A reporter is told how a run goes on. It has a state of its own and can make notes, but it
cannot touch the files that the run works on.
-/

namespace GoldenSuite

/-- Someone who is told how a run goes on. By its type a reporter can neither see nor change the
files, and what it answers to has no part in the run. -/
structure Reporter (ρ : Type) where
  /-- A case is about to be run. -/
  caseStarted : TestCase → ρ → ρ × List Note
  /-- A case has been judged. -/
  caseFinished : CaseReport → ρ → ρ × List Note
  /-- All cases have been judged. -/
  runFinished : Summary → ρ → ρ × List Note

end GoldenSuite
