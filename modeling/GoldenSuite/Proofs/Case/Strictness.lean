import GoldenSuite.Proofs.Case.Decision

/-!
# One case under both policies

The policy matters for a case only when its log is there on one side and on the other it is not.
Such a case fails under the strict policy before the results are read. Under the lenient policy its
results decide, so it may pass, fail for its results, or end with an error because one of them
cannot be read.
-/

namespace GoldenSuite

/-! ### Logs on one side -/

namespace Copies

def resultOn (files : Copies) : Side → Path
  | .actual => files.actualResult
  | .expected => files.expectedResult

/-- The log is missing on this side and there on the other. -/
def LacksLog (files : Copies) (ws : Workspace) (side : Side) : Prop :=
  ws.Lacks (files.logOn side) ∧ ∃ contents, ws.Holds (files.logOn side.other) contents

/-- The result on some side is missing or cannot be read. -/
def LacksResult (files : Copies) (ws : Workspace) : Prop :=
  ∃ side, ws.Lacks (files.resultOn side) ∨ ∃ fault, ws.Fails (files.resultOn side) fault

end Copies

def Comparator.withPolicy (comparator : Comparator) (policy : LogPolicy) : Comparator :=
  { comparator with policy }

namespace Comparator

variable {comparator : Comparator} {ws : Workspace} {case : TestCase} {side : Side}

theorem compareCase_eq_of_decides {reads : List Path} {answer : Except ComparisonError Comparison}
    (h : Decides comparator ws (comparator.copies case) reads answer) :
    comparator.compareCase ws case = answer := by
  rw [compareCase_eq_inquiry, h.run_eq]

/-! ### The strict policy -/

theorem compareCase_strict_of_lacksLog (hpolicy : comparator.policy = .strict)
    (h : (comparator.copies case).LacksLog ws side) :
    ∃ comparison, comparator.compareCase ws case = .ok comparison ∧
      comparison.verdict = .fail (.logMissing side) := by
  obtain ⟨hmissing, contents, hthere⟩ := h
  cases side with
  | actual =>
    have hrow := Decides.logs hmissing.gives hthere.gives (.actualMissing contents hpolicy)
    exact ⟨_, compareCase_eq_of_decides hrow, rfl⟩
  | expected =>
    have hrow := Decides.logs hthere.gives hmissing.gives (.expectedMissing contents hpolicy)
    exact ⟨_, compareCase_eq_of_decides hrow, rfl⟩

/-! ### The lenient policy -/

/-- What comes after the logs is a pass or a failure for the results, or an error about one of
them. -/
theorem ResultsDecide.answers {files : Copies} {presence : Presence}
    {log : Option ArtifactComparison} {reads : List Path}
    {answer : Except ComparisonError Comparison}
    (h : ResultsDecide comparator ws files presence log reads answer) :
    (∃ comparison, answer = .ok comparison ∧
      (comparison.verdict = .pass ∨ comparison.verdict = .fail .resultMismatch)) ∨
      (∃ e, answer = .error e) ∧ files.LacksResult ws := by
  cases h with
  | actualUnreadable hfails => exact .inr ⟨⟨_, rfl⟩, .actual, .inr ⟨_, hfails⟩⟩
  | actualMissing hlacks => exact .inr ⟨⟨_, rfl⟩, .actual, .inl hlacks⟩
  | expectedUnreadable _ hfails => exact .inr ⟨⟨_, rfl⟩, .expected, .inr ⟨_, hfails⟩⟩
  | expectedMissing _ hlacks => exact .inr ⟨⟨_, rfl⟩, .expected, .inl hlacks⟩
  | pass => exact .inl ⟨_, rfl, .inl rfl⟩
  | differ => exact .inl ⟨_, rfl, .inr rfl⟩

theorem compareCase_lenient_of_lacksLog (hpolicy : comparator.policy = .lenient)
    (h : (comparator.copies case).LacksLog ws side) :
    (∃ comparison, comparator.compareCase ws case = .ok comparison ∧
      (comparison.verdict = .pass ∨ comparison.verdict = .fail .resultMismatch)) ∨
      (∃ e, comparator.compareCase ws case = .error e) ∧
        (comparator.copies case).LacksResult ws := by
  obtain ⟨hmissing, contents, hthere⟩ := h
  -- With its logs passed over, the case is decided by its results.
  have hresults : ∃ presence log reads answer,
      ResultsDecide comparator ws (comparator.copies case) presence log reads answer ∧
        comparator.compareCase ws case = answer := by
    cases side with
    | actual =>
      obtain ⟨reads, answer, hrow⟩ :=
        exists_resultsDecide comparator ws (comparator.copies case) .expectedOnly none
      exact ⟨_, _, _, _, hrow, compareCase_eq_of_decides
        (.results hmissing.gives hthere.gives (.expectedAllowed contents hpolicy) hrow)⟩
    | expected =>
      obtain ⟨reads, answer, hrow⟩ :=
        exists_resultsDecide comparator ws (comparator.copies case) .actualOnly none
      exact ⟨_, _, _, _, hrow, compareCase_eq_of_decides
        (.results hthere.gives hmissing.gives (.actualAllowed contents hpolicy) hrow)⟩
  obtain ⟨presence, log, reads, answer, hrow, hanswer⟩ := hresults
  rw [hanswer]
  exact hrow.answers

/-! ### Either policy -/

theorem failure?_eq_of_both_or_neither {artifact : String} {actual expected : Option Bytes}
    (h : actual.isSome = expected.isSome) (policy policy' : LogPolicy) :
    (LogCheck.ofContents artifact actual expected).failure? policy =
      (LogCheck.ofContents artifact actual expected).failure? policy' := by
  cases actual with
  | none =>
    cases expected with
    | none => rfl
    | some there => cases h
  | some there =>
    cases expected with
    | none => cases h
    | some golden => rfl

/-- Logs that are on both sides or on none make the policy immaterial, and so does a log that
cannot be read. -/
theorem compareCase_withPolicy (h : ∀ side, ¬ (comparator.copies case).LacksLog ws side)
    (policy policy' : LogPolicy) :
    (comparator.withPolicy policy).compareCase ws case =
      (comparator.withPolicy policy').compareCase ws case := by
  simp only [compareCase, checkLogs, withPolicy, checkResults]
  cases hactual : readArtifact? ws (case.output.join (.ofText comparator.logArtifact)) with
  | error e => rfl
  | ok actual =>
    cases hexpected : readArtifact? ws (case.expected.join (.ofText comparator.logArtifact)) with
    | error e => rfl
    | ok expected =>
      have hgives := readArtifact?_eq_ok_iff.mp hactual
      have hgives' := readArtifact?_eq_ok_iff.mp hexpected
      -- The policy is only asked for when one of these is there and the other is not.
      have hsides : actual.isSome = expected.isSome := by
        cases actual with
        | none =>
          cases expected with
          | none => rfl
          | some there => exact absurd ⟨hgives, there, hgives'⟩ (h .actual)
        | some there =>
          cases expected with
          | none => exact absurd ⟨hgives', there, hgives⟩ (h .expected)
          | some golden => rfl
      simp only [bind, Except.bind, pure, Except.pure,
        failure?_eq_of_both_or_neither hsides policy policy']

end Comparator

end GoldenSuite
