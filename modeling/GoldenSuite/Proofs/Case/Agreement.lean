import GoldenSuite.Case.Comparison

/-!
# When a case passes

A comparison passes a case exactly when its results are there with the same contents on both
sides, and its logs are missing on both sides, or the same on both, or there on one side only
under the lenient policy.
-/

namespace GoldenSuite

/-! ### Reading artifacts -/

/-- Nothing is there to be read. -/
def Workspace.Lacks (ws : Workspace) (p : Path) : Prop :=
  ws.read p = .error .notFound

/-- A file with these contents is there to be read. -/
def Workspace.Holds (ws : Workspace) (p : Path) (contents : Bytes) : Prop :=
  ws.read p = .ok contents

attribute [local irreducible] Workspace.read

theorem readArtifact?_eq_none_iff {ws : Workspace} {p : Path} :
    readArtifact? ws p = .ok none ↔ ws.Lacks p := by
  unfold readArtifact? Workspace.Lacks
  split
  · next contents h => simp [h]
  · next h => simp [h]
  · next fault hne h =>
    simp only [h, reduceCtorEq, Except.error.injEq, false_iff]
    exact hne

theorem readArtifact?_eq_some_iff {ws : Workspace} {p : Path} {contents : Bytes} :
    readArtifact? ws p = .ok (some contents) ↔ ws.Holds p contents := by
  unfold readArtifact? Workspace.Holds
  split
  · next there h => simp [h]
  · next h => simp [h]
  · next fault hne h => simp [h]

theorem readArtifact_eq_ok_iff {ws : Workspace} {artifact : String} {side : Side} {p : Path}
    {contents : Bytes} : readArtifact ws artifact side p = .ok contents ↔ ws.Holds p contents := by
  rw [← readArtifact?_eq_some_iff]
  unfold readArtifact
  cases readArtifact? ws p with
  | error e => simp [bind, Except.bind]
  | ok found =>
    cases found with
    | none => simp [bind, Except.bind, throw, throwThe, MonadExceptOf.throw]
    | some there => simp [bind, Except.bind, pure, Except.pure]

/-! ### Agreement -/

/-- Two logs that do not fail their case. -/
def LogsAgree (policy : LogPolicy) (ws : Workspace) (actual expected : Path) : Prop :=
  (ws.Lacks actual ∧ ws.Lacks expected) ∨
  (∃ contents, ws.Holds actual contents ∧ ws.Holds expected contents) ∨
  (policy = .lenient ∧
    ((ws.Lacks actual ∧ ∃ contents, ws.Holds expected contents) ∨
      ((∃ contents, ws.Holds actual contents) ∧ ws.Lacks expected)))

/-- Two results that are there and equal. -/
def ResultsAgree (ws : Workspace) (actual expected : Path) : Prop :=
  ∃ contents, ws.Holds actual contents ∧ ws.Holds expected contents

/-- The artifacts of a case agree with its golden files. -/
def TestCase.Agrees (c : Config) (ws : Workspace) (case : TestCase) : Prop :=
  ResultsAgree ws (case.output.join (.ofText c.resultArtifact))
    (case.expected.join (.ofText c.resultArtifact)) ∧
    LogsAgree c.logPolicy ws (case.output.join (.ofText c.logArtifact))
      (case.expected.join (.ofText c.logArtifact))

theorem failure?_ofContents_eq_none_iff {policy : LogPolicy} {artifact : String}
    {actual expected : Option Bytes} :
    (LogCheck.ofContents artifact actual expected).failure? policy = none ↔
      (actual = none ∧ expected = none) ∨
      (∃ contents, actual = some contents ∧ expected = some contents) ∨
      (policy = .lenient ∧ actual.isSome ≠ expected.isSome) := by
  cases actual with
  | none =>
    cases expected with
    | none => simp [LogCheck.ofContents, LogCheck.failure?, Presence.ofSides, Presence.missing?]
    | some e =>
      cases policy <;>
        simp [LogCheck.ofContents, LogCheck.failure?, Presence.ofSides, Presence.missing?]
  | some a =>
    cases expected with
    | none =>
      cases policy <;>
        simp [LogCheck.ofContents, LogCheck.failure?, Presence.ofSides, Presence.missing?]
    | some e =>
      simp only [LogCheck.ofContents, LogCheck.failure?, ite_eq_left_iff, reduceCtorEq, imp_false,
        Decidable.not_not, ArtifactComparison.passed_ofContents_iff]
      simp [eq_comm]

namespace Comparator

theorem checkLogs_eq_ok_iff {comparator : Comparator} {ws : Workspace} {case : TestCase}
    {logs : LogCheck} :
    comparator.checkLogs ws case = .ok logs ↔
      ∃ actual expected,
        readArtifact? ws (case.output.join (.ofText comparator.logArtifact)) = .ok actual ∧
        readArtifact? ws (case.expected.join (.ofText comparator.logArtifact)) = .ok expected ∧
        logs = .ofContents comparator.logArtifact actual expected := by
  unfold checkLogs
  cases readArtifact? ws (case.output.join (.ofText comparator.logArtifact)) with
  | error e => simp [bind, Except.bind]
  | ok actual =>
    cases readArtifact? ws (case.expected.join (.ofText comparator.logArtifact)) with
    | error e => simp [bind, Except.bind]
    | ok expected => simp [bind, Except.bind, pure, Except.pure, eq_comm]

theorem checkResults_eq_ok_iff {comparator : Comparator} {ws : Workspace} {case : TestCase}
    {result : ArtifactComparison} :
    comparator.checkResults ws case = .ok result ↔
      ∃ actual expected,
        ws.Holds (case.output.join (.ofText comparator.resultArtifact)) actual ∧
        ws.Holds (case.expected.join (.ofText comparator.resultArtifact)) expected ∧
        result = .ofContents comparator.resultArtifact actual expected := by
  unfold checkResults compareRequired
  have hactual := @readArtifact_eq_ok_iff ws comparator.resultArtifact .actual
    (case.output.join (.ofText comparator.resultArtifact))
  have hexpected := @readArtifact_eq_ok_iff ws comparator.resultArtifact .expected
    (case.expected.join (.ofText comparator.resultArtifact))
  simp only [← hactual, ← hexpected]
  cases readArtifact ws comparator.resultArtifact .actual
      (case.output.join (.ofText comparator.resultArtifact)) with
  | error e => simp [bind, Except.bind]
  | ok actual =>
    cases readArtifact ws comparator.resultArtifact .expected
        (case.expected.join (.ofText comparator.resultArtifact)) with
    | error e => simp [bind, Except.bind]
    | ok expected => simp [bind, Except.bind, pure, Except.pure, eq_comm]

theorem compareCase_pass_iff {comparator : Comparator} {ws : Workspace} {case : TestCase} :
    (∃ comparison, comparator.compareCase ws case = .ok comparison ∧ comparison.verdict = .pass) ↔
      (∃ logs, comparator.checkLogs ws case = .ok logs ∧ logs.failure? comparator.policy = none) ∧
      ∃ result, comparator.checkResults ws case = .ok result ∧ result.passed = true := by
  unfold compareCase
  cases comparator.checkLogs ws case with
  | error e => simp [bind, Except.bind]
  | ok logs =>
    cases hf : logs.failure? comparator.policy with
    | some reason => simp [bind, Except.bind, pure, Except.pure, hf]
    | none =>
      cases comparator.checkResults ws case with
      | error e => simp [bind, Except.bind, hf]
      | ok result =>
        cases hp : result.passed <;> simp [bind, Except.bind, pure, Except.pure, hf, hp]

end Comparator

theorem logsAgree_iff {c : Config} {ws : Workspace} {case : TestCase} :
    (∃ logs, (Comparator.ofConfig c).checkLogs ws case = .ok logs ∧
        logs.failure? c.logPolicy = none) ↔
      LogsAgree c.logPolicy ws (case.output.join (.ofText c.logArtifact))
        (case.expected.join (.ofText c.logArtifact)) := by
  simp only [LogsAgree, ← readArtifact?_eq_none_iff, ← readArtifact?_eq_some_iff]
  constructor
  · rintro ⟨logs, hlogs, hpass⟩
    obtain ⟨actual, expected, ha, he, rfl⟩ := Comparator.checkLogs_eq_ok_iff.mp hlogs
    simp only [Comparator.ofConfig] at ha he
    rcases failure?_ofContents_eq_none_iff.mp hpass with
      ⟨rfl, rfl⟩ | ⟨contents, rfl, rfl⟩ | ⟨hpolicy, hsides⟩
    · exact Or.inl ⟨ha, he⟩
    · exact Or.inr (Or.inl ⟨contents, ha, he⟩)
    · refine Or.inr (Or.inr ⟨hpolicy, ?_⟩)
      cases actual with
      | none =>
        cases expected with
        | none => exact absurd rfl hsides
        | some there => exact Or.inl ⟨ha, there, he⟩
      | some there =>
        cases expected with
        | none => exact Or.inr ⟨⟨there, ha⟩, he⟩
        | some other => exact absurd rfl hsides
  · intro h
    have hpair : ∃ actual expected,
        readArtifact? ws (case.output.join (.ofText c.logArtifact)) = .ok actual ∧
        readArtifact? ws (case.expected.join (.ofText c.logArtifact)) = .ok expected ∧
        (LogCheck.ofContents c.logArtifact actual expected).failure? c.logPolicy = none := by
      simp only [failure?_ofContents_eq_none_iff]
      rcases h with ⟨ha, he⟩ | ⟨contents, ha, he⟩ |
        ⟨hpolicy, ⟨ha, there, he⟩ | ⟨⟨there, ha⟩, he⟩⟩
      · exact ⟨none, none, ha, he, Or.inl ⟨rfl, rfl⟩⟩
      · exact ⟨some contents, some contents, ha, he, Or.inr (Or.inl ⟨contents, rfl, rfl⟩)⟩
      · exact ⟨none, some there, ha, he, Or.inr (Or.inr ⟨hpolicy, by simp⟩)⟩
      · exact ⟨some there, none, ha, he, Or.inr (Or.inr ⟨hpolicy, by simp⟩)⟩
    obtain ⟨actual, expected, ha, he, hpass⟩ := hpair
    exact ⟨_, Comparator.checkLogs_eq_ok_iff.mpr ⟨actual, expected, ha, he, rfl⟩, hpass⟩

theorem resultsAgree_iff {c : Config} {ws : Workspace} {case : TestCase} :
    (∃ result, (Comparator.ofConfig c).checkResults ws case = .ok result ∧
        result.passed = true) ↔
      ResultsAgree ws (case.output.join (.ofText c.resultArtifact))
        (case.expected.join (.ofText c.resultArtifact)) := by
  constructor
  · rintro ⟨result, hresult, hpass⟩
    obtain ⟨actual, expected, ha, he, rfl⟩ := Comparator.checkResults_eq_ok_iff.mp hresult
    rw [ArtifactComparison.passed_ofContents_iff] at hpass
    subst hpass
    exact ⟨actual, ha, he⟩
  · rintro ⟨contents, ha, he⟩
    exact ⟨_, Comparator.checkResults_eq_ok_iff.mpr ⟨contents, contents, ha, he, rfl⟩,
      ArtifactComparison.passed_ofContents_iff.mpr rfl⟩

/-- A comparison passes a case exactly when its artifacts agree with its golden files. -/
theorem compareCase_pass_iff_agrees {c : Config} {ws : Workspace} {case : TestCase} :
    (∃ comparison, (Comparator.ofConfig c).compareCase ws case = .ok comparison ∧
        comparison.verdict = .pass) ↔ case.Agrees c ws := by
  rw [Comparator.compareCase_pass_iff, TestCase.Agrees, ← logsAgree_iff, ← resultsAgree_iff]
  exact and_comm

end GoldenSuite
