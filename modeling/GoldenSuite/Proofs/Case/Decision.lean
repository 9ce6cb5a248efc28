import GoldenSuite.Proofs.Case.Agreement

/-!
# How a comparison is decided

A comparison reads the log on the actual side, then the golden log, then the two results in the
same order, and stops as soon as what it has read decides the case. The comparison is given here
a second time as an inquiry, which says for every answer what is read next, and as a table, which
has one row for every way in which it ends. All three agree on every case and on all files.
-/

namespace GoldenSuite

attribute [local irreducible] Workspace.read

/-! ### Reading a file -/

/-- The file cannot be read, and not because nothing is there. -/
def Workspace.Fails (ws : Workspace) (p : Path) (fault : Fault) : Prop :=
  ws.read p = .error fault ∧ fault ≠ .notFound

/-- What an artifact that may be missing is read as. -/
def Workspace.Gives (ws : Workspace) (p : Path) : Option Bytes → Prop
  | none => ws.Lacks p
  | some contents => ws.Holds p contents

section
variable {ws ws' : Workspace} {p : Path} {fault : Fault} {found : Option Bytes}

theorem Workspace.Holds.gives {contents : Bytes} (h : ws.Holds p contents) :
    ws.Gives p (some contents) := h

theorem Workspace.Lacks.gives (h : ws.Lacks p) : ws.Gives p none := h

theorem readArtifact?_eq_ok_iff : readArtifact? ws p = .ok found ↔ ws.Gives p found := by
  cases found with
  | none => exact readArtifact?_eq_none_iff
  | some contents => exact readArtifact?_eq_some_iff

theorem readArtifact?_of_fails (h : ws.Fails p fault) :
    readArtifact? ws p = .error (.unreadable p fault) := by
  have hread : ws.read p = .error fault := h.1
  unfold readArtifact?
  rw [hread]
  split
  · next heq => cases heq
  · next heq =>
    cases heq
    exact absurd rfl h.2
  · next heq =>
    cases heq
    rfl

/-- A file is missing, is read, or fails to be read. -/
theorem Workspace.reading (ws : Workspace) (p : Path) :
    (∃ found, ws.Gives p found) ∨ ∃ fault, ws.Fails p fault := by
  cases hread : ws.read p with
  | ok contents => exact .inl ⟨some contents, hread⟩
  | error fault =>
    by_cases hmissing : fault = .notFound
    · subst hmissing
      exact .inl ⟨none, hread⟩
    · exact .inr ⟨fault, hread, hmissing⟩

theorem readArtifact?_congr (h : ws'.read p = ws.read p) :
    readArtifact? ws' p = readArtifact? ws p := by
  unfold readArtifact?
  rw [h]

end

/-! ### Inquiries -/

/-- A computation that reads files one after the other: what is read next depends on what has
been read so far. -/
inductive Inquiry (α : Type) where
  | answer (value : α)
  | read (p : Path) (next : Except ComparisonError (Option Bytes) → Inquiry α)

namespace Inquiry

variable {α : Type}

/-- The files that an inquiry reads, in order, and what it answers. -/
def run (ws : Workspace) : Inquiry α → List Path × α
  | answer value => ([], value)
  | read p next =>
    let rest := (next (readArtifact? ws p)).run ws
    (p :: rest.1, rest.2)

/-- An inquiry depends on the files that it reads and on no others. -/
theorem run_congr {ws ws' : Workspace} (inquiry : Inquiry α)
    (h : ∀ p ∈ (inquiry.run ws).1, ws'.read p = ws.read p) :
    inquiry.run ws' = inquiry.run ws := by
  induction inquiry with
  | answer value => rfl
  | read p next ih =>
    have hfirst : ws'.read p = ws.read p := h p (List.mem_cons_self ..)
    have hsame := readArtifact?_congr hfirst
    have hrest := ih (readArtifact? ws p) fun q hq => h q (List.mem_cons_of_mem _ hq)
    simp only [run, hsame, hrest]

/-- Reads an artifact that may be missing, and ends with an error when it cannot be read. -/
def optional (p : Path) (next : Option Bytes → Inquiry (Except ComparisonError α)) :
    Inquiry (Except ComparisonError α) :=
  .read p fun
    | .ok found => next found
    | .error e => .answer (.error e)

/-- Reads an artifact that has to be there. -/
def required (artifact : String) (side : Side) (p : Path)
    (next : Bytes → Inquiry (Except ComparisonError α)) : Inquiry (Except ComparisonError α) :=
  optional p fun
    | some contents => next contents
    | none => .answer (.error (.missing artifact side p))

section
variable {ws : Workspace} {p : Path} {next : Option Bytes → Inquiry (Except ComparisonError α)}

theorem run_optional_of_gives {found : Option Bytes} (h : ws.Gives p found) :
    (optional p next).run ws = (p :: ((next found).run ws).1, ((next found).run ws).2) := by
  have hread := readArtifact?_eq_ok_iff.mpr h
  simp only [optional, run, hread]

theorem run_optional_of_fails {fault : Fault} (h : ws.Fails p fault) :
    (optional p next).run ws = ([p], .error (.unreadable p fault)) := by
  have hread := readArtifact?_of_fails h
  simp only [optional, run, hread]

theorem answer_optional :
    ((optional p next).run ws).2 = readArtifact? ws p >>= fun found => ((next found).run ws).2 := by
  cases hread : readArtifact? ws p with
  | ok found => simp only [optional, run, hread, bind, Except.bind]
  | error e => simp only [optional, run, hread, bind, Except.bind]

theorem answer_required {artifact : String} {side : Side}
    {next : Bytes → Inquiry (Except ComparisonError α)} :
    ((required artifact side p next).run ws).2 =
      readArtifact ws artifact side p >>= fun contents => ((next contents).run ws).2 := by
  rw [required, answer_optional, readArtifact]
  cases readArtifact? ws p with
  | error e => rfl
  | ok found => cases found <;> rfl

end

end Inquiry

/-! ### The comparison as an inquiry -/

/-- The four files of a case that a comparison is about. -/
structure Copies where
  actualLog : Path
  expectedLog : Path
  actualResult : Path
  expectedResult : Path

/-- The log on a side. -/
def Copies.logOn (files : Copies) : Side → Path
  | .actual => files.actualLog
  | .expected => files.expectedLog

/-- The side across. -/
def Side.other : Side → Side
  | .actual => .expected
  | .expected => .actual

namespace Comparator

def copies (comparator : Comparator) (case : TestCase) : Copies where
  actualLog := case.output.join (.ofText comparator.logArtifact)
  expectedLog := case.expected.join (.ofText comparator.logArtifact)
  actualResult := case.output.join (.ofText comparator.resultArtifact)
  expectedResult := case.expected.join (.ofText comparator.resultArtifact)

/-- The part of a comparison that comes after the logs. -/
def inquireResults (comparator : Comparator) (case : TestCase) (logs : LogCheck) :
    Inquiry (Except ComparisonError Comparison) :=
  .required comparator.resultArtifact .actual (comparator.copies case).actualResult fun actual =>
    .required comparator.resultArtifact .expected (comparator.copies case).expectedResult
      fun expected =>
        let result := ArtifactComparison.ofContents comparator.resultArtifact actual expected
        let verdict := if result.passed then Verdict.pass else .fail .resultMismatch
        .answer (.ok ⟨logs.presence, logs.comparison, some result, verdict⟩)

/-- The comparison of a case, read by read. -/
def inquiry (comparator : Comparator) (case : TestCase) :
    Inquiry (Except ComparisonError Comparison) :=
  .optional (comparator.copies case).actualLog fun actual =>
    .optional (comparator.copies case).expectedLog fun expected =>
      let logs := LogCheck.ofContents comparator.logArtifact actual expected
      match logs.failure? comparator.policy with
      | some reason => .answer (.ok ⟨logs.presence, logs.comparison, none, .fail reason⟩)
      | none => comparator.inquireResults case logs

theorem answer_inquireResults (comparator : Comparator) (case : TestCase) (ws : Workspace)
    (logs : LogCheck) :
    ((comparator.inquireResults case logs).run ws).2 =
      (do
        let result ← comparator.checkResults ws case
        let verdict := if result.passed then Verdict.pass else .fail .resultMismatch
        pure ⟨logs.presence, logs.comparison, some result, verdict⟩) := by
  rw [inquireResults, Inquiry.answer_required, checkResults, compareRequired]
  simp only [copies]
  cases readArtifact ws comparator.resultArtifact .actual
      (case.output.join (.ofText comparator.resultArtifact)) with
  | error e => rfl
  | ok actual =>
    simp only [bind, Except.bind]
    rw [Inquiry.answer_required]
    cases readArtifact ws comparator.resultArtifact .expected
        (case.expected.join (.ofText comparator.resultArtifact)) with
    | error e => rfl
    | ok expected => rfl

/-- A comparison answers what its inquiry answers. -/
theorem compareCase_eq_inquiry (comparator : Comparator) (ws : Workspace) (case : TestCase) :
    comparator.compareCase ws case = ((comparator.inquiry case).run ws).2 := by
  rw [inquiry, Inquiry.answer_optional, compareCase, checkLogs]
  simp only [copies]
  cases readArtifact? ws (case.output.join (.ofText comparator.logArtifact)) with
  | error e => rfl
  | ok actual =>
    simp only [bind, Except.bind, pure, Except.pure]
    rw [Inquiry.answer_optional]
    cases readArtifact? ws (case.expected.join (.ofText comparator.logArtifact)) with
    | error e => rfl
    | ok expected =>
      simp only [bind, Except.bind]
      cases (LogCheck.ofContents comparator.logArtifact actual expected).failure?
          comparator.policy with
      | some reason => rfl
      | none => exact (comparator.answer_inquireResults case ws _).symm

/-! ### The table -/

/-- What is made of the logs: on which sides they are, how they compare, and why they fail the
case when they do. -/
inductive LogsDecide (comparator : Comparator) :
    Option Bytes → Option Bytes → Presence → Option ArtifactComparison → Option Reason → Prop
  | neither : LogsDecide comparator none none .neither none none
  | same (contents : Bytes) :
    LogsDecide comparator (some contents) (some contents) .both
      (some (.ofContents comparator.logArtifact contents contents)) none
  | different {actual expected : Bytes} : actual ≠ expected →
    LogsDecide comparator (some actual) (some expected) .both
      (some (.ofContents comparator.logArtifact actual expected)) (some .logMismatch)
  | actualAllowed (actual : Bytes) : comparator.policy = .lenient →
    LogsDecide comparator (some actual) none .actualOnly none none
  | expectedAllowed (expected : Bytes) : comparator.policy = .lenient →
    LogsDecide comparator none (some expected) .expectedOnly none none
  | expectedMissing (actual : Bytes) : comparator.policy = .strict →
    LogsDecide comparator (some actual) none .actualOnly none (some (.logMissing .expected))
  | actualMissing (expected : Bytes) : comparator.policy = .strict →
    LogsDecide comparator none (some expected) .expectedOnly none (some (.logMissing .actual))

/-- The files that are read from the first result on, and how the case is decided by them. -/
inductive ResultsDecide (comparator : Comparator) (ws : Workspace) (files : Copies)
    (presence : Presence) (log : Option ArtifactComparison) :
    List Path → Except ComparisonError Comparison → Prop
  | actualUnreadable {fault : Fault} : ws.Fails files.actualResult fault →
    ResultsDecide comparator ws files presence log [files.actualResult]
      (.error (.unreadable files.actualResult fault))
  | actualMissing : ws.Lacks files.actualResult →
    ResultsDecide comparator ws files presence log [files.actualResult]
      (.error (.missing comparator.resultArtifact .actual files.actualResult))
  | expectedUnreadable {actual : Bytes} {fault : Fault} :
    ws.Holds files.actualResult actual → ws.Fails files.expectedResult fault →
    ResultsDecide comparator ws files presence log [files.actualResult, files.expectedResult]
      (.error (.unreadable files.expectedResult fault))
  | expectedMissing {actual : Bytes} :
    ws.Holds files.actualResult actual → ws.Lacks files.expectedResult →
    ResultsDecide comparator ws files presence log [files.actualResult, files.expectedResult]
      (.error (.missing comparator.resultArtifact .expected files.expectedResult))
  | pass {contents : Bytes} :
    ws.Holds files.actualResult contents → ws.Holds files.expectedResult contents →
    ResultsDecide comparator ws files presence log [files.actualResult, files.expectedResult]
      (.ok ⟨presence, log, some (.ofContents comparator.resultArtifact contents contents), .pass⟩)
  | differ {actual expected : Bytes} :
    ws.Holds files.actualResult actual → ws.Holds files.expectedResult expected →
    actual ≠ expected →
    ResultsDecide comparator ws files presence log [files.actualResult, files.expectedResult]
      (.ok ⟨presence, log, some (.ofContents comparator.resultArtifact actual expected),
        .fail .resultMismatch⟩)

/-- The files that a comparison reads, in order, and how the case is decided by them. -/
inductive Decides (comparator : Comparator) (ws : Workspace) (files : Copies) :
    List Path → Except ComparisonError Comparison → Prop
  | actualLogUnreadable {fault : Fault} : ws.Fails files.actualLog fault →
    Decides comparator ws files [files.actualLog] (.error (.unreadable files.actualLog fault))
  | expectedLogUnreadable {actual : Option Bytes} {fault : Fault} :
    ws.Gives files.actualLog actual → ws.Fails files.expectedLog fault →
    Decides comparator ws files [files.actualLog, files.expectedLog]
      (.error (.unreadable files.expectedLog fault))
  | logs {actual expected : Option Bytes} {presence : Presence}
    {log : Option ArtifactComparison} {reason : Reason} :
    ws.Gives files.actualLog actual → ws.Gives files.expectedLog expected →
    LogsDecide comparator actual expected presence log (some reason) →
    Decides comparator ws files [files.actualLog, files.expectedLog]
      (.ok ⟨presence, log, none, .fail reason⟩)
  | results {actual expected : Option Bytes} {presence : Presence}
    {log : Option ArtifactComparison} {reads : List Path}
    {answer : Except ComparisonError Comparison} :
    ws.Gives files.actualLog actual → ws.Gives files.expectedLog expected →
    LogsDecide comparator actual expected presence log none →
    ResultsDecide comparator ws files presence log reads answer →
    Decides comparator ws files (files.actualLog :: files.expectedLog :: reads) answer

variable {comparator : Comparator} {ws : Workspace} {case : TestCase}
  {actual expected : Option Bytes} {presence : Presence} {log : Option ArtifactComparison}
  {reads : List Path} {answer : Except ComparisonError Comparison}

/-! ### Rows and runs -/

theorem passed_ofContents (artifact : String) (actual expected : Bytes) :
    (ArtifactComparison.ofContents artifact actual expected).passed =
      decide (actual = expected) := by
  rw [Bool.eq_iff_iff, ArtifactComparison.passed_ofContents_iff, decide_eq_true_iff]

/-- The table of the logs has a row for any two of them. -/
theorem logsDecide_ofContents (comparator : Comparator) (actual expected : Option Bytes) :
    LogsDecide comparator actual expected
      (LogCheck.ofContents comparator.logArtifact actual expected).presence
      (LogCheck.ofContents comparator.logArtifact actual expected).comparison
      ((LogCheck.ofContents comparator.logArtifact actual expected).failure?
        comparator.policy) := by
  cases actual with
  | none =>
    cases expected with
    | none => exact .neither
    | some expected =>
      cases hpolicy : comparator.policy with
      | lenient => exact .expectedAllowed expected hpolicy
      | strict => exact .actualMissing expected hpolicy
  | some actual =>
    cases expected with
    | none =>
      cases hpolicy : comparator.policy with
      | lenient => exact .actualAllowed actual hpolicy
      | strict => exact .expectedMissing actual hpolicy
    | some expected =>
      simp only [LogCheck.ofContents, LogCheck.failure?, passed_ofContents]
      by_cases heq : actual = expected
      · subst heq
        rw [decide_eq_true rfl, if_pos rfl]
        exact .same actual
      · rw [decide_eq_false heq, if_neg Bool.false_ne_true]
        exact .different heq

theorem LogsDecide.eq_ofContents {reason : Option Reason}
    (h : LogsDecide comparator actual expected presence log reason) :
    LogCheck.ofContents comparator.logArtifact actual expected = ⟨presence, log⟩ ∧
      (LogCheck.mk presence log).failure? comparator.policy = reason := by
  cases h with
  | neither => exact ⟨rfl, rfl⟩
  | same contents =>
    refine ⟨rfl, ?_⟩
    simp [LogCheck.failure?, passed_ofContents]
  | different hne =>
    refine ⟨rfl, ?_⟩
    simp [LogCheck.failure?, passed_ofContents, hne]
  | actualAllowed _ hpolicy | expectedAllowed _ hpolicy | expectedMissing _ hpolicy
  | actualMissing _ hpolicy =>
    refine ⟨rfl, ?_⟩
    rw [hpolicy]
    rfl

theorem run_required_of_holds {α : Type} {artifact : String} {side : Side} {p : Path}
    {next : Bytes → Inquiry (Except ComparisonError α)} {contents : Bytes}
    (h : ws.Holds p contents) :
    (Inquiry.required artifact side p next).run ws =
      (p :: ((next contents).run ws).1, ((next contents).run ws).2) := by
  rw [Inquiry.required, Inquiry.run_optional_of_gives h.gives]

theorem run_required_of_lacks {α : Type} {artifact : String} {side : Side} {p : Path}
    {next : Bytes → Inquiry (Except ComparisonError α)} (h : ws.Lacks p) :
    (Inquiry.required artifact side p next).run ws =
      ([p], .error (.missing artifact side p)) := by
  rw [Inquiry.required, Inquiry.run_optional_of_gives h.gives]
  rfl

theorem run_required_of_fails {α : Type} {artifact : String} {side : Side} {p : Path}
    {next : Bytes → Inquiry (Except ComparisonError α)} {fault : Fault} (h : ws.Fails p fault) :
    (Inquiry.required artifact side p next).run ws = ([p], .error (.unreadable p fault)) := by
  rw [Inquiry.required, Inquiry.run_optional_of_fails h]

theorem ResultsDecide.run_eq
    (h : ResultsDecide comparator ws (comparator.copies case) presence log reads answer) :
    (comparator.inquireResults case ⟨presence, log⟩).run ws = (reads, answer) := by
  unfold inquireResults
  cases h with
  | actualUnreadable hfails => rw [run_required_of_fails hfails]
  | actualMissing hlacks => rw [run_required_of_lacks hlacks]
  | expectedUnreadable hactual hfails =>
    rw [run_required_of_holds hactual, run_required_of_fails hfails]
  | expectedMissing hactual hlacks =>
    rw [run_required_of_holds hactual, run_required_of_lacks hlacks]
  | pass hactual hexpected =>
    rw [run_required_of_holds hactual, run_required_of_holds hexpected]
    simp [Inquiry.run, passed_ofContents]
  | differ hactual hexpected hne =>
    rw [run_required_of_holds hactual, run_required_of_holds hexpected]
    simp [Inquiry.run, passed_ofContents, hne]

theorem exists_resultsDecide (comparator : Comparator) (ws : Workspace) (files : Copies)
    (presence : Presence) (log : Option ArtifactComparison) :
    ∃ reads answer, ResultsDecide comparator ws files presence log reads answer := by
  rcases ws.reading files.actualResult with ⟨_ | actual, hactual⟩ | ⟨fault, hfails⟩
  · exact ⟨_, _, .actualMissing hactual⟩
  · rcases ws.reading files.expectedResult with ⟨_ | expected, hexpected⟩ | ⟨fault, hfails⟩
    · exact ⟨_, _, .expectedMissing hactual hexpected⟩
    · by_cases heq : actual = expected
      · subst heq
        exact ⟨_, _, .pass hactual hexpected⟩
      · exact ⟨_, _, .differ hactual hexpected heq⟩
    · exact ⟨_, _, .expectedUnreadable hactual hfails⟩
  · exact ⟨_, _, .actualUnreadable hfails⟩

/-- A row of the table says what the comparison reads and answers. -/
theorem Decides.run_eq (h : Decides comparator ws (comparator.copies case) reads answer) :
    (comparator.inquiry case).run ws = (reads, answer) := by
  unfold inquiry
  cases h with
  | actualLogUnreadable hfails => rw [Inquiry.run_optional_of_fails hfails]
  | expectedLogUnreadable hactual hfails =>
    rw [Inquiry.run_optional_of_gives hactual, Inquiry.run_optional_of_fails hfails]
  | logs hactual hexpected hlogs =>
    obtain ⟨hcheck, hreason⟩ := hlogs.eq_ofContents
    rw [Inquiry.run_optional_of_gives hactual, Inquiry.run_optional_of_gives hexpected]
    simp only [hcheck, hreason, Inquiry.run]
  | results hactual hexpected hlogs hresults =>
    obtain ⟨hcheck, hreason⟩ := hlogs.eq_ofContents
    rw [Inquiry.run_optional_of_gives hactual, Inquiry.run_optional_of_gives hexpected]
    simp only [hcheck, hreason, hresults.run_eq]

theorem exists_decides (comparator : Comparator) (ws : Workspace) (files : Copies) :
    ∃ reads answer, Decides comparator ws files reads answer := by
  rcases ws.reading files.actualLog with ⟨actual, hactual⟩ | ⟨fault, hfails⟩
  · rcases ws.reading files.expectedLog with ⟨expected, hexpected⟩ | ⟨fault, hfails⟩
    · have hlogs := logsDecide_ofContents comparator actual expected
      cases hreason : (LogCheck.ofContents comparator.logArtifact actual expected).failure?
          comparator.policy with
      | some reason =>
        rw [hreason] at hlogs
        exact ⟨_, _, .logs hactual hexpected hlogs⟩
      | none =>
        rw [hreason] at hlogs
        obtain ⟨reads, answer, hresults⟩ := exists_resultsDecide comparator ws files _ _
        exact ⟨_, _, .results hactual hexpected hlogs hresults⟩
    · exact ⟨_, _, .expectedLogUnreadable hactual hfails⟩
  · exact ⟨_, _, .actualLogUnreadable hfails⟩

/-- The table has exactly one row for every case and all files: what the comparison reads and
answers. -/
theorem decides_iff_run :
    Decides comparator ws (comparator.copies case) reads answer ↔
      (comparator.inquiry case).run ws = (reads, answer) := by
  constructor
  · exact Decides.run_eq
  · intro h
    obtain ⟨reads', answer', hrow⟩ := exists_decides comparator ws (comparator.copies case)
    have hrun := hrow.run_eq
    rw [h, Prod.mk.injEq] at hrun
    rw [hrun.1, hrun.2]
    exact hrow

/-! ### What an answer tells -/

section
variable {p : Path} {found : Option Bytes}

theorem holds_iff_of_gives (h : ws.Gives p found) {contents : Bytes} :
    ws.Holds p contents ↔ found = some contents := by
  cases found with
  | none =>
    have hread : ws.read p = .error .notFound := h
    simp [Workspace.Holds, hread]
  | some there =>
    have hread : ws.read p = .ok there := h
    simp [Workspace.Holds, hread]

theorem lacks_iff_of_gives (h : ws.Gives p found) : ws.Lacks p ↔ found = none := by
  cases found with
  | none => exact iff_of_true h rfl
  | some there =>
    have hread : ws.read p = .ok there := h
    simp [Workspace.Lacks, hread]

end

namespace LogsDecide

variable {reason : Option Reason}
  (h : LogsDecide comparator actual expected presence log reason)

section
variable {files : Copies} (hactual : ws.Gives files.actualLog actual)
  (hexpected : ws.Gives files.expectedLog expected)
include h hactual hexpected

theorem mismatch_iff : reason = some .logMismatch ↔
    ∃ a e, ws.Holds files.actualLog a ∧ ws.Holds files.expectedLog e ∧ a ≠ e := by
  simp only [holds_iff_of_gives hactual, holds_iff_of_gives hexpected]
  clear hactual hexpected
  cases h <;> simp_all

theorem missing_iff (side : Side) : reason = some (.logMissing side) ↔
    comparator.policy = .strict ∧ ws.Lacks (files.logOn side) ∧
      ∃ contents, ws.Holds (files.logOn side.other) contents := by
  cases side with
  | actual =>
    simp only [Copies.logOn, Side.other, lacks_iff_of_gives hactual, holds_iff_of_gives hexpected]
    clear hactual hexpected
    cases h <;> simp_all
  | expected =>
    simp only [Copies.logOn, Side.other, lacks_iff_of_gives hexpected, holds_iff_of_gives hactual]
    clear hactual hexpected
    cases h <;> simp_all

theorem both_iff : presence = .both ↔
    (∃ a, ws.Holds files.actualLog a) ∧ ∃ e, ws.Holds files.expectedLog e := by
  simp only [holds_iff_of_gives hactual, holds_iff_of_gives hexpected]
  cases h <;> simp

theorem agree_iff :
    LogsAgree comparator.policy ws files.actualLog files.expectedLog ↔ reason = none := by
  simp only [LogsAgree, holds_iff_of_gives hactual, holds_iff_of_gives hexpected,
    lacks_iff_of_gives hactual, lacks_iff_of_gives hexpected]
  cases h with
  | neither | same => simp
  | different hne => simpa [eq_comm] using hne
  | actualAllowed _ hpolicy | expectedAllowed _ hpolicy => simp [hpolicy]
  | expectedMissing _ hpolicy | actualMissing _ hpolicy => simp [hpolicy]

end

include h

theorem log_isSome_iff : log.isSome = true ↔ presence = .both := by
  cases h <;> simp

/-- When the logs fail a case they differ, or one of them is missing. -/
theorem reason_eq {failure : Reason} (hreason : reason = some failure) :
    failure = .logMismatch ∨ ∃ side, failure = .logMissing side := by
  cases h with
  | neither | same | actualAllowed | expectedAllowed => cases hreason
  | different =>
    cases hreason
    exact .inl rfl
  | expectedMissing | actualMissing =>
    cases hreason
    exact .inr ⟨_, rfl⟩

end LogsDecide

/-- What the parts of a comparison that was made say about the files. -/
structure Explained (comparator : Comparator) (ws : Workspace) (files : Copies)
    (comparison : Comparison) : Prop where
  logMismatch_iff : comparison.verdict = .fail .logMismatch ↔
    ∃ actual expected, ws.Holds files.actualLog actual ∧ ws.Holds files.expectedLog expected ∧
      actual ≠ expected
  logMissing_iff : ∀ side, comparison.verdict = .fail (.logMissing side) ↔
    comparator.policy = .strict ∧ ws.Lacks (files.logOn side) ∧
      ∃ contents, ws.Holds (files.logOn side.other) contents
  resultMismatch_iff : comparison.verdict = .fail .resultMismatch ↔
    LogsAgree comparator.policy ws files.actualLog files.expectedLog ∧
      ∃ actual expected, ws.Holds files.actualResult actual ∧
        ws.Holds files.expectedResult expected ∧ actual ≠ expected
  pass_iff : comparison.verdict = .pass ↔
    LogsAgree comparator.policy ws files.actualLog files.expectedLog ∧
      ResultsAgree ws files.actualResult files.expectedResult
  presence_eq_both_iff : comparison.logPresence = .both ↔
    (∃ contents, ws.Holds files.actualLog contents) ∧
      ∃ contents, ws.Holds files.expectedLog contents
  log_isSome_iff : comparison.log.isSome = true ↔ comparison.logPresence = .both
  result_eq_none_iff : comparison.result = none ↔
    comparison.verdict = .fail .logMismatch ∨
      ∃ side, comparison.verdict = .fail (.logMissing side)

theorem Decides.explained {files : Copies} {comparison : Comparison}
    (h : Decides comparator ws files reads (.ok comparison)) :
    Explained comparator ws files comparison := by
  cases h with
  | @logs actual expected presence log reason hactual hexpected hlogs =>
    have hagree := hlogs.agree_iff hactual hexpected
    have hreason := hlogs.reason_eq rfl
    refine ⟨?_, fun side => ?_, ?_, ?_, hlogs.both_iff hactual hexpected, hlogs.log_isSome_iff, ?_⟩
    · simpa using hlogs.mismatch_iff hactual hexpected
    · simpa using hlogs.missing_iff hactual hexpected side
    · rw [hagree]
      rcases hreason with rfl | ⟨side, rfl⟩ <;> simp
    · rw [hagree]
      simp
    · simpa using hreason
  | @results actual expected presence log _ _ hactual hexpected hlogs hresults =>
    have hagree := (hlogs.agree_iff hactual hexpected).mpr rfl
    have hboth := hlogs.both_iff hactual hexpected
    have hmismatch := mt (hlogs.mismatch_iff hactual hexpected).mpr (by simp)
    have hmissing := fun side => mt (hlogs.missing_iff hactual hexpected side).mpr (by simp)
    cases hresults with
    | @pass contents hone hother =>
      have hagrees : ResultsAgree ws files.actualResult files.expectedResult :=
        ⟨contents, hone, hother⟩
      refine ⟨?_, fun side => ?_, ?_, ?_, hboth, hlogs.log_isSome_iff, by simp⟩
      · exact iff_of_false (by simp) hmismatch
      · exact iff_of_false (by simp) (hmissing side)
      · refine iff_of_false (by simp) ?_
        rintro ⟨-, a, e, ha, he, hne⟩
        rw [holds_iff_of_gives hone.gives] at ha
        rw [holds_iff_of_gives hother.gives] at he
        exact hne (Option.some.inj (ha.symm.trans he))
      · exact iff_of_true rfl ⟨hagree, hagrees⟩
    | @differ one other hone hother hne =>
      refine ⟨?_, fun side => ?_, ?_, ?_, hboth, hlogs.log_isSome_iff, by simp⟩
      · exact iff_of_false (by simp) hmismatch
      · exact iff_of_false (by simp) (hmissing side)
      · exact iff_of_true rfl ⟨hagree, one, other, hone, hother, hne⟩
      · refine iff_of_false (by simp) ?_
        rintro ⟨-, contents, ha, he⟩
        rw [holds_iff_of_gives hone.gives] at ha
        rw [holds_iff_of_gives hother.gives] at he
        exact hne (Option.some.inj (ha.trans he.symm))

/-- A comparison is decided by its table: the files that it reads in order and what it answers
are the one row that applies, no other file matters, and an answer without an error says of the
logs and the results what its parts stand for. -/
theorem compareCase_decided (comparator : Comparator) (case : TestCase) (ws : Workspace) :
    ∃ reads answer,
      ((comparator.inquiry case).run ws = (reads, answer) ∧
        comparator.compareCase ws case = answer) ∧
      (∀ reads' answer', Decides comparator ws (comparator.copies case) reads' answer' ↔
        reads' = reads ∧ answer' = answer) ∧
      (∀ ws' : Workspace, (∀ p ∈ reads, ws'.read p = ws.read p) →
        (comparator.inquiry case).run ws' = (reads, answer) ∧
          comparator.compareCase ws' case = answer) ∧
      ∀ comparison, answer = .ok comparison →
        Explained comparator ws (comparator.copies case) comparison := by
  obtain ⟨reads, answer, hrow⟩ := exists_decides comparator ws (comparator.copies case)
  have hrun := hrow.run_eq
  refine ⟨reads, answer, ⟨hrun, ?_⟩, fun reads' answer' => ?_, fun ws' hsame => ?_, ?_⟩
  · rw [compareCase_eq_inquiry, hrun]
  · rw [decides_iff_run, hrun, Prod.mk.injEq]
    exact ⟨fun h => ⟨h.1.symm, h.2.symm⟩, fun h => ⟨h.1.symm, h.2.symm⟩⟩
  · have hagain : (comparator.inquiry case).run ws' = (comparator.inquiry case).run ws := by
      refine Inquiry.run_congr _ ?_
      rw [hrun]
      exact hsame
    rw [compareCase_eq_inquiry, hagain, hrun]
    exact ⟨rfl, rfl⟩
  · intro comparison hanswer
    rw [hanswer] at hrow
    exact hrow.explained

end Comparator

end GoldenSuite
