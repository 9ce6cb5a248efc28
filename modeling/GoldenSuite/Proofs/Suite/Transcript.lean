import GoldenSuite.Proofs.Suite.Green
import GoldenSuite.Proofs.Suite.Narration
import GoldenSuite.Proofs.Suite.Repetition
import GoldenSuite.Proofs.Verdict.Wording

/-!
# Reading a console back

What a console without colours shows of a run that comes to its summary can be read back: split at
its line feeds, the text falls into one line for each case, the headline of the summary and one
line for each failure, and `transcript` finds in them which cases there were and what kind of
verdict each one got. So no two runs that differ there show the same text, whatever their
simulators have written to their error streams.
-/

namespace GoldenSuite

open Suite

/-! ### Lines -/

namespace Console

theorem toList_printed (lines : List String) :
    (printed lines).toList = ['\n'].intercalate (lines.map String.toList ++ [[]]) := by
  induction lines with
  | nil => rfl
  | cons line others ih =>
    have hhead : (printed (line :: others)).toList =
        line.toList ++ '\n' :: (printed others).toList := by
      simp [printed, String.toList_join]
    have hrest : others.map String.toList ++ [[]] ≠ [] := by simp
    rw [hhead, ih, List.map_cons, List.cons_append, List.intercalate_cons_of_ne_nil hrest]
    simp

/-- Printed lines are what lies between the line feeds, and nothing comes after the last one. -/
theorem splitOn_printed {lines : List String} (h : ∀ line ∈ lines, '\n' ∉ line.toList) :
    (printed lines).toList.splitOn '\n' = lines.map String.toList ++ [[]] := by
  rw [toList_printed]
  refine List.splitOn_intercalate '\n' (fun line hline => ?_) (by simp)
  rcases List.mem_append.mp hline with hline | hline
  · obtain ⟨shown, hshown, rfl⟩ := List.mem_map.mp hline
    exact h shown hshown
  · rw [List.mem_singleton.mp hline]
    exact List.not_mem_nil

theorem printed_intercalate (line : String) (others : List String) :
    printed ["\n".intercalate (line :: others)] = printed (line :: others) := by
  have hone : ∀ text : String, printed [text] = text ++ "\n" := by simp [printed]
  induction others generalizing line with
  | nil => rw [String.intercalate_singleton]
  | cons second more ih =>
    have hsplit : printed (line :: second :: more) =
        line ++ "\n" ++ printed (second :: more) := by
      simp [printed]
    rw [hone, String.intercalate_cons_cons, hsplit, ← ih, hone, String.append_assoc]

end Console

open Console (printed verdictLine)

/-! ### What is read back -/

/-- The name and the kind of verdict that the line of a case tells. -/
def toldBy (line : List Char) : String × Option Verdict.Kind :=
  let inner := line.drop 1
  (String.ofList (inner.takeWhile (· ≠ ']')),
    Verdict.Kind.ofText? ((inner.dropWhile (· ≠ ']')).drop 2))

def opensCase (line : List Char) : Bool :=
  line.head? == some '['

/-- The cases that a console shows, each with the kind of its verdict. -/
def transcript (text : String) : List (String × Option Verdict.Kind) :=
  ((text.toList.splitOn '\n').takeWhile opensCase).map toldBy

theorem toList_verdictLine (report : CaseReport) :
    (verdictLine false report).toList =
      '[' :: (report.name.toList ++ ']' :: ' ' :: report.verdict.text.toList) := by
  have hline : verdictLine false report = "[" ++ report.name ++ "] " ++ report.verdict.text := rfl
  rw [hline]
  simp

theorem toldBy_verdictLine {report : CaseReport} (h : ']' ∉ report.name.toList) :
    toldBy (verdictLine false report).toList = (report.name, some report.verdict.kind) := by
  have hname : ∀ ch ∈ report.name.toList, decide (ch ≠ ']') = true := by
    intro ch hch
    rw [decide_eq_true_iff]
    rintro rfl
    exact h hch
  rw [toList_verdictLine, toldBy, List.drop_succ_cons, List.drop_zero,
    List.takeWhile_append_of_pos hname, List.dropWhile_append_of_pos hname]
  simp [Verdict.ofText?_text]

/-! ### Lines of a summary -/

namespace Summary

variable {s : Summary}

/-- The lines that a console without colours shows of a run with this summary. -/
def consoleLines (s : Summary) : List String :=
  s.cases.map (verdictLine false) ++ s.headline :: s.failedCases.map failureLine

theorem printed_consoleLines (s : Summary) :
    printed (s.cases.map (verdictLine false) ++ [s.text]) = printed s.consoleLines := by
  rw [consoleLines, text, Console.printed_append, Console.printed_append,
    Console.printed_intercalate]

theorem length_consoleLines (s : Summary) :
    s.consoleLines.length = s.total + 1 + s.failedCount := by
  rw [consoleLines, ← s.length_failedCases]
  simp only [List.length_append, List.length_map, List.length_cons, total]
  omega

/-- The names of the cases can be told from what stands around them. -/
def PlainlyNamed (s : Summary) : Prop :=
  ∀ report ∈ s.cases, '\n' ∉ report.name.toList ∧ ']' ∉ report.name.toList

theorem newline_not_mem_headline (s : Summary) : '\n' ∉ s.headline.toList := by
  have htotal := newline_not_mem_repr s.total
  have hpassed := newline_not_mem_repr s.passedCount
  have hfailed := newline_not_mem_repr s.failedCount
  have hline : s.headline = "Summary: " ++ toString s.total ++ " cases (" ++
      toString s.passedCount ++ " passed, " ++ toString s.failedCount ++ " failed)" := by
    unfold headline
    rfl
  rw [hline]
  have h₁ := newline_not_mem_append (s := "Summary: ") (by decide) htotal
  have h₂ := newline_not_mem_append h₁ (t := " cases (") (by decide)
  have h₃ := newline_not_mem_append h₂ hpassed
  have h₄ := newline_not_mem_append h₃ (t := " passed, ") (by decide)
  have h₅ := newline_not_mem_append h₄ hfailed
  exact newline_not_mem_append h₅ (by decide)

theorem opensCase_headline (s : Summary) : opensCase s.headline.toList = false := by
  have hline : ∃ rest, s.headline = "Summary: " ++ rest := by
    refine ⟨toString s.total ++ " cases (" ++ toString s.passedCount ++ " passed, " ++
      toString s.failedCount ++ " failed)", ?_⟩
    unfold headline
    simp only [← String.append_assoc]
    rfl
  obtain ⟨rest, hrest⟩ := hline
  rw [hrest, String.toList_append]
  rfl

theorem newline_not_mem_consoleLines (hnames : s.PlainlyNamed)
    (hbrief : ∀ report ∈ s.cases, '\n' ∉ report.verdict.text.toList) {line : String}
    (h : line ∈ s.consoleLines) : '\n' ∉ line.toList := by
  rcases List.mem_append.mp h with hcase | hrest
  · obtain ⟨report, hreport, rfl⟩ := List.mem_map.mp hcase
    have hname := (hnames report hreport).1
    have htext := hbrief report hreport
    rw [toList_verdictLine]
    simp [hname, htext]
  · rcases List.mem_cons.mp hrest with rfl | hfailure
    · exact s.newline_not_mem_headline
    · obtain ⟨report, hreport, rfl⟩ := List.mem_map.mp hfailure
      have hmem := (List.mem_filter.mp hreport).1
      have hname := (hnames report hmem).1
      have htext := hbrief report hmem
      have hline : failureLine report =
          "  failed: " ++ report.name ++ " (" ++ report.verdict.text ++ ")" := rfl
      rw [hline]
      have h₁ := newline_not_mem_append (s := "  failed: ") (by decide) hname
      have h₂ := newline_not_mem_append h₁ (t := " (") (by decide)
      exact newline_not_mem_append (newline_not_mem_append h₂ htext) (by decide)

/-- Reading the console back gives the names of the cases and the kinds of their verdicts. -/
theorem transcript_consoleLines (hnames : s.PlainlyNamed)
    (hbrief : ∀ report ∈ s.cases, '\n' ∉ report.verdict.text.toList) :
    transcript (printed s.consoleLines) =
      s.cases.map fun report => (report.name, some report.verdict.kind) := by
  have hcases : ∀ line ∈ (s.cases.map (verdictLine false)).map String.toList,
      opensCase line = true := by
    intro line hline
    simp only [List.map_map, List.mem_map, Function.comp_apply] at hline
    obtain ⟨report, -, rfl⟩ := hline
    rw [toList_verdictLine]
    rfl
  rw [transcript, Console.splitOn_printed fun line => newline_not_mem_consoleLines hnames hbrief,
    consoleLines, List.map_append, List.append_assoc, List.takeWhile_append_of_pos hcases,
    List.map_cons, List.cons_append, List.takeWhile_cons_of_neg (by simp [s.opensCase_headline]),
    List.append_nil, List.map_map, List.map_map]
  exact List.map_congr_left fun report hreport => toldBy_verdictLine (hnames report hreport).2

end Summary

/-! ### Runs on a console -/

/-- A run that tells a console without colours comes to this summary, and the console has shown
this text by then. -/
def Suite.Shows (text : String) (summary : Summary) : Prop :=
  ∃ (σ : Type) (toolchain : Toolchain σ) (c : Config) (s : State σ (Console String)),
    let run := Step.perform (run toolchain (Console.reporter .collecting false) c) s
    run.1 = .ok summary ∧ run.2.audience.sink = s.audience.sink ++ text

variable {text : String} {summary : Summary}

theorem Suite.Shows.text_eq (h : Shows text summary) : text = printed summary.consoleLines := by
  obtain ⟨σ, toolchain, c, s, hanswer, hsink⟩ := h
  have hprinted := sink_of_run_ok hanswer
  rw [hsink, summary.printed_consoleLines] at hprinted
  have hchars := congrArg String.toList hprinted
  simp only [String.toList_append, List.append_cancel_left_eq] at hchars
  exact String.toList_inj.mp hchars

theorem Suite.Shows.brief (h : Shows text summary) {report : CaseReport}
    (hreport : report ∈ summary.cases) : '\n' ∉ report.verdict.text.toList := by
  obtain ⟨σ, toolchain, c, s, hanswer, -⟩ := h
  obtain ⟨-, -, cases, -, hreports⟩ := (run_eq_ok_iff _ s).mp hanswer
  obtain ⟨t, -, -, hverdict⟩ := exists_trial_of_report hreports hreport
  exact (Trial.brief_of_judgement hverdict).newline_not_mem_text

/-- The text that a console without colours shows of a run that comes to its summary, with names
of cases that hold neither a line feed nor a closing bracket: one line for each case, the counts of
the cases, of those that passed and of the others, and one line for each of these others, with the
same wording. Runs that show the same text have cases of the same names with verdicts of the same
kinds. -/
theorem Suite.console_text_unambiguous (h : Shows text summary) (hnames : summary.PlainlyNamed) :
    let caseLines := summary.cases.map fun r => s!"[{r.name}] {r.verdict.text}"
    let passing := summary.cases.filter fun r => r.verdict.text = "Test Passed!"
    let others := summary.cases.filter fun r => r.verdict.text ≠ "Test Passed!"
    let failureLines := others.map fun r => s!"  failed: {r.name} ({r.verdict.text})"
    let headline :=
      s!"Summary: {caseLines.length} cases ({passing.length} passed, {others.length} failed)"
    let lines := caseLines ++ headline :: failureLines
    text.toList.splitOn '\n' = lines.map String.toList ++ [[]] ∧
      lines.length = summary.total + 1 + summary.failedCount ∧
      (∀ r ∈ summary.cases, '\n' ∉ r.verdict.text.toList) ∧
      passing.length = summary.passedCount ∧ others = summary.failedCases ∧
      summary.passedCount + summary.failedCount = summary.total ∧
      ∀ summary', Shows text summary' → summary'.PlainlyNamed →
        summary'.cases.map (·.name) = summary.cases.map (·.name) ∧
          summary'.cases.map (·.verdict.kind) = summary.cases.map (·.verdict.kind) := by
  intro caseLines passing others failureLines headline lines
  have hpassing : passing.length = summary.passedCount := by
    rw [Summary.passedCount, List.countP_eq_length_filter]
    congr 1
    refine List.filter_congr fun r _ => ?_
    rw [Bool.eq_iff_iff, decide_eq_true_iff]
    exact Verdict.text_eq_passed_iff
  have hothers : others = summary.failedCases := by
    refine List.filter_congr fun r _ => ?_
    have hiff := @Verdict.text_eq_passed_iff r.verdict
    rw [Bool.eq_iff_iff, decide_eq_true_iff, Ne, hiff]
    simp
  have hlines : lines = summary.consoleLines := by
    have hheadline : headline = summary.headline := by
      have htotal : caseLines.length = summary.total := List.length_map ..
      have hfailed : others.length = summary.failedCount := by
        rw [hothers, summary.length_failedCases]
      simp only [headline, htotal, hpassing, hfailed]
      rfl
    have hfailures : failureLines = summary.failedCases.map Summary.failureLine := by
      simp only [failureLines, hothers]
      rfl
    simp only [lines, hheadline, hfailures]
    rfl
  -- What a simulator wrote comes in verdicts without its line feeds.
  have hbrief : ∀ r ∈ summary.cases, '\n' ∉ r.verdict.text.toList := fun r => h.brief
  refine ⟨?_, ?_, hbrief, hpassing, hothers, summary.passedCount_add_failedCount, ?_⟩
  · rw [hlines, h.text_eq]
    exact Console.splitOn_printed fun line =>
      Summary.newline_not_mem_consoleLines hnames hbrief
  · rw [hlines, summary.length_consoleLines]
  · intro summary' h' hnames'
    -- Both summaries are read back from the one text.
    have hread : summary'.cases.map (fun r => (r.name, some r.verdict.kind)) =
        summary.cases.map fun r => (r.name, some r.verdict.kind) := by
      rw [← Summary.transcript_consoleLines hnames' fun r => h'.brief,
        ← Summary.transcript_consoleLines hnames hbrief, ← h'.text_eq, ← h.text_eq]
    constructor
    · have hfst := congrArg (List.map Prod.fst) hread
      simpa [List.map_map, Function.comp_def] using hfst
    · have hsnd := congrArg (List.map Prod.snd) hread
      simp only [List.map_map, Function.comp_def] at hsnd
      have hsome : ∀ rs : List CaseReport, rs.map (fun r => some r.verdict.kind) =
          (rs.map (·.verdict.kind)).map some := by simp
      rw [hsome, hsome] at hsnd
      exact List.map_injective_iff.mpr (fun _ _ heq => Option.some.inj heq) hsnd

/-! ### A simulator that imitates the console -/

/-- Its simulator fails the case `a` with an error stream that looks like the lines of cases that
passed, and has the other cases write their results. -/
def Suite.imitating : Toolchain Unit :=
  { resultWriter id [1] with
    execute := fun c case ws tools =>
      if case.name = "a" then
        ⟨.ok ⟨.exited 1, "x] Test Passed!\r\n\n[b] Test Passed!\nSummary: 1\n"⟩, ws, tools, []⟩
      else (resultWriter id [1]).execute c case ws tools }

theorem Suite.imitation_told_apart :
    let shown := "[a] Simulator failed (exit code 1): " ++
      "x] Test Passed! | [b] Test Passed! | Summary: 1\n[b] Test Passed!\n" ++
      "Summary: 2 cases (1 passed, 1 failed)\n  failed: a (Simulator failed (exit code 1): " ++
      "x] Test Passed! | [b] Test Passed! | Summary: 1)\n"
    (∃ summary, Shows shown summary) ∧
      ∀ summary, Shows shown summary → summary.PlainlyNamed →
        summary.cases.map (·.name) = ["a", "b"] ∧
          summary.cases.map (·.verdict.kind) = [.simulatorFailed, .pass] := by
  intro shown
  let cases : List CaseReport :=
    [⟨"a", .fail (.simulatorFailed (.exited 1)
      "x] Test Passed! | [b] Test Passed! | Summary: 1")⟩, ⟨"b", .pass⟩]
  let start : State Unit (Console String) :=
    { workspace := twoStart.workspace, tools := (), audience := { sink := "" } }
  have hreports : reports plainConfig (trials imitating plainConfig
      [.named plainConfig "a", .named plainConfig "b"] twoStart.workspace ()) = .ok cases :=
    eq_ok_of_toOption (by decide +kernel)
  have hshows : Shows shown ⟨⟨0, plainConfig.buildRoot⟩, cases⟩ := by
    have hanswer : (Step.perform (run imitating (Console.reporter .collecting false) plainConfig)
        start).1 = .ok ⟨⟨0, plainConfig.buildRoot⟩, cases⟩ :=
      (run_eq_ok_iff (Console.reporter .collecting false) start).mpr
        ⟨plainConfig_accepted, rfl, _, cases_twoStart, hreports⟩
    refine ⟨Unit, imitating, plainConfig, start, hanswer, ?_⟩
    have hprinted : printed (cases.map (verdictLine false) ++
        [(⟨⟨0, plainConfig.buildRoot⟩, cases⟩ : Summary).text]) = shown := by
      decide +kernel
    rw [sink_of_run_ok hanswer, hprinted]
  have hnames : Summary.PlainlyNamed ⟨⟨0, plainConfig.buildRoot⟩, cases⟩ := by
    intro report hreport
    simp only [cases, List.mem_cons, List.not_mem_nil, or_false] at hreport
    rcases hreport with rfl | rfl <;> decide
  refine ⟨⟨_, hshows⟩, fun summary h hplain => ?_⟩
  exact (console_text_unambiguous hshows hnames).2.2.2.2.2.2 summary h hplain

end GoldenSuite
