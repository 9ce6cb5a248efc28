import GoldenSuite.Proofs.Case.Agreement
import GoldenSuite.Proofs.Case.Discovered
import GoldenSuite.Proofs.Suite.Calls
import Mathlib.Data.List.Forall2
import Mathlib.Data.List.Nodup

/-!
# Green runs

A run comes to exit code zero exactly when its configuration is accepted, the simulator is built,
the cases can be listed, and every case directory has a green trial: the simulator ends with exit
code zero, and the artifacts agree in the files as it leaves them.
-/

namespace GoldenSuite.Suite

variable {σ ρ : Type} {toolchain : Toolchain σ} {c : Config}

/-! ### Green trials -/

/-- The simulator ended with exit code zero and left artifacts that agree with the golden files. -/
def Trial.Green (c : Config) (t : Trial σ) : Prop :=
  t.Succeeded ∧ t.case.Agrees c t.reply.workspace

theorem judgement_eq_pass_iff {t : Trial σ} : t.judgement c = .ok .pass ↔ t.Green c := by
  by_cases hs : t.Succeeded
  · have hpass := @compareCase_pass_iff_agrees c t.reply.workspace t.case
    rw [Trial.judgement_of_succeeded hs, Trial.Green, ← hpass]
    cases (Comparator.ofConfig c).compareCase t.reply.workspace t.case with
    | error e => simp
    | ok comparison => simp [hs]
  · have hnot : ¬ t.Green c := fun h => hs h.1
    simp only [hnot, iff_false]
    cases ha : t.reply.answer with
    | error d => simp [Trial.judgement_of_error ha]
    | ok outcome =>
      cases hf : outcome.failure? with
      | none => exact absurd (Trial.succeeded_of_no_failure ha hf) hs
      | some reason => simp [Trial.judgement_of_failure ha hf]

/-- The reports all pass exactly when the trials are all green. -/
theorem reports_pass_iff {ts : List (Trial σ)} :
    (∃ rs, reports c ts = .ok rs ∧ ∀ r ∈ rs, r.verdict = .pass) ↔ ∀ t ∈ ts, t.Green c := by
  constructor
  · rintro ⟨rs, hrs, hpass⟩ t ht
    obtain ⟨r, hr, -, hj⟩ := exists_report_of_trial hrs ht
    rw [hpass r hr] at hj
    exact judgement_eq_pass_iff.mp hj
  · intro hgreen
    refine ⟨ts.map fun t => ⟨t.case.name, .pass⟩, ?_, by simp⟩
    rw [reports_eq_ok_iff, List.map_map]
    refine List.map_congr_left fun t ht => ?_
    rw [judgement_eq_pass_iff.mpr (hgreen t ht)]
    rfl

/-- Every trial has its report, which passes when the trial is green. -/
theorem forall₂_reports {ts : List (Trial σ)} {rs : List CaseReport}
    (h : reports c ts = .ok rs) : List.Forall₂ (fun t r => r.name = t.case.name ∧
      t.judgement c = .ok r.verdict ∧ (r.verdict = .pass ↔ t.Green c)) ts rs := by
  have hpairs : List.Forall₂ (· = ·) (ts.map fun t => (t.case.name, t.judgement c))
      (rs.map fun r => (r.name, .ok r.verdict)) := by
    rw [List.forall₂_eq_eq_eq]
    exact reports_eq_ok_iff.mp h
  refine (List.forall₂_map_left_iff.mp (List.forall₂_map_right_iff.mp hpairs)).imp ?_
  intro t r heq
  have hj : t.judgement c = .ok r.verdict := congrArg Prod.snd heq
  exact ⟨(congrArg Prod.fst heq).symm, hj, by rw [← judgement_eq_pass_iff, hj, Except.ok.injEq]⟩

/-! ### Completed runs -/

theorem exitCode_eq_zero_iff (summary : Summary) :
    summary.exitCode = 0 ↔ ∀ r ∈ summary.cases, r.verdict = .pass := by
  simp only [← Verdict.passed_iff]
  rw [← summary.allPassed_iff, Summary.exitCode]
  cases summary.allPassed <;> simp

theorem exitCode_eq (summary : Summary) :
    summary.exitCode = if ∀ r ∈ summary.cases, r.verdict = .pass then 0 else 1 := by
  have hzero := exitCode_eq_zero_iff summary
  split
  · next hpass => exact hzero.mpr hpass
  · next hfail =>
    have hne : summary.exitCode ≠ 0 := mt hzero.mp hfail
    unfold Summary.exitCode at hne ⊢
    cases hall : summary.allPassed <;> simp_all

theorem exists_trial_of_isCase (toolchain : Toolchain σ) {ws : Workspace} (tools : σ)
    {cases : List TestCase} (hd : Discovery.cases c ws = .ok cases) {entry : String}
    (h : Discovery.IsCase c ws entry) :
    ∃ t ∈ trials toolchain c cases ws tools, t.case = .named c entry := by
  have hmem := (Discovery.mem_cases_iff hd).mpr ⟨entry, h, rfl⟩
  rw [← map_case_trials toolchain c cases ws tools] at hmem
  exact List.mem_map.mp hmem

theorem isCase_of_trial {ws : Workspace} {tools : σ} {cases : List TestCase}
    (hd : Discovery.cases c ws = .ok cases) {t : Trial σ}
    (ht : t ∈ trials toolchain c cases ws tools) :
    ∃ entry, Discovery.IsCase c ws entry ∧ t.case = .named c entry := by
  have hmem := List.mem_map_of_mem (f := fun t : Trial σ => t.case) ht
  rw [map_case_trials] at hmem
  exact (Discovery.mem_cases_iff hd).mp hmem

/-- Each case has one trial only. -/
theorem trial_unique {ws : Workspace} {tools : σ} {cases : List TestCase}
    (hd : Discovery.cases c ws = .ok cases) {t u : Trial σ}
    (ht : t ∈ trials toolchain c cases ws tools) (hu : u ∈ trials toolchain c cases ws tools)
    (h : t.case = u.case) : t = u := by
  have hnodup : ((trials toolchain c cases ws tools).map (·.case)).Nodup := by
    rw [map_case_trials]
    exact Discovery.nodup_cases hd
  exact List.inj_on_of_nodup_map hnodup ht hu h

/-- A run comes to exit code zero exactly when the configuration is accepted, the simulator is
built, the cases can be listed and each case directory has a green trial. A run that comes to a
summary has tried every case directory once, in the order of the names, and has a report on each
trial, which passes when the trial is green. -/
theorem run_exitCode_eq_zero_iff (toolchain : Toolchain σ) (reporter : Reporter ρ) (c : Config)
    (s : State σ ρ) :
    let built := toolchain.build c s.workspace s.tools
    let answer := (Step.perform (run toolchain reporter c) s).1
    ((∃ summary, answer = .ok summary ∧ summary.exitCode = 0) ↔
      c.validate = .ok () ∧ (∃ report, built.answer = .ok report) ∧
      ∃ cases, Discovery.cases c built.workspace = .ok cases ∧
        ∀ entry, Discovery.IsCase c built.workspace entry →
          ∃ t ∈ trials toolchain c cases built.workspace built.state,
            t.case = .named c entry ∧ t.Green c) ∧
    ∀ summary, answer = .ok summary →
      ∃ cases, Discovery.cases c built.workspace = .ok cases ∧
        Discovery.Listed c built.workspace cases ∧
        let ts := trials toolchain c cases built.workspace built.state
        ts.map (·.case) = cases ∧
          List.Forall₂ (fun t r => r.name = t.case.name ∧ t.judgement c = .ok r.verdict ∧
            (r.verdict = .pass ↔ t.Green c)) ts summary.cases := by
  intro built answer
  constructor
  · constructor
    · rintro ⟨summary, hanswer, hexit⟩
      obtain ⟨hv, hb, cases, hd, hr⟩ := (run_eq_ok_iff reporter s).mp hanswer
      refine ⟨hv, ⟨summary.build, hb⟩, cases, hd, fun entry hentry => ?_⟩
      have hgreen := reports_pass_iff.mp
        ⟨summary.cases, hr, (exitCode_eq_zero_iff summary).mp hexit⟩
      obtain ⟨t, ht, hcase⟩ := exists_trial_of_isCase toolchain built.state hd hentry
      exact ⟨t, ht, hcase, hgreen t ht⟩
    · rintro ⟨hv, ⟨report, hb⟩, cases, hd, hall⟩
      have hgreen : ∀ t ∈ trials toolchain c cases built.workspace built.state, t.Green c := by
        intro t ht
        obtain ⟨entry, hentry, hcase⟩ := isCase_of_trial hd ht
        obtain ⟨u, hu, hucase, hugreen⟩ := hall entry hentry
        rw [trial_unique hd ht hu (hcase.trans hucase.symm)]
        exact hugreen
      obtain ⟨rs, hr, hpass⟩ := reports_pass_iff.mpr hgreen
      exact ⟨⟨report, rs⟩, (run_eq_ok_iff reporter s).mpr ⟨hv, hb, cases, hd, hr⟩,
        (exitCode_eq_zero_iff _).mpr hpass⟩
  · intro summary hanswer
    obtain ⟨-, -, cases, hd, hr⟩ := (run_eq_ok_iff reporter s).mp hanswer
    exact ⟨cases, hd, Discovery.listed hd, map_case_trials .., forall₂_reports hr⟩

end GoldenSuite.Suite
