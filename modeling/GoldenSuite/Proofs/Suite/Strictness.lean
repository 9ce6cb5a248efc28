import GoldenSuite.Proofs.Case.Strictness
import GoldenSuite.Proofs.Suite.Green
import GoldenSuite.Proofs.Suite.Order
import GoldenSuite.Proofs.Suite.Repetition

/-!
# A run under both policies

The same suite is run under the lenient and under the strict policy. A toolchain that does not ask
for the policy does the same in both runs, so both come to the same trials. The trials are judged
alike but for those that leave a log on one side only: these fail under the strict policy for the
missing log, whatever their results are.
-/

namespace GoldenSuite

def Config.withPolicy (c : Config) (policy : LogPolicy) : Config :=
  { c with logPolicy := policy }

/-- A toolchain that does the same under every policy. -/
structure Toolchain.IgnoresPolicy {σ : Type} (toolchain : Toolchain σ) : Prop where
  build : ∀ c policy, toolchain.build (c.withPolicy policy) = toolchain.build c
  execute : ∀ c policy, toolchain.execute (c.withPolicy policy) = toolchain.execute c

theorem Toolchain.ignoresPolicy_external (launcher : Child.Launcher) :
    (Toolchain.external launcher).IgnoresPolicy where
  build _ _ := rfl
  execute _ _ := rfl

namespace Suite

variable {σ ρ : Type} {toolchain : Toolchain σ} {c : Config}

/-! ### Judgements -/

/-- After exit code zero, the log of the case is missing on this side and there on the other. -/
def Trial.LacksLog (c : Config) (t : Trial σ) (side : Side) : Prop :=
  t.Succeeded ∧ ((Comparator.ofConfig c).copies t.case).LacksLog t.reply.workspace side

/-- The result of the case on some side is missing or cannot be read. -/
def Trial.LacksResult (c : Config) (t : Trial σ) : Prop :=
  ((Comparator.ofConfig c).copies t.case).LacksResult t.reply.workspace

theorem judgement_strict_of_lacksLog {t : Trial σ} {side : Side} (h : t.LacksLog c side) :
    t.judgement (c.withPolicy .strict) = .ok (.fail (.logMissing side)) := by
  obtain ⟨hsucceeded, hlog⟩ := h
  have hpolicy : (Comparator.ofConfig (c.withPolicy .strict)).policy = .strict := rfl
  obtain ⟨comparison, hanswer, hverdict⟩ :=
    Comparator.compareCase_strict_of_lacksLog hpolicy hlog
  rw [Trial.judgement_of_succeeded hsucceeded, hanswer, ← hverdict]

theorem judgement_lenient_of_lacksLog {t : Trial σ} {side : Side} (h : t.LacksLog c side) :
    (∃ verdict, t.judgement (c.withPolicy .lenient) = .ok verdict ∧
      (verdict = .pass ∨ verdict = .fail .resultMismatch)) ∨
      (∃ d, t.judgement (c.withPolicy .lenient) = .error d) ∧ t.LacksResult c := by
  obtain ⟨hsucceeded, hlog⟩ := h
  have hpolicy : (Comparator.ofConfig (c.withPolicy .lenient)).policy = .lenient := rfl
  have hanswers := Comparator.compareCase_lenient_of_lacksLog hpolicy hlog
  rw [Trial.judgement_of_succeeded hsucceeded]
  rcases hanswers with ⟨comparison, hanswer, hverdict⟩ | ⟨⟨e, hanswer⟩, hresult⟩
  · rw [hanswer]
    exact .inl ⟨comparison.verdict, rfl, hverdict⟩
  · rw [hanswer]
    exact .inr ⟨⟨e.diagnostic, rfl⟩, hresult⟩

theorem judgement_withPolicy {t : Trial σ} (h : ∀ side, ¬ t.LacksLog c side)
    (policy policy' : LogPolicy) :
    t.judgement (c.withPolicy policy) = t.judgement (c.withPolicy policy') := by
  cases hanswer : t.reply.answer with
  | error d => rw [Trial.judgement_of_error hanswer, Trial.judgement_of_error hanswer]
  | ok outcome =>
    cases hfailure : outcome.failure? with
    | some reason =>
      rw [Trial.judgement_of_failure hanswer hfailure, Trial.judgement_of_failure hanswer hfailure]
    | none =>
      have hsucceeded := Trial.succeeded_of_no_failure hanswer hfailure
      have hlogs : ∀ side, ¬ ((Comparator.ofConfig c).copies t.case).LacksLog t.reply.workspace
          side := fun side hlog => h side ⟨hsucceeded, hlog⟩
      have hcompare := Comparator.compareCase_withPolicy hlogs policy policy'
      rw [Trial.judgement_of_succeeded hsucceeded, Trial.judgement_of_succeeded hsucceeded]
      simp only [Comparator.withPolicy, Comparator.ofConfig, Config.withPolicy] at hcompare ⊢
      rw [hcompare]

/-! ### Reports -/

/-- The reports on trials under the lenient policy, and those under the strict one. -/
inductive Hardened (c : Config) : List (Trial σ) → List CaseReport → List CaseReport → Prop
  | nil : Hardened c [] [] []
  /-- A log on one side only fails its case for the missing one. -/
  | missing {t : Trial σ} {side : Side} {verdict : Verdict} {ts : List (Trial σ)}
      {rs rs' : List CaseReport} : t.LacksLog c side →
      verdict = .pass ∨ verdict = .fail .resultMismatch → Hardened c ts rs rs' →
      Hardened c (t :: ts) (⟨t.case.name, verdict⟩ :: rs)
        (⟨t.case.name, .fail (.logMissing side)⟩ :: rs')
  | same {t : Trial σ} {verdict : Verdict} {ts : List (Trial σ)} {rs rs' : List CaseReport} :
      (∀ side, ¬ t.LacksLog c side) → Hardened c ts rs rs' →
      Hardened c (t :: ts) (⟨t.case.name, verdict⟩ :: rs) (⟨t.case.name, verdict⟩ :: rs')

/-- Where all trials are judged under the lenient policy, they are under the strict one. -/
theorem exists_hardened {ts : List (Trial σ)} {rs : List CaseReport}
    (h : reports (c.withPolicy .lenient) ts = .ok rs) :
    ∃ rs', reports (c.withPolicy .strict) ts = .ok rs' ∧ Hardened c ts rs rs' := by
  induction ts generalizing rs with
  | nil =>
    obtain rfl : [] = rs := Except.ok.inj h
    exact ⟨[], rfl, .nil⟩
  | cons t others ih =>
    obtain ⟨verdict, rest, hj, hrest, rfl⟩ := reports_cons_ok h
    obtain ⟨rest', hrest', hhardened⟩ := ih hrest
    by_cases hlog : ∃ side, t.LacksLog c side
    · obtain ⟨side, hside⟩ := hlog
      have hstrict := judgement_strict_of_lacksLog hside
      refine ⟨_, reports_cons_of_ok hstrict hrest', .missing hside ?_ hhardened⟩
      -- The lenient policy has judged this trial, so its results can be read.
      rcases judgement_lenient_of_lacksLog hside with ⟨found, hfound, hkind⟩ | ⟨⟨d, hd⟩, -⟩
      · rw [hj] at hfound
        rwa [Except.ok.inj hfound]
      · rw [hj] at hd
        cases hd
    · have hnone : ∀ side, ¬ t.LacksLog c side := not_exists.mp hlog
      have hstrict := (judgement_withPolicy hnone .strict .lenient).trans hj
      exact ⟨_, reports_cons_of_ok hstrict hrest', .same hnone hhardened⟩

theorem Hardened.pass {ts : List (Trial σ)} {rs rs' : List CaseReport} (h : Hardened c ts rs rs')
    (hpass : ∀ r ∈ rs', r.verdict = .pass) : rs = rs' := by
  induction h with
  | nil => rfl
  | missing _ _ _ _ => exact absurd (hpass _ (List.mem_cons_self ..)) (by simp)
  | same _ _ ih => rw [ih fun r hr => hpass r (List.mem_cons_of_mem _ hr)]

/-- When the strict policy judges a trial and the lenient one does not, a result is missing behind
a missing log. -/
theorem lacksLog_of_strict_only {t : Trial σ} {verdict : Verdict} {d : Halt Diagnostic}
    (hstrict : t.judgement (c.withPolicy .strict) = .ok verdict)
    (hlenient : t.judgement (c.withPolicy .lenient) = .error d) :
    (∃ side, t.LacksLog c side) ∧ t.LacksResult c := by
  have hlog : ∃ side, t.LacksLog c side := by
    by_contra hnone
    rw [judgement_withPolicy (not_exists.mp hnone) .strict .lenient, hlenient] at hstrict
    cases hstrict
  obtain ⟨side, hside⟩ := hlog
  rcases judgement_lenient_of_lacksLog hside with ⟨found, hfound, -⟩ | ⟨-, hresult⟩
  · rw [hlenient] at hfound
    cases hfound
  · exact ⟨⟨side, hside⟩, hresult⟩

theorem reports_pass_withPolicy {ts : List (Trial σ)} {rs : List CaseReport}
    (h : reports (c.withPolicy .strict) ts = .ok rs) (hpass : ∀ r ∈ rs, r.verdict = .pass) :
    reports (c.withPolicy .lenient) ts = .ok rs := by
  rw [reports_eq_ok_iff, ← reports_eq_ok_iff.mp h]
  refine List.map_congr_left fun t ht => ?_
  obtain ⟨r, hr, -, hjudged⟩ := exists_report_of_trial h ht
  rw [hpass r hr] at hjudged
  -- A case with its log on one side does not pass here.
  have hnone : ∀ side, ¬ t.LacksLog c side := by
    intro side hside
    rw [judgement_strict_of_lacksLog hside] at hjudged
    cases hjudged
  rw [judgement_withPolicy hnone .lenient .strict]

theorem Trial.calls_of_error {t : Trial σ} {d : Halt Diagnostic} (h : t.judgement c = .error d) :
    t.calls c = t.begun := by
  simp only [calls, h]

/-! ### The toolchain -/

def Call.asksToolchain : Call → Bool
  | .build | .execute _ => true
  | .caseStarted _ | .compare _ | .caseFinished _ | .runFinished _ => false

/-- The calls that the toolchain gets in a run over trials. -/
def toolchainCalls (ts : List (Trial σ)) : List Call :=
  .build :: ts.map fun t => .execute t.case

theorem filter_asksToolchain_calls (c : Config) (t : Trial σ) :
    (t.calls c).filter Call.asksToolchain = [.execute t.case] := by
  unfold Trial.calls Trial.begun
  split <;> split <;> rfl

theorem filter_asksToolchain_flatMap (c : Config) (ts : List (Trial σ)) :
    (ts.flatMap (Trial.calls c)).filter Call.asksToolchain = ts.map fun t => .execute t.case := by
  induction ts with
  | nil => rfl
  | cons t others ih =>
    rw [List.flatMap_cons, List.filter_append, filter_asksToolchain_calls, ih]
    rfl

/-- What becomes of the files and of the toolchain is up to the calls that it gets. -/
theorem foldl_act_filter (toolchain : Toolchain σ) (reporter : Reporter ρ) (c : Config)
    (calls : List Call) (p : Parties σ ρ) :
    let left := calls.foldl (Call.act toolchain reporter c) p
    let left' := (calls.filter Call.asksToolchain).foldl
      (Call.act toolchain silentReporter c) ⟨p.workspace, p.tools, ()⟩
    left.workspace = left'.workspace ∧ left.tools = left'.tools := by
  induction calls generalizing p with
  | nil => exact ⟨rfl, rfl⟩
  | cons call others ih =>
    cases call with
    | build => exact ih _
    | caseStarted case => exact ih _
    | execute case => exact ih _
    | compare case => exact ih _
    | caseFinished report => exact ih _
    | runFinished summary => exact ih _

theorem act_withPolicy (h : toolchain.IgnoresPolicy) (reporter : Reporter ρ) (c : Config)
    (policy : LogPolicy) :
    Call.act toolchain reporter (c.withPolicy policy) = Call.act toolchain reporter c := by
  funext p call
  cases call with
  | build => simp only [Call.act, h.build]
  | execute case => simp only [Call.act, h.execute]
  | caseStarted case => rfl
  | compare case => rfl
  | caseFinished report => rfl
  | runFinished summary => rfl

/-- The same calls of the toolchain leave the same files behind and the toolchain in the same
state, under any policies. -/
theorem Made.left_eq_withPolicy (h : toolchain.IgnoresPolicy) {reporter : Reporter ρ}
    {policy policy' : LogPolicy} {calls calls' : List Call} {s left left' : State σ ρ}
    (hmade : Made toolchain reporter (c.withPolicy policy) calls s left)
    (hmade' : Made toolchain reporter (c.withPolicy policy') calls' s left')
    (hcalls : calls.filter Call.asksToolchain = calls'.filter Call.asksToolchain) :
    left.workspace = left'.workspace ∧ left.tools = left'.tools := by
  obtain ⟨hworkspace, htools⟩ :=
    foldl_act_filter toolchain reporter (c.withPolicy policy) calls s.parties
  obtain ⟨hworkspace', htools'⟩ :=
    foldl_act_filter toolchain reporter (c.withPolicy policy') calls' s.parties
  rw [← hmade.parties, act_withPolicy h, hcalls] at hworkspace htools
  rw [← hmade'.parties, act_withPolicy h] at hworkspace' htools'
  exact ⟨hworkspace.trans hworkspace'.symm, htools.trans htools'.symm⟩

/-! ### Both runs -/

theorem casesAmong_withPolicy (c : Config) (policy : LogPolicy) (ws : Workspace)
    (names : List String) :
    Discovery.casesAmong (c.withPolicy policy) ws names = Discovery.casesAmong c ws names := by
  induction names with
  | nil => rfl
  | cons name others ih =>
    rw [Discovery.casesAmong_cons, Discovery.casesAmong_cons, ih]
    rfl

theorem cases_withPolicy (c : Config) (policy : LogPolicy) (ws : Workspace) :
    Discovery.cases (c.withPolicy policy) ws = Discovery.cases c ws := by
  have hroot : (c.withPolicy policy).testsRoot = c.testsRoot := rfl
  cases hlist : ws.list c.testsRoot with
  | error fault =>
    rw [Discovery.cases_of_unlisted hlist, Discovery.cases_of_unlisted (hroot ▸ hlist), hroot]
  | ok listed =>
    rw [Discovery.cases_of_listed hlist, Discovery.cases_of_listed (hroot ▸ hlist),
      casesAmong_withPolicy]

theorem trials_withPolicy (h : toolchain.IgnoresPolicy) (c : Config) (policy : LogPolicy)
    (cases : List TestCase) (ws : Workspace) (tools : σ) :
    trials toolchain (c.withPolicy policy) cases ws tools =
      trials toolchain c cases ws tools := by
  induction cases generalizing ws tools with
  | nil => rfl
  | cons case others ih =>
    rw [trials_cons, trials_cons, h.execute]
    exact congrArg _ (ih _ _)

theorem validate_withPolicy (c : Config) (policy : LogPolicy) :
    (c.withPolicy policy).validate = c.validate := rfl

/-- What it takes for a run under a policy to come to a summary, in terms of trials that the policy
has no part in. -/
theorem run_withPolicy_eq_ok_iff (h : toolchain.IgnoresPolicy) (reporter : Reporter ρ)
    (policy : LogPolicy) (s : State σ ρ) {summary : Summary} :
    let built := toolchain.build c s.workspace s.tools
    (Step.perform (run toolchain reporter (c.withPolicy policy)) s).1 = .ok summary ↔
      c.validate = .ok () ∧ built.answer = .ok summary.build ∧
      ∃ cases, Discovery.cases c built.workspace = .ok cases ∧
        reports (c.withPolicy policy) (trials toolchain c cases built.workspace built.state) =
          .ok summary.cases := by
  intro built
  refine (run_eq_ok_iff reporter s).trans ?_
  simp only [h.build, validate_withPolicy, cases_withPolicy, trials_withPolicy h, built]

theorem perform_run_withPolicy (h : toolchain.IgnoresPolicy) (reporter : Reporter ρ)
    (policy : LogPolicy) {s : State σ ρ} {report : BuildReport} {cases : List TestCase}
    (hv : c.validate = .ok ())
    (hb : (toolchain.build c s.workspace s.tools).answer = .ok report)
    (hd : Discovery.cases c (toolchain.build c s.workspace s.tools).workspace = .ok cases) :
    let built := toolchain.build c s.workspace s.tools
    let ts := trials toolchain c cases built.workspace built.state
    let done := Step.perform (run toolchain reporter (c.withPolicy policy)) s
    match reports (c.withPolicy policy) ts with
    | .ok rs =>
      done.1 = .ok ⟨report, rs⟩ ∧
        Made toolchain reporter (c.withPolicy policy)
          (.build :: ts.flatMap (Trial.calls (c.withPolicy policy)) ++
            [.runFinished ⟨report, rs⟩]) s done.2
    | .error d =>
      done.1 = .error d ∧
        Made toolchain reporter (c.withPolicy policy)
          (.build :: (reached (c.withPolicy policy) ts).flatMap
            (Trial.calls (c.withPolicy policy))) s done.2 := by
  have hrun := perform_run_of_discovered reporter (c := c.withPolicy policy)
    ((validate_withPolicy c policy).trans hv) s (by rw [h.build, hb])
    (by rw [h.build, cases_withPolicy, hd])
  simp only [h.build, trials_withPolicy h] at hrun
  exact hrun

/-- The calls of a run that comes to its summary, under either policy. -/
theorem made_withPolicy (h : toolchain.IgnoresPolicy) (reporter : Reporter ρ) (policy : LogPolicy)
    {s : State σ ρ} {summary : Summary} {cases : List TestCase}
    (hrun : (Step.perform (run toolchain reporter (c.withPolicy policy)) s).1 = .ok summary)
    (hd : Discovery.cases c (toolchain.build c s.workspace s.tools).workspace = .ok cases) :
    let built := toolchain.build c s.workspace s.tools
    let ts := trials toolchain c cases built.workspace built.state
    ∃ calls, Made toolchain reporter (c.withPolicy policy) calls s
        (Step.perform (run toolchain reporter (c.withPolicy policy)) s).2 ∧
      calls.map Call.event = plan ts ∧ calls.filter Call.asksToolchain = toolchainCalls ts := by
  intro built ts
  obtain ⟨hv, hb, cases', hd', hr⟩ := (run_withPolicy_eq_ok_iff h reporter policy s).mp hrun
  obtain rfl := Except.ok.inj (hd.symm.trans hd')
  have hmade := perform_run_withPolicy h reporter policy hv hb hd
  dsimp only at hmade
  rw [hr] at hmade
  have hjudged : ∀ t ∈ ts, ∃ verdict, t.judgement (c.withPolicy policy) = .ok verdict := by
    intro t ht
    obtain ⟨r, -, -, hverdict⟩ := exists_report_of_trial hr ht
    exact ⟨r.verdict, hverdict⟩
  refine ⟨_, hmade.2, ?_, ?_⟩
  · rw [List.map_append, List.map_cons, flatMap_calls_eq_plan hjudged]
    rfl
  · rw [List.cons_append, List.filter_cons_of_pos rfl, List.filter_append,
      filter_asksToolchain_flatMap, List.filter_cons_of_neg (by simp [Call.asksToolchain]),
      List.filter_nil, List.append_nil]
    rfl

/-- Two runs, one under each policy, that make the same calls in the same order, call the toolchain
for the same trials, and leave the same behind. -/
structure InStep (toolchain : Toolchain σ) (reporter : Reporter ρ) (c : Config)
    (ts : List (Trial σ)) (s lenient strict : State σ ρ) : Prop where
  calls : ∃ calls calls', Made toolchain reporter (c.withPolicy .lenient) calls s lenient ∧
    Made toolchain reporter (c.withPolicy .strict) calls' s strict ∧
    calls.filter Call.asksToolchain = toolchainCalls ts ∧
    calls'.filter Call.asksToolchain = toolchainCalls ts
  events_eq : strict.events = lenient.events
  workspace_eq : strict.workspace = lenient.workspace
  tools_eq : strict.tools = lenient.tools

theorem inStep_of_ok (h : toolchain.IgnoresPolicy) (reporter : Reporter ρ) {s : State σ ρ}
    {summary summary' : Summary} {cases : List TestCase}
    (hlenient : (Step.perform (run toolchain reporter (c.withPolicy .lenient)) s).1 = .ok summary)
    (hstrict : (Step.perform (run toolchain reporter (c.withPolicy .strict)) s).1 = .ok summary')
    (hd : Discovery.cases c (toolchain.build c s.workspace s.tools).workspace = .ok cases) :
    let built := toolchain.build c s.workspace s.tools
    InStep toolchain reporter c (trials toolchain c cases built.workspace built.state) s
      (Step.perform (run toolchain reporter (c.withPolicy .lenient)) s).2
      (Step.perform (run toolchain reporter (c.withPolicy .strict)) s).2 := by
  intro built
  obtain ⟨calls, hmade, hevents, hcalls⟩ := made_withPolicy h reporter .lenient hlenient hd
  obtain ⟨calls', hmade', hevents', hcalls'⟩ := made_withPolicy h reporter .strict hstrict hd
  obtain ⟨hworkspace, htools⟩ := hmade'.left_eq_withPolicy h hmade (hcalls'.trans hcalls.symm)
  refine ⟨⟨calls, calls', hmade, hmade', hcalls, hcalls'⟩, ?_, hworkspace, htools⟩
  rw [hmade.events, hmade'.events, hevents, hevents']

theorem Hardened.exitCode {ts : List (Trial σ)} {summary summary' : Summary}
    (h : Hardened c ts summary.cases summary'.cases) (hcode : summary.exitCode = 1) :
    summary'.exitCode = 1 := by
  rw [exitCode_eq] at hcode ⊢
  have hfail : ¬ ∀ r ∈ summary'.cases, r.verdict = .pass := by
    intro hpass
    rw [← h.pass hpass] at hpass
    rw [if_pos hpass] at hcode
    cases hcode
  rw [if_neg hfail]

/-- Between a run under the lenient policy and one under the strict policy, from the same start and
with a toolchain that does the same under both. When the lenient run comes to its summary, so does
the strict one, after the same calls and with the same files left; its verdicts are the same but for
the cases that leave a log on one side only, which turn from a pass or a failure for the results
into a failure for the missing log, so exit code one stays exit code one. When the strict run passes
every case, the lenient run has the same summary. When only the strict run comes to a summary, the
lenient run stops at a case that leaves a log on one side only and whose result is missing or cannot
be read on some side. -/
theorem run_strict_hardens (h : toolchain.IgnoresPolicy) (reporter : Reporter ρ) (c : Config)
    (s : State σ ρ) :
    let built := toolchain.build c s.workspace s.tools
    let lenient := Step.perform (run toolchain reporter (c.withPolicy .lenient)) s
    let strict := Step.perform (run toolchain reporter (c.withPolicy .strict)) s
    (∀ summary, lenient.1 = .ok summary → ∃ summary' cases,
      strict.1 = .ok summary' ∧ summary'.build = summary.build ∧
      Discovery.cases c built.workspace = .ok cases ∧
      let ts := trials toolchain c cases built.workspace built.state
      Hardened c ts summary.cases summary'.cases ∧
        InStep toolchain reporter c ts s lenient.2 strict.2 ∧
        (summary.exitCode = 1 → summary'.exitCode = 1)) ∧
    (∀ summary, strict.1 = .ok summary → (∀ r ∈ summary.cases, r.verdict = .pass) →
      lenient.1 = .ok summary) ∧
    ∀ summary d, strict.1 = .ok summary → lenient.1 = .error d → ∃ cases before t after,
      Discovery.cases c built.workspace = .ok cases ∧
      trials toolchain c cases built.workspace built.state = before ++ t :: after ∧
      (∀ x ∈ before, ∃ verdict, x.judgement (c.withPolicy .lenient) = .ok verdict) ∧
      t.judgement (c.withPolicy .lenient) = .error d ∧
      Made toolchain reporter (c.withPolicy .lenient)
        (.build :: before.flatMap (Trial.calls (c.withPolicy .lenient)) ++ t.begun) s lenient.2 ∧
      (∃ side, t.LacksLog c side) ∧ t.LacksResult c := by
  intro built lenient strict
  refine ⟨?_, ?_, ?_⟩
  · intro summary hlenient
    obtain ⟨hv, hb, cases, hd, hr⟩ :=
      (run_withPolicy_eq_ok_iff h reporter .lenient s).mp hlenient
    obtain ⟨rs, hr', hhardened⟩ := exists_hardened hr
    have hstrict : strict.1 = .ok ⟨summary.build, rs⟩ :=
      (run_withPolicy_eq_ok_iff h reporter .strict s).mpr ⟨hv, hb, cases, hd, hr'⟩
    exact ⟨_, cases, hstrict, rfl, hd, hhardened, inStep_of_ok h reporter hlenient hstrict hd,
      hhardened.exitCode⟩
  · intro summary hstrict hpass
    obtain ⟨hv, hb, cases, hd, hr⟩ := (run_withPolicy_eq_ok_iff h reporter .strict s).mp hstrict
    exact (run_withPolicy_eq_ok_iff h reporter .lenient s).mpr
      ⟨hv, hb, cases, hd, reports_pass_withPolicy hr hpass⟩
  · intro summary d hstrict hlenient
    obtain ⟨hv, hb, cases, hd, hr⟩ := (run_withPolicy_eq_ok_iff h reporter .strict s).mp hstrict
    have hrun := perform_run_withPolicy h reporter .lenient hv hb hd
    dsimp only at hrun
    split at hrun
    · exact absurd (hrun.1.symm.trans hlenient) (by simp)
    · next d' hstop =>
      obtain ⟨hanswer, hmade⟩ := hrun
      obtain rfl : d' = d := Except.error.inj (hanswer.symm.trans hlenient)
      obtain ⟨before, t, after, hts, hbefore, ht⟩ := reports_eq_error_iff.mp hstop
      rw [hts, reached_of_stop after hbefore ht, List.flatMap_append, List.flatMap_singleton,
        Trial.calls_of_error ht] at hmade
      -- The strict run has judged that trial too.
      obtain ⟨r, -, -, hjudged⟩ := exists_report_of_trial hr (t := t) (by simp [hts])
      obtain ⟨hlog, hresult⟩ := lacksLog_of_strict_only hjudged ht
      exact ⟨cases, before, t, after, hd, hts, hbefore, ht, hmade, hlog, hresult⟩

/-! ### A golden log and no other -/

theorem ignoresPolicy_resultWriter (build : FileTree → FileTree) (contents : Bytes) :
    (resultWriter build contents).IgnoresPolicy where
  build _ _ := rfl
  execute _ _ := rfl

/-- Of two cases one has a golden log. -/
def loggedCases : FileTree where
  entries :=
    [(["t"], .directory), (["t", "a"], .directory), (["t", "a", "exp"], .directory),
      (["t", "a", "exp", "log.txt"], .file [7]), (["t", "a", "exp", "result.txt"], .file [1]),
      (["t", "b"], .directory), (["t", "b", "exp"], .directory),
      (["t", "b", "exp", "result.txt"], .file [1])]
  distinct := by decide
  rooted := by decide
  parented := by decide
  named := by decide

/-- The one case has a golden log and no golden result. -/
def logOnly : FileTree where
  entries :=
    [(["t"], .directory), (["t", "a"], .directory), (["t", "a", "exp"], .directory),
      (["t", "a", "exp", "log.txt"], .file [7])]
  distinct := by decide
  rooted := by decide
  parented := by decide
  named := by decide

theorem golden_log_hardens :
    let runOn (tree : FileTree) (policy : LogPolicy) :=
      Step.perform (run (resultWriter id [1]) silentReporter (plainConfig.withPolicy policy))
        ({ workspace := ⟨tree, []⟩, tools := (), audience := () } : State Unit Unit)
    ((runOn loggedCases .lenient).1 = .ok ⟨⟨0, plainConfig.buildRoot⟩,
        [⟨"a", .pass⟩, ⟨"b", .pass⟩]⟩ ∧
      (runOn loggedCases .strict).1 = .ok ⟨⟨0, plainConfig.buildRoot⟩,
        [⟨"a", .fail (.logMissing .actual)⟩, ⟨"b", .pass⟩]⟩ ∧
      (runOn loggedCases .strict).2.workspace = (runOn loggedCases .lenient).2.workspace) ∧
    (runOn logOnly .strict).1 = .ok ⟨⟨0, plainConfig.buildRoot⟩,
        [⟨"a", .fail (.logMissing .actual)⟩]⟩ ∧
      ∃ d, (runOn logOnly .lenient).1 = .error d ∧ ∃ t : Trial Unit,
        t.judgement (plainConfig.withPolicy .lenient) = .error d ∧
          (∃ side, t.LacksLog plainConfig side) ∧ t.LacksResult plainConfig := by
  intro runOn
  have hignores := ignoresPolicy_resultWriter id [1]
  have hsides := run_strict_hardens hignores silentReporter plainConfig
  constructor
  · have hlist : (Workspace.mk loggedCases []).list plainConfig.testsRoot =
        .ok (["t"], ["a", "b"]) :=
      eq_ok_of_toOption (by decide +kernel)
    have hfound : Discovery.casesAmong plainConfig ⟨loggedCases, []⟩ ["a", "b"] =
        .ok [.named plainConfig "a", .named plainConfig "b"] :=
      eq_ok_of_toOption (by decide +kernel)
    have hcases := Discovery.cases_of_sorted hlist hfound (by decide +kernel)
    have hreports : ∀ policy rs, (reports (plainConfig.withPolicy policy)
        (trials (resultWriter id [1]) plainConfig
          [.named plainConfig "a", .named plainConfig "b"] ⟨loggedCases, []⟩ ())).toOption =
          some rs →
        (runOn loggedCases policy).1 = .ok ⟨⟨0, plainConfig.buildRoot⟩, rs⟩ := by
      intro policy rs hrs
      exact (run_withPolicy_eq_ok_iff hignores silentReporter policy _).mpr
        ⟨plainConfig_accepted, rfl, _, hcases, eq_ok_of_toOption hrs⟩
    have hlenient := hreports .lenient [⟨"a", .pass⟩, ⟨"b", .pass⟩] (by decide +kernel)
    obtain ⟨summary', cases, -, -, -, -, hstep, -⟩ := (hsides _).1 _ hlenient
    refine ⟨hlenient, hreports .strict _ (by decide +kernel), ?_⟩
    dsimp only [runOn]
    exact hstep.workspace_eq
  · have hstrict : (runOn logOnly .strict).1 = .ok ⟨⟨0, plainConfig.buildRoot⟩,
        [⟨"a", .fail (.logMissing .actual)⟩]⟩ :=
      eq_ok_of_toOption (by decide +kernel)
    obtain ⟨d, hlenient⟩ : ∃ d, (runOn logOnly .lenient).1 = .error d :=
      exists_error_of_toOption (by decide +kernel)
    obtain ⟨cases, before, t, after, -, -, -, ht, -, hlog, hresult⟩ :=
      (hsides _).2.2 _ d hstrict hlenient
    exact ⟨hstrict, d, hlenient, t, ht, hlog, hresult⟩

end Suite

end GoldenSuite
