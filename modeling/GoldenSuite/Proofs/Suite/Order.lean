import GoldenSuite.Proofs.Case.Discovered
import GoldenSuite.Proofs.Suite.Calls

/-!
# The order of a run

The calls of a run follow one plan: the build, then for every case in the order of the names its
start, its execution, after exit code zero its comparison, and its end, and then the end of the
run. `run_calls` says where a run may leave the plan, and what it answers then.
-/

namespace GoldenSuite.Suite

variable {σ ρ : Type}

/-! ### The plan -/

/-- The planned calls of a trial. -/
def Trial.plan (t : Trial σ) : List Event :=
  [.started t.case.name, .execute t.case.name] ++
    (if t.Succeeded then [.compare t.case.name] else []) ++ [.finished t.case.name]

/-- The planned calls of a run over trials. -/
def plan (ts : List (Trial σ)) : List Event :=
  .build :: ts.flatMap Trial.plan ++ [.runFinished]

theorem map_event_begun (t : Trial σ) :
    t.begun.map Call.event = [.started t.case.name, .execute t.case.name] ++
      (if t.Succeeded then [.compare t.case.name] else []) := by
  unfold Trial.begun
  split <;> rfl

theorem begun_prefix_plan (t : Trial σ) : t.begun.map Call.event <+: t.plan := by
  rw [map_event_begun]
  exact List.prefix_append _ _

theorem map_event_calls {c : Config} {t : Trial σ} {v : Verdict} (h : t.judgement c = .ok v) :
    (t.calls c).map Call.event = t.plan := by
  simp only [Trial.calls, h, List.map_append, map_event_begun]
  rfl

theorem flatMap_calls_eq_plan {c : Config} {ts : List (Trial σ)}
    (h : ∀ t ∈ ts, ∃ v, t.judgement c = .ok v) :
    (ts.flatMap (Trial.calls c)).map Call.event = ts.flatMap Trial.plan := by
  induction ts with
  | nil => rfl
  | cons t others ih =>
    obtain ⟨v, hv⟩ := h t (List.mem_cons_self ..)
    rw [List.flatMap_cons, List.flatMap_cons, List.map_append, map_event_calls hv,
      ih fun x hx => h x (List.mem_cons_of_mem _ hx)]

/-! ### Where a comparison stands -/

theorem exists_of_flatMap_eq {α β : Type} {f : α → List β} {l : List α}
    {before after : List β} {x : β} (h : l.flatMap f = before ++ x :: after) :
    ∃ l₁ a l₂ b₁ b₂, l = l₁ ++ a :: l₂ ∧ f a = b₁ ++ x :: b₂ ∧
      before = l₁.flatMap f ++ b₁ ∧ after = b₂ ++ l₂.flatMap f := by
  induction l generalizing before with
  | nil => simp at h
  | cons first rest ih =>
    rw [List.flatMap_cons, List.append_eq_append_iff] at h
    rcases h with ⟨more, hbefore, hrest⟩ | ⟨more, hfirst, hafter⟩
    · obtain ⟨l₁, a, l₂, b₁, b₂, rfl, ha, hb, hafter⟩ := ih hrest
      refine ⟨first :: l₁, a, l₂, b₁, b₂, rfl, ha, ?_, hafter⟩
      rw [hbefore, hb, List.flatMap_cons, List.append_assoc]
    · cases more with
      | nil =>
        rw [List.nil_append] at hafter
        rw [List.append_nil] at hfirst
        obtain ⟨l₁, a, l₂, b₁, b₂, rfl, ha, hb, hafter⟩ := @ih [] hafter.symm
        refine ⟨first :: l₁, a, l₂, b₁, b₂, rfl, ha, ?_, hafter⟩
        rw [List.flatMap_cons, List.append_assoc, ← hb, List.append_nil, hfirst]
      | cons y more =>
        rw [List.cons_append, List.cons.injEq] at hafter
        obtain ⟨rfl, rfl⟩ := hafter
        exact ⟨[], first, rest, before, more, rfl, hfirst, rfl, rfl⟩

theorem calls_eq_begun_append (c : Config) (t : Trial σ) :
    ∃ rest, t.calls c = t.begun ++ rest ∧ ∀ call ∈ rest, ∃ report, call = .caseFinished report := by
  unfold Trial.calls
  cases t.judgement c with
  | error d => exact ⟨[], by simp, by simp⟩
  | ok v => exact ⟨_, rfl, by simp⟩

/-- Within a trial, a comparison directly follows the execution, which ended with exit code
zero. -/
theorem eq_of_calls_eq {c : Config} {t : Trial σ} {case : TestCase} {before after : List Call}
    (h : t.calls c = before ++ .compare case :: after) :
    t.case = case ∧ t.Succeeded ∧ before = [.caseStarted case, .execute case] ∧
      Call.compare case ∉ after := by
  obtain ⟨rest, hcalls, hrest⟩ := calls_eq_begun_append c t
  have hnot : Call.compare case ∉ rest := by
    intro hmem
    obtain ⟨report, hr⟩ := hrest _ hmem
    cases hr
  rw [hcalls] at h
  by_cases hs : t.Succeeded
  · simp only [Trial.begun, if_pos hs, List.cons_append, List.nil_append] at h
    rcases before with _ | ⟨x, _ | ⟨y, _ | ⟨z, before⟩⟩⟩
    · simp at h
    · simp at h
    · simp only [List.cons_append, List.nil_append, List.cons.injEq, Call.compare.injEq] at h
      obtain ⟨rfl, rfl, rfl, rfl⟩ := h
      exact ⟨rfl, hs, rfl, hnot⟩
    · simp only [List.cons_append, List.cons.injEq] at h
      exact absurd (h.2.2.2 ▸ List.mem_append_right _ (List.mem_cons_self ..)) hnot
  · simp only [Trial.begun, if_neg hs, List.append_nil, List.cons_append, List.nil_append] at h
    rcases before with _ | ⟨x, _ | ⟨y, before⟩⟩
    · simp at h
    · simp at h
    · simp only [List.cons_append, List.cons.injEq] at h
      exact absurd (h.2.2 ▸ List.mem_append_right _ (List.mem_cons_self ..)) hnot

theorem case_of_compare_mem {c : Config} {t : Trial σ} {case : TestCase}
    (h : Call.compare case ∈ t.calls c) : t.case = case := by
  obtain ⟨before, after, hsplit⟩ := List.append_of_mem h
  exact (eq_of_calls_eq hsplit).1

theorem compare_position {c : Config} {ts : List (Trial σ)} {case : TestCase}
    {before after : List Call} (tail : List Call) (hdistinct : (ts.map (·.case)).Nodup)
    (htail : Call.compare case ∉ tail)
    (h : .build :: ts.flatMap (Trial.calls c) ++ tail = before ++ .compare case :: after) :
    (∃ earlier, before = earlier ++ [.caseStarted case, .execute case]) ∧
      (∃ t ∈ ts, t.case = case ∧ t.Succeeded) ∧
      Call.compare case ∉ before ∧ Call.compare case ∉ after := by
  cases before with
  | nil => simp at h
  | cons first before =>
    simp only [List.cons_append, List.cons.injEq] at h
    obtain ⟨rfl, h⟩ := h
    rcases List.append_eq_append_iff.mp h with ⟨more, -, hmore⟩ | ⟨more, hflat, hafter⟩
    · exact absurd (hmore ▸ List.mem_append_right _ (List.mem_cons_self ..)) htail
    · cases more with
      | nil =>
        rw [List.nil_append] at hafter
        exact absurd (hafter ▸ List.mem_cons_self ..) htail
      | cons x more =>
        simp only [List.cons_append, List.cons.injEq] at hafter
        obtain ⟨rfl, rfl⟩ := hafter
        obtain ⟨l₁, t, l₂, b₁, b₂, rfl, ht, rfl, rfl⟩ := exists_of_flatMap_eq hflat
        obtain ⟨rfl, hs, rfl, hb₂⟩ := eq_of_calls_eq ht
        -- No other trial is one of this case.
        have hother : ∀ x ∈ l₁ ++ l₂, Call.compare t.case ∉ x.calls c := by
          intro x hx hmem
          have hcase := case_of_compare_mem hmem
          rw [(List.perm_middle.map _).nodup_iff, List.map_cons, List.nodup_cons] at hdistinct
          exact hdistinct.1 (hcase ▸ List.mem_map_of_mem hx)
        refine ⟨⟨.build :: l₁.flatMap (Trial.calls c), rfl⟩, ⟨t, by simp, rfl, hs⟩, ?_, ?_⟩
        · simp only [List.mem_cons, List.mem_append, List.mem_flatMap, not_or, not_exists, not_and]
          exact ⟨by simp, fun x hx => hother x (List.mem_append_left _ hx), by simp, by simp,
            by simp⟩
        · simp only [List.mem_append, List.mem_flatMap, not_or, not_exists, not_and]
          exact ⟨⟨hb₂, fun x hx => hother x (List.mem_append_right _ hx)⟩, htail⟩

/-! ### Runs over discovered cases -/

/-- How a run goes on once its cases are known: over these trials, with these calls in all, to
this answer. -/
structure Course (c : Config) (ts : List (Trial σ)) (report : BuildReport) (calls : List Call)
    (answer : Except (Halt Diagnostic) Summary) : Prop where
  /-- The calls are planned ones, from the first on. -/
  planned : calls.map Call.event <+: plan ts
  /-- When every case is judged, however it is judged, the run ends with its summary, which the
  reporter is told last and only then. -/
  completed : (∀ t ∈ ts, ∃ verdict, t.judgement c = .ok verdict) →
    ∃ summary : Summary, answer = .ok summary ∧ summary.build = report ∧
      ts.map (fun t => (t.case.name, t.judgement c)) =
        summary.cases.map (fun r => (r.name, .ok r.verdict)) ∧
      calls = .build :: ts.flatMap (Trial.calls c) ++ [.runFinished summary] ∧
      ∀ other, Call.runFinished other ∉ Call.build :: ts.flatMap (Trial.calls c)
  /-- The first case that cannot be judged is the last one that is started, it is not finished,
  and its error is the answer. -/
  stopped : ∀ done t rest d, ts = done ++ t :: rest →
    (∀ x ∈ done, ∃ verdict, x.judgement c = .ok verdict) → t.judgement c = .error d →
    answer = .error d ∧ calls = .build :: done.flatMap (Trial.calls c) ++ t.begun
  /-- A case is compared once at most, right after its own execution ended with exit code zero. -/
  compared : ∀ before case after, calls = before ++ .compare case :: after →
    (∃ earlier, before = earlier ++ [.caseStarted case, .execute case]) ∧
      (∃ t ∈ ts, t.case = case ∧ t.Succeeded) ∧
      Call.compare case ∉ before ∧ Call.compare case ∉ after

theorem runFinished_not_mem {c : Config} {ts : List (Trial σ)} (summary : Summary) :
    Call.runFinished summary ∉ Call.build :: ts.flatMap (Trial.calls c) := by
  simp only [List.mem_cons, List.mem_flatMap, reduceCtorEq, false_or, not_exists, not_and]
  intro t _ hmem
  obtain ⟨rest, hcalls, hrest⟩ := calls_eq_begun_append c t
  rw [hcalls, List.mem_append] at hmem
  rcases hmem with hmem | hmem
  · unfold Trial.begun at hmem
    split at hmem <;> simp at hmem
  · obtain ⟨report, hr⟩ := hrest _ hmem
    cases hr

theorem course_of_completed {c : Config} {ts : List (Trial σ)} {report : BuildReport}
    {rs : List CaseReport} (hdistinct : (ts.map (·.case)).Nodup) (hr : reports c ts = .ok rs) :
    Course c ts report (.build :: ts.flatMap (Trial.calls c) ++ [.runFinished ⟨report, rs⟩])
      (.ok ⟨report, rs⟩) where
  planned := by
    have hall : ∀ t ∈ ts, ∃ v, t.judgement c = .ok v := by
      intro t ht
      obtain ⟨r, -, -, hverdict⟩ := exists_report_of_trial hr ht
      exact ⟨r.verdict, hverdict⟩
    rw [List.map_append, List.map_cons, flatMap_calls_eq_plan hall]
    exact List.prefix_rfl
  completed := fun _ =>
    ⟨⟨report, rs⟩, rfl, rfl, reports_eq_ok_iff.mp hr, rfl, runFinished_not_mem⟩
  stopped := by
    intro done t rest d hsplit hdone ht
    rw [reports_eq_error_iff.mpr ⟨done, t, rest, hsplit, hdone, ht⟩] at hr
    cases hr
  compared := fun before case after h => compare_position _ hdistinct (by simp) h

theorem course_of_stopped {c : Config} {done rest : List (Trial σ)} {t : Trial σ}
    {report : BuildReport} {d : Halt Diagnostic}
    (hdistinct : ((done ++ t :: rest).map (·.case)).Nodup)
    (hdone : ∀ x ∈ done, ∃ verdict, x.judgement c = .ok verdict) (ht : t.judgement c = .error d) :
    Course c (done ++ t :: rest) report
      (.build :: (done ++ [t]).flatMap (Trial.calls c)) (.error d) where
  planned := by
    obtain ⟨more, hmore⟩ := begun_prefix_plan t
    rw [List.map_cons, List.flatMap_append, List.map_append, flatMap_calls_eq_plan hdone]
    simp only [List.flatMap_cons, List.flatMap_nil, List.append_nil, Trial.calls, ht, plan,
      List.flatMap_append, ← hmore, List.cons_append, List.append_assoc]
    exact ⟨more ++ (rest.flatMap Trial.plan ++ [.runFinished]), by simp [Call.event]⟩
  completed := by
    intro hall
    obtain ⟨v, hv⟩ := hall t (by simp)
    rw [ht] at hv
    cases hv
  stopped := by
    intro done' t' rest' d' hsplit hdone' ht'
    -- Both splits are at the first trial without a judgement, so they are the same.
    have hreports := reports_eq_error_iff.mpr ⟨done, t, rest, rfl, hdone, ht⟩
    have hreports' := reports_eq_error_iff.mpr ⟨done', t', rest', hsplit, hdone', ht'⟩
    have hreached := reached_of_stop rest hdone ht
    have hreached' := reached_of_stop rest' hdone' ht'
    rw [hreports, Except.error.injEq] at hreports'
    rw [← hsplit, hreached] at hreached'
    obtain ⟨rfl, ht⟩ := List.append_inj' hreached' rfl
    obtain ⟨rfl, -⟩ := List.cons.inj ht
    refine ⟨by rw [hreports'], ?_⟩
    rw [List.flatMap_append]
    simp only [List.flatMap_cons, List.flatMap_nil, List.append_nil, Trial.calls, ht',
      List.cons_append]
  compared := by
    intro before case after h
    have hprefix : ((done ++ [t]).map (·.case)).Nodup := by
      refine hdistinct.sublist (List.Sublist.map _ ?_)
      exact List.Sublist.append_left (List.Sublist.cons_cons _ (List.nil_sublist _)) _
    obtain ⟨hbefore, ⟨x, hx, hxs⟩, honce⟩ :=
      compare_position [] hprefix (by simp) (by rw [List.append_nil]; exact h)
    refine ⟨hbefore, ⟨x, ?_, hxs⟩, honce⟩
    rcases List.mem_append.mp hx with hx | hx
    · exact List.mem_append_left _ hx
    · rw [List.mem_singleton.mp hx]
      simp

/-- A run that calls and answers what the reports on some trials ask for takes their course. -/
theorem exists_course_of_reports {toolchain : Toolchain σ} {reporter : Reporter ρ} {c : Config}
    {ts : List (Trial σ)} {report : BuildReport} {s left : State σ ρ}
    {answer : Except (Halt Diagnostic) Summary} (hdistinct : (ts.map (·.case)).Nodup)
    (h : match reports c ts with
      | .ok rs =>
        answer = .ok ⟨report, rs⟩ ∧
          Made toolchain reporter c
            (.build :: ts.flatMap (Trial.calls c) ++ [.runFinished ⟨report, rs⟩]) s left
      | .error d =>
        answer = .error d ∧
          Made toolchain reporter c (.build :: (reached c ts).flatMap (Trial.calls c)) s left) :
    ∃ calls, Made toolchain reporter c calls s left ∧ Course c ts report calls answer := by
  cases hr : reports c ts with
  | ok rs =>
    rw [hr] at h
    exact ⟨_, h.2, h.1 ▸ course_of_completed hdistinct hr⟩
  | error d =>
    rw [hr] at h
    obtain ⟨before, t, rest, rfl, hbefore, ht⟩ := reports_eq_error_iff.mp hr
    rw [reached_of_stop rest hbefore ht] at h
    exact ⟨_, h.2, h.1 ▸ course_of_stopped hdistinct hbefore ht⟩

theorem exists_course {toolchain : Toolchain σ} (reporter : Reporter ρ) {c : Config}
    {report : BuildReport} {cases : List TestCase} (hv : c.validate = .ok ()) (s : State σ ρ)
    (hb : (toolchain.build c s.workspace s.tools).answer = .ok report)
    (hd : Discovery.cases c (toolchain.build c s.workspace s.tools).workspace = .ok cases) :
    let built := toolchain.build c s.workspace s.tools
    let done := Step.perform (run toolchain reporter c) s
    ∃ calls, Made toolchain reporter c calls s done.2 ∧
      Course c (trials toolchain c cases built.workspace built.state) report calls done.1 := by
  intro built done
  refine exists_course_of_reports ?_ (perform_run_of_discovered reporter hv s hb hd)
  rw [map_case_trials]
  exact Discovery.nodup_cases hd

/-- The calls of any run, and what it answers: nothing is called under a configuration that is
refused, only the build when it fails or the cases cannot be listed, and otherwise the cases take
their course in increasing order of their names. -/
theorem run_calls (toolchain : Toolchain σ) (reporter : Reporter ρ) (c : Config)
    (s : State σ ρ) :
    let built := toolchain.build c s.workspace s.tools
    let done := Step.perform (run toolchain reporter c) s
    ∃ calls, Made toolchain reporter c calls s done.2 ∧
      (∀ e, c.validate = .error e →
        calls = [] ∧ done = (.error (e.map ConfigError.diagnostic), s)) ∧
      (c.validate = .ok () →
        (∀ d, built.answer = .error d → calls = [.build] ∧ done.1 = .error d) ∧
        (∀ report, built.answer = .ok report →
          (∀ e, Discovery.cases c built.workspace = .error e →
            calls = [.build] ∧ done.1 = .error e.diagnostic) ∧
          (∀ cases, Discovery.cases c built.workspace = .ok cases →
            let ts := trials toolchain c cases built.workspace built.state
            ts.map (·.case) = cases ∧ Discovery.Listed c built.workspace cases ∧
              Course c ts report calls done.1))) := by
  intro built done
  cases hv : c.validate with
  | error e =>
    have hdone : done = (.error (e.map ConfigError.diagnostic), s) :=
      perform_run_of_invalid reporter hv s
    refine ⟨[], by rw [hdone]; exact Made.refl s, ?_, by simp⟩
    intro e' he'
    cases he'
    exact ⟨rfl, hdone⟩
  | ok _ =>
    cases hb : built.answer with
    | error d =>
      obtain ⟨hanswer, hmade⟩ := perform_run_of_unbuilt reporter hv s hb
      refine ⟨[.build], hmade, by simp, fun _ => ⟨?_, by simp⟩⟩
      intro d' hd'
      cases hd'
      exact ⟨rfl, hanswer⟩
    | ok report =>
      cases hd : Discovery.cases c built.workspace with
      | error e =>
        obtain ⟨hanswer, hmade⟩ := perform_run_of_undiscovered reporter hv s hb hd
        refine ⟨[.build], hmade, by simp, fun _ => ⟨by simp, fun _ _ => ⟨?_, by simp⟩⟩⟩
        intro e' he'
        cases he'
        exact ⟨rfl, hanswer⟩
      | ok cases =>
        obtain ⟨calls, hmade, hcourse⟩ := exists_course reporter hv s hb hd
        refine ⟨calls, hmade, by simp, fun _ => ⟨by simp, fun report' hreport => ⟨by simp, ?_⟩⟩⟩
        intro cases' hcases
        cases hreport
        cases hcases
        exact ⟨map_case_trials .., Discovery.listed hd, hcourse⟩

end GoldenSuite.Suite
