import GoldenSuite.Suite.Run

/-!
# Trials

A trial is a case that was handed to the toolchain, with the toolchain's reply. What a run makes
of its cases depends on their trials alone: every trial starts on what the one before left, the
reporter and the notes have no part in it, and the first trial that cannot be judged ends the run.
-/

namespace GoldenSuite.Suite

variable {σ : Type}

/-! ### Trials of cases -/

/-- A case that was handed to the toolchain, and the reply. -/
structure Trial (σ : Type) where
  case : TestCase
  reply : Reply σ Child.Outcome

/-- The trials of cases, each on what the one before left behind. -/
def trials (toolchain : Toolchain σ) (c : Config) :
    List TestCase → Workspace → σ → List (Trial σ)
  | [], _, _ => []
  | case :: others, ws, tools =>
    let reply := toolchain.execute c case ws tools
    ⟨case, reply⟩ :: trials toolchain c others reply.workspace reply.state

namespace Trial

/-- The toolchain answered with exit code zero. -/
def Succeeded (t : Trial σ) : Prop :=
  ∃ outcome, t.reply.answer = .ok outcome ∧ outcome.status = .exited 0

instance (t : Trial σ) : Decidable t.Succeeded :=
  match h : t.reply.answer with
  | .error _ => .isFalse fun ⟨_, hok, _⟩ => by simp [h] at hok
  | .ok outcome =>
    decidable_of_iff (outcome.status = .exited 0)
      ⟨fun hs => ⟨outcome, h, hs⟩, fun ⟨_, hok, hs⟩ => by
        rw [h] at hok
        cases hok
        exact hs⟩

/-- What a trial says about its case, or why it cannot say anything. -/
def judgement (c : Config) (t : Trial σ) : Except (Halt Diagnostic) Verdict :=
  match t.reply.answer with
  | .error h => .error h
  | .ok outcome =>
    match outcome.failure? with
    | some reason => .ok (.fail reason)
    | none =>
      match (Comparator.ofConfig c).compareCase t.reply.workspace t.case with
      | .ok comparison => .ok comparison.verdict
      | .error e => .error e.diagnostic

theorem judgement_of_error {c : Config} {t : Trial σ} {d : Halt Diagnostic}
    (h : t.reply.answer = .error d) : t.judgement c = .error d := by
  simp only [judgement, h]

theorem judgement_of_failure {c : Config} {t : Trial σ} {outcome : Child.Outcome}
    {reason : Reason} (h : t.reply.answer = .ok outcome) (hf : outcome.failure? = some reason) :
    t.judgement c = .ok (.fail reason) := by
  simp only [judgement, h, hf]

theorem judgement_of_succeeded {c : Config} {t : Trial σ} (h : t.Succeeded) :
    t.judgement c =
      match (Comparator.ofConfig c).compareCase t.reply.workspace t.case with
      | .ok comparison => .ok comparison.verdict
      | .error e => .error e.diagnostic := by
  obtain ⟨outcome, hok, hexit⟩ := h
  have hf := Child.Outcome.failure?_eq_none_iff.mpr hexit
  simp only [judgement, hok, hf]

theorem not_succeeded_of_error {t : Trial σ} {d : Halt Diagnostic}
    (h : t.reply.answer = .error d) : ¬ t.Succeeded := by
  rintro ⟨outcome, hok, -⟩
  rw [h] at hok
  cases hok

theorem not_succeeded_of_failure {t : Trial σ} {outcome : Child.Outcome} {reason : Reason}
    (h : t.reply.answer = .ok outcome) (hf : outcome.failure? = some reason) :
    ¬ t.Succeeded := by
  rintro ⟨other, hok, hexit⟩
  rw [h] at hok
  cases hok
  rw [Child.Outcome.failure?_eq_none_iff.mpr hexit] at hf
  cases hf

theorem succeeded_of_no_failure {t : Trial σ} {outcome : Child.Outcome}
    (h : t.reply.answer = .ok outcome) (hf : outcome.failure? = none) : t.Succeeded :=
  ⟨outcome, h, Child.Outcome.failure?_eq_none_iff.mp hf⟩

end Trial

theorem trials_cons (toolchain : Toolchain σ) (c : Config) (case : TestCase)
    (others : List TestCase) (ws : Workspace) (tools : σ) :
    trials toolchain c (case :: others) ws tools =
      let reply := toolchain.execute c case ws tools
      ⟨case, reply⟩ :: trials toolchain c others reply.workspace reply.state := rfl

/-- What is built has no part in the trials. -/
theorem trials_congr {toolchain toolchain' : Toolchain σ} {c : Config}
    (h : toolchain.execute c = toolchain'.execute c) (cases : List TestCase) (ws : Workspace)
    (tools : σ) : trials toolchain c cases ws tools = trials toolchain' c cases ws tools := by
  induction cases generalizing ws tools with
  | nil => rfl
  | cons case others ih =>
    rw [trials_cons, trials_cons, h]
    exact congrArg _ (ih _ _)

theorem map_case_trials (toolchain : Toolchain σ) (c : Config) (cases : List TestCase)
    (ws : Workspace) (tools : σ) :
    (trials toolchain c cases ws tools).map (·.case) = cases := by
  induction cases generalizing ws tools with
  | nil => rfl
  | cons case others ih =>
    simp only [trials, List.map_cons]
    rw [ih]

/-- The trials that a run comes to: all up to the first that cannot be judged, and that one. -/
def reached (c : Config) : List (Trial σ) → List (Trial σ)
  | [] => []
  | t :: others =>
    match t.judgement c with
    | .ok _ => t :: reached c others
    | .error _ => [t]

/-- The reports on trials, or why the first that cannot be judged ends the run. -/
def reports (c : Config) : List (Trial σ) → Except (Halt Diagnostic) (List CaseReport)
  | [] => .ok []
  | t :: others =>
    match t.judgement c with
    | .error d => .error d
    | .ok verdict =>
      match reports c others with
      | .error d => .error d
      | .ok rest => .ok (⟨t.case.name, verdict⟩ :: rest)

theorem reports_cons_ok {c : Config} {t : Trial σ} {others : List (Trial σ)}
    {rs : List CaseReport} (h : reports c (t :: others) = .ok rs) :
    ∃ verdict rest, t.judgement c = .ok verdict ∧ reports c others = .ok rest ∧
      rs = ⟨t.case.name, verdict⟩ :: rest := by
  cases hj : t.judgement c with
  | error d => simp [reports, hj] at h
  | ok verdict =>
    cases hr : reports c others with
    | error d => simp [reports, hj, hr] at h
    | ok rest =>
      simp only [reports, hj, hr, Except.ok.injEq] at h
      exact ⟨verdict, rest, rfl, rfl, h.symm⟩

theorem reports_cons_of_ok {c : Config} {t : Trial σ} {others : List (Trial σ)}
    {verdict : Verdict} {rest : List CaseReport} (hj : t.judgement c = .ok verdict)
    (hr : reports c others = .ok rest) :
    reports c (t :: others) = .ok (⟨t.case.name, verdict⟩ :: rest) := by
  simp only [reports, hj, hr]

theorem reports_eq_ok_iff {c : Config} {ts : List (Trial σ)} {rs : List CaseReport} :
    reports c ts = .ok rs ↔
      ts.map (fun t => (t.case.name, t.judgement c)) = rs.map fun r => (r.name, .ok r.verdict) := by
  induction ts generalizing rs with
  | nil => cases rs <;> simp [reports]
  | cons t others ih =>
    cases rs with
    | nil =>
      simp only [reports, List.map_cons, List.map_nil, reduceCtorEq, iff_false]
      cases t.judgement c with
      | error d => simp
      | ok verdict => cases reports c others <;> simp
    | cons r more =>
      simp only [reports, List.map_cons, List.cons.injEq, Prod.mk.injEq, ← ih]
      cases t.judgement c with
      | error d => simp
      | ok verdict =>
        cases reports c others with
        | error d => simp
        | ok rest =>
          simp only [Except.ok.injEq, List.cons.injEq]
          constructor
          · rintro ⟨rfl, rfl⟩
            exact ⟨⟨rfl, rfl⟩, rfl⟩
          · rintro ⟨⟨hname, hverdict⟩, hrest⟩
            rw [hname, hverdict]
            exact ⟨rfl, hrest⟩

theorem exists_trial_of_report {c : Config} {ts : List (Trial σ)} {rs : List CaseReport}
    (h : reports c ts = .ok rs) {r : CaseReport} (hr : r ∈ rs) :
    ∃ t ∈ ts, t.case.name = r.name ∧ t.judgement c = .ok r.verdict := by
  have hmem : (r.name, Except.ok r.verdict) ∈ ts.map fun t => (t.case.name, t.judgement c) := by
    rw [reports_eq_ok_iff.mp h]
    exact List.mem_map_of_mem (f := fun r : CaseReport => (r.name, Except.ok r.verdict)) hr
  obtain ⟨t, ht, heq⟩ := List.mem_map.mp hmem
  exact ⟨t, ht, congrArg Prod.fst heq, congrArg Prod.snd heq⟩

theorem exists_report_of_trial {c : Config} {ts : List (Trial σ)} {rs : List CaseReport}
    (h : reports c ts = .ok rs) {t : Trial σ} (ht : t ∈ ts) :
    ∃ r ∈ rs, t.case.name = r.name ∧ t.judgement c = .ok r.verdict := by
  have hmem := List.mem_map_of_mem (f := fun t => (t.case.name, t.judgement c)) ht
  rw [reports_eq_ok_iff.mp h] at hmem
  obtain ⟨r, hr, heq⟩ := List.mem_map.mp hmem
  exact ⟨r, hr, (congrArg Prod.fst heq).symm, (congrArg Prod.snd heq).symm⟩

theorem reached_of_reports_ok {c : Config} {ts : List (Trial σ)} {rs : List CaseReport}
    (h : reports c ts = .ok rs) : reached c ts = ts := by
  induction ts generalizing rs with
  | nil => rfl
  | cons t others ih =>
    obtain ⟨verdict, rest, hj, hrest, -⟩ := reports_cons_ok h
    simp only [reached, hj, ih hrest]

/-- A run that stops among its cases stops at the first one that cannot be judged. -/
theorem reports_eq_error_iff {c : Config} {ts : List (Trial σ)} {d : Halt Diagnostic} :
    reports c ts = .error d ↔
      ∃ done t rest, ts = done ++ t :: rest ∧ (∀ x ∈ done, ∃ v, x.judgement c = .ok v) ∧
        t.judgement c = .error d := by
  induction ts with
  | nil => simp [reports]
  | cons first others ih =>
    constructor
    · intro h
      cases hj : first.judgement c with
      | error e =>
        simp only [reports, hj, Except.error.injEq] at h
        subst h
        exact ⟨[], first, others, rfl, by simp, hj⟩
      | ok verdict =>
        cases hr : reports c others with
        | ok rest => simp [reports, hj, hr] at h
        | error e =>
          simp only [reports, hj, hr, Except.error.injEq] at h
          subst h
          obtain ⟨done, t, rest, rfl, hdone, ht⟩ := ih.mp hr
          refine ⟨first :: done, t, rest, rfl, ?_, ht⟩
          intro x hx
          rcases List.mem_cons.mp hx with rfl | hx
          · exact ⟨verdict, hj⟩
          · exact hdone x hx
    · rintro ⟨done, t, rest, hsplit, hdone, ht⟩
      cases done with
      | nil =>
        simp only [List.nil_append, List.cons.injEq] at hsplit
        obtain ⟨rfl, rfl⟩ := hsplit
        simp only [reports, ht]
      | cons x more =>
        simp only [List.cons_append, List.cons.injEq] at hsplit
        obtain ⟨rfl, rfl⟩ := hsplit
        obtain ⟨v, hv⟩ := hdone first (List.mem_cons_self ..)
        have hrest : reports c (more ++ t :: rest) = .error d :=
          ih.mpr ⟨more, t, rest, rfl, fun y hy => hdone y (List.mem_cons_of_mem _ hy), ht⟩
        simp only [reports, hv, hrest]

theorem mem_of_mem_reached {c : Config} {ts : List (Trial σ)} {t : Trial σ}
    (h : t ∈ reached c ts) : t ∈ ts := by
  induction ts with
  | nil => simp [reached] at h
  | cons first others ih =>
    unfold reached at h
    split at h
    · rcases List.mem_cons.mp h with rfl | h
      · exact List.mem_cons_self
      · exact List.mem_cons_of_mem _ (ih h)
    · rw [List.mem_singleton.mp h]
      exact List.mem_cons_self

theorem reached_of_stop {c : Config} {done : List (Trial σ)} {t : Trial σ} (rest : List (Trial σ))
    {d : Halt Diagnostic}
    (hdone : ∀ x ∈ done, ∃ v, x.judgement c = .ok v) (ht : t.judgement c = .error d) :
    reached c (done ++ t :: rest) = done ++ [t] := by
  induction done with
  | nil => simp only [List.nil_append, reached, ht]
  | cons first more ih =>
    obtain ⟨v, hv⟩ := hdone first (List.mem_cons_self ..)
    simp only [List.cons_append, reached, hv]
    rw [ih fun x hx => hdone x (List.mem_cons_of_mem _ hx)]

end GoldenSuite.Suite
