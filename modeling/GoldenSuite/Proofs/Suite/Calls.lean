import GoldenSuite.Proofs.Suite.Trials

/-!
# The calls of a run

Every call of a run acts on one of its parties. `Made` says that a run came from one state to
another by making certain calls: they are what it has written down, and they alone account for
what became of the files, of the toolchain and of the reporter.
-/

namespace GoldenSuite.Suite

variable {σ ρ α β : Type}

/-! ### Parties and calls -/

/-- A call with what is passed along. -/
inductive Call where
  | build
  | caseStarted (case : TestCase)
  | execute (case : TestCase)
  | compare (case : TestCase)
  | caseFinished (report : CaseReport)
  | runFinished (summary : Summary)
deriving DecidableEq

/-- The call as a run writes it down. -/
def Call.event : Call → Event
  | .build => .build
  | .caseStarted case => .started case.name
  | .execute case => .execute case.name
  | .compare case => .compare case.name
  | .caseFinished report => .finished report.name
  | .runFinished _ => .runFinished

/-- Those whom a run calls: the files, the toolchain and the reporter. -/
structure Parties (σ ρ : Type) where
  workspace : Workspace
  tools : σ
  audience : ρ

/-- The parties of a run. -/
def State.parties (s : State σ ρ) : Parties σ ρ :=
  ⟨s.workspace, s.tools, s.audience⟩

/-- What a call does to the parties. Comparing a case only looks at the files. -/
def Call.act (toolchain : Toolchain σ) (reporter : Reporter ρ) (c : Config)
    (p : Parties σ ρ) : Call → Parties σ ρ
  | .build =>
    let reply := toolchain.build c p.workspace p.tools
    { p with workspace := reply.workspace, tools := reply.state }
  | .caseStarted case => { p with audience := (reporter.caseStarted case p.audience).1 }
  | .execute case =>
    let reply := toolchain.execute c case p.workspace p.tools
    { p with workspace := reply.workspace, tools := reply.state }
  | .compare _ => p
  | .caseFinished report => { p with audience := (reporter.caseFinished report p.audience).1 }
  | .runFinished summary => { p with audience := (reporter.runFinished summary p.audience).1 }

/-- A reporter that says nothing. -/
def silentReporter : Reporter Unit :=
  ⟨fun _ u => (u, []), fun _ u => (u, []), fun _ u => (u, [])⟩

/-- These calls lead from one state of a run to another. -/
structure Made (toolchain : Toolchain σ) (reporter : Reporter ρ) (c : Config)
    (calls : List Call) (s left : State σ ρ) : Prop where
  events : left.events = s.events ++ calls.map Call.event
  parties : left.parties = calls.foldl (Call.act toolchain reporter c) s.parties

/-- The answer of a step and the state that it leaves. -/
def Step.perform (step : Step σ ρ α) (s : State σ ρ) : Except (Halt Diagnostic) α × State σ ρ :=
  match step s with
  | .ok a left => (.ok a, left)
  | .error d left => (.error d, left)

theorem perform_pure (a : α) (s : State σ ρ) :
    Step.perform (pure a : Step σ ρ α) s = (.ok a, s) := rfl

theorem perform_bind (step : Step σ ρ α) (next : α → Step σ ρ β) (s : State σ ρ) :
    Step.perform (step >>= next) s =
      match Step.perform step s with
      | (.ok a, left) => Step.perform (next a) left
      | (.error d, left) => (.error d, left) := by
  simp only [Step.perform, bind, EStateM.bind]
  cases step s <;> rfl

/-! ### What each step does -/

theorem perform_record (event : Event) (s : State σ ρ) :
    Step.perform (record event) s = (.ok (), { s with events := s.events ++ [event] }) := rfl

theorem perform_note (n : Note) (s : State σ ρ) :
    Step.perform (note n) s = (.ok (), { s with notes := s.notes ++ [n] }) := rfl

theorem perform_consult (request : Workspace → σ → Reply σ α) (s : State σ ρ) :
    Step.perform (consult request) s =
      ((request s.workspace s.tools).answer,
        { s with
          workspace := (request s.workspace s.tools).workspace
          tools := (request s.workspace s.tools).state
          notes := s.notes ++ (request s.workspace s.tools).notes }) := by
  simp only [Step.perform, consult]
  cases (request s.workspace s.tools).answer <;> rfl

theorem perform_tell (message : ρ → ρ × List Note) (s : State σ ρ) :
    Step.perform (tell message) s =
      (.ok (), { s with
        audience := (message s.audience).1
        notes := s.notes ++ (message s.audience).2 }) := rfl

theorem perform_ask {ε : Type} (diagnose : ε → Halt Diagnostic) (remarks : Workspace → List Note)
    (question : Workspace → Except ε α) (s : State σ ρ) :
    Step.perform (ask diagnose remarks question) s =
      ((question s.workspace).mapError diagnose,
        { s with notes := s.notes ++ remarks s.workspace }) := by
  simp only [Step.perform, ask]
  cases question s.workspace <;> rfl

theorem perform_during (case : TestCase) (step : Step σ ρ α) (s : State σ ρ) :
    Step.perform (during case step) s =
      let (answer, left) := Step.perform step { s with notes := [] }
      (answer, { left with notes := s.notes ++ left.notes.map (Note.during case.name) }) := by
  simp only [Step.perform, during]
  cases step { s with notes := [] } <;> rfl

/-! ### Making calls -/

section
variable {toolchain : Toolchain σ} {reporter : Reporter ρ} {c : Config}

theorem Made.refl (s : State σ ρ) : Made toolchain reporter c [] s s :=
  ⟨by simp, rfl⟩

theorem Made.trans {first second : List Call} {s mid left : State σ ρ}
    (h₁ : Made toolchain reporter c first s mid)
    (h₂ : Made toolchain reporter c second mid left) :
    Made toolchain reporter c (first ++ second) s left where
  events := by rw [h₂.events, h₁.events, List.map_append, List.append_assoc]
  parties := by rw [h₂.parties, h₁.parties, List.foldl_append]

/-! ### The calls of a case -/

/-- The calls of a trial up to its judgement. -/
def Trial.begun (t : Trial σ) : List Call :=
  [.caseStarted t.case, .execute t.case] ++ if t.Succeeded then [.compare t.case] else []

/-- The calls of a trial: when it cannot be judged, its case is not finished. -/
def Trial.calls (c : Config) (t : Trial σ) : List Call :=
  match t.judgement c with
  | .ok verdict => t.begun ++ [.caseFinished ⟨t.case.name, verdict⟩]
  | .error _ => t.begun

theorem perform_judge_of_failure {case : TestCase} {outcome : Child.Outcome} {reason : Reason}
    (h : outcome.failure? = some reason) (s : State σ ρ) :
    Step.perform (judge c case outcome) s = (.ok (.fail reason), s) := by
  simp only [judge, h]
  exact perform_pure _ s

theorem perform_judge_of_none {case : TestCase} {outcome : Child.Outcome}
    (h : outcome.failure? = none) (s : State σ ρ) :
    Step.perform (judge c case outcome) s =
      (match (Comparator.ofConfig c).compareCase s.workspace case with
        | .ok comparison => .ok comparison.verdict
        | .error e => .error e.diagnostic,
        { s with
          events := s.events ++ [.compare case.name]
          notes := s.notes ++ (Comparator.ofConfig c).remarks s.workspace case }) := by
  simp only [judge, h, perform_bind, perform_record, perform_ask]
  cases (Comparator.ofConfig c).compareCase s.workspace case <;> rfl

variable (toolchain reporter c)

/-- Between its start and its end, a case is executed and judged. -/
theorem perform_trial (case : TestCase) (s : State σ ρ) :
    let t : Trial σ := ⟨case, toolchain.execute c case s.workspace s.tools⟩
    let done := Step.perform (do
      record (.execute case.name)
      judge c case (← consult (toolchain.execute c case))) s
    done.1 = t.judgement c ∧
      Made toolchain reporter c (.execute case :: if t.Succeeded then [.compare case] else [])
        s done.2 := by
  intro t done
  cases ha : (toolchain.execute c case s.workspace s.tools).answer with
  | error d =>
    have hj : t.judgement c = .error d := Trial.judgement_of_error ha
    have hn : ¬ t.Succeeded := Trial.not_succeeded_of_error ha
    simp only [done, perform_bind, perform_record, perform_consult, ha, if_neg hn]
    exact ⟨hj.symm, by simp [Call.event], rfl⟩
  | ok outcome =>
    simp only [done, perform_bind, perform_record, perform_consult, ha]
    cases hf : outcome.failure? with
    | some reason =>
      have hj : t.judgement c = .ok (.fail reason) := Trial.judgement_of_failure ha hf
      have hn : ¬ t.Succeeded := Trial.not_succeeded_of_failure ha hf
      rw [perform_judge_of_failure hf, hj, if_neg hn]
      exact ⟨rfl, by simp [Call.event], rfl⟩
    | none =>
      have hs : t.Succeeded := Trial.succeeded_of_no_failure ha hf
      rw [perform_judge_of_none hf, Trial.judgement_of_succeeded hs, if_pos hs]
      exact ⟨rfl, by simp [Call.event], rfl⟩

theorem perform_runCase (case : TestCase) (s : State σ ρ) :
    let t : Trial σ := ⟨case, toolchain.execute c case s.workspace s.tools⟩
    let done := Step.perform (runCase toolchain reporter c case) s
    done.1 = (t.judgement c).map (fun verdict => ⟨case.name, verdict⟩) ∧
      Made toolchain reporter c (t.calls c) s done.2 := by
  intro t done
  let started : State σ ρ :=
    { s with
      audience := (reporter.caseStarted case s.audience).1
      notes := []
      events := s.events ++ [.started case.name] }
  have hstart : Made toolchain reporter c [.caseStarted case] s started := ⟨rfl, rfl⟩
  obtain ⟨hanswer, hmade⟩ := perform_trial toolchain reporter c case started
  have hbegun : Made toolchain reporter c t.begun s _ := hstart.trans hmade
  simp only [done, runCase, perform_bind, perform_record, perform_tell, perform_during] at *
  rw [hanswer]
  cases hj : t.judgement c with
  | error d =>
    simp only [Trial.calls, hj]
    exact ⟨rfl, hbegun.events, hbegun.parties⟩
  | ok verdict =>
    simp only [Trial.calls, hj]
    exact ⟨rfl, hbegun.trans ⟨rfl, rfl⟩⟩

/-- The calls of a trial pass the files and the toolchain on as the reply has them. -/
theorem foldl_act_calls (case : TestCase) (p : Parties σ ρ) :
    let reply := toolchain.execute c case p.workspace p.tools
    let left := (Trial.calls c ⟨case, reply⟩).foldl (Call.act toolchain reporter c) p
    left.workspace = reply.workspace ∧ left.tools = reply.state := by
  intro reply left
  have hbegun : let begun := (Trial.begun ⟨case, reply⟩).foldl (Call.act toolchain reporter c) p
      begun.workspace = reply.workspace ∧ begun.tools = reply.state := by
    by_cases hs : (⟨case, reply⟩ : Trial σ).Succeeded
    · simp only [Trial.begun, if_pos hs]
      exact ⟨rfl, rfl⟩
    · simp only [Trial.begun, if_neg hs]
      exact ⟨rfl, rfl⟩
  cases hj : Trial.judgement c ⟨case, reply⟩ with
  | error d =>
    simp only [left, Trial.calls, hj]
    exact hbegun
  | ok verdict =>
    simp only [left, Trial.calls, hj, List.foldl_append]
    exact hbegun

/-! ### The calls of a run -/

theorem perform_runCases (cases : List TestCase) (s : State σ ρ) :
    let ts := trials toolchain c cases s.workspace s.tools
    let done := Step.perform (runCases toolchain reporter c cases) s
    done.1 = reports c ts ∧
      Made toolchain reporter c ((reached c ts).flatMap (Trial.calls c)) s done.2 := by
  induction cases generalizing s with
  | nil => exact ⟨rfl, Made.refl s⟩
  | cons case others ih =>
    intro ts done
    obtain ⟨hanswer, hmade⟩ := perform_runCase toolchain reporter c case s
    obtain ⟨hworkspace, htools⟩ := foldl_act_calls toolchain reporter c case s.parties
    have hparties := hmade.parties
    simp only [done, ts, runCases, perform_bind, trials_cons, reports, reached]
    generalize Step.perform (runCase toolchain reporter c case) s = mid at *
    obtain ⟨answer, left⟩ := mid
    cases hj : Trial.judgement c ⟨case, toolchain.execute c case s.workspace s.tools⟩ with
    | error d =>
      rw [hj] at hanswer
      simp only [Except.map] at hanswer
      simp only [hanswer, List.flatMap_cons, List.flatMap_nil, List.append_nil]
      exact ⟨trivial, hmade⟩
    | ok verdict =>
      rw [hj] at hanswer
      simp only [Except.map] at hanswer
      obtain ⟨hrest, hmore⟩ := ih left
      have hw : left.workspace = (toolchain.execute c case s.workspace s.tools).workspace :=
        (congrArg Parties.workspace hparties).trans hworkspace
      have ht : left.tools = (toolchain.execute c case s.workspace s.tools).state :=
        (congrArg Parties.tools hparties).trans htools
      rw [hw, ht] at hrest hmore
      simp only [hanswer, List.flatMap_cons]
      generalize Step.perform (runCases toolchain reporter c others) left = final at *
      obtain ⟨rest, last⟩ := final
      simp only at hrest hmore
      rw [hrest]
      cases reports c (trials toolchain c others _ _) with
      | error d => exact ⟨rfl, hmade.trans hmore⟩
      | ok rest => exact ⟨rfl, hmade.trans hmore⟩

variable {toolchain c}

theorem perform_run_of_invalid {e : Halt ConfigError} (h : c.validate = .error e)
    (s : State σ ρ) :
    Step.perform (run toolchain reporter c) s = (.error (e.map ConfigError.diagnostic), s) := by
  simp only [run, perform_bind, perform_ask, h, mapError_error, List.append_nil]

/-- After an accepted configuration, the build is what the run calls next. -/
theorem made_build (s : State σ ρ) (notes : List Note) :
    let built := toolchain.build c s.workspace s.tools
    Made toolchain reporter c [.build] s
      { s with
        workspace := built.workspace
        tools := built.state
        events := s.events ++ [.build]
        notes := notes } :=
  ⟨rfl, rfl⟩

theorem perform_run_of_unbuilt {d : Halt Diagnostic} (hv : c.validate = .ok ()) (s : State σ ρ)
    (hb : (toolchain.build c s.workspace s.tools).answer = .error d) :
    let done := Step.perform (run toolchain reporter c) s
    done.1 = .error d ∧ Made toolchain reporter c [.build] s done.2 := by
  intro done
  simp only [done, run, perform_bind, perform_ask, hv, mapError_ok, perform_record,
    perform_consult, hb]
  exact ⟨trivial, made_build reporter s _⟩

theorem perform_run_of_undiscovered {report : BuildReport} {e : DiscoveryError}
    (hv : c.validate = .ok ()) (s : State σ ρ)
    (hb : (toolchain.build c s.workspace s.tools).answer = .ok report)
    (hd : Discovery.cases c (toolchain.build c s.workspace s.tools).workspace = .error e) :
    let done := Step.perform (run toolchain reporter c) s
    done.1 = .error e.diagnostic ∧ Made toolchain reporter c [.build] s done.2 := by
  intro done
  simp only [done, run, perform_bind, perform_ask, hv, mapError_ok, mapError_error, perform_record,
    perform_consult, hb, hd]
  exact ⟨trivial, made_build reporter s _⟩

theorem perform_run_of_discovered {report : BuildReport} {cases : List TestCase}
    (hv : c.validate = .ok ()) (s : State σ ρ)
    (hb : (toolchain.build c s.workspace s.tools).answer = .ok report)
    (hd : Discovery.cases c (toolchain.build c s.workspace s.tools).workspace = .ok cases) :
    let built := toolchain.build c s.workspace s.tools
    let ts := trials toolchain c cases built.workspace built.state
    let done := Step.perform (run toolchain reporter c) s
    match reports c ts with
    | .ok rs =>
      done.1 = .ok ⟨report, rs⟩ ∧
        Made toolchain reporter c
          (.build :: ts.flatMap (Trial.calls c) ++ [.runFinished ⟨report, rs⟩]) s done.2
    | .error d =>
      done.1 = .error d ∧
        Made toolchain reporter c (.build :: (reached c ts).flatMap (Trial.calls c)) s done.2 := by
  intro built ts done
  simp only [done, run, perform_bind, perform_ask, hv, mapError_ok, perform_record,
    perform_consult, hb, hd, perform_note]
  generalize hstart : ({ workspace := _, tools := _, audience := _, notes := _, events := _ } :
    State σ ρ) = start
  have hbuild : Made toolchain reporter c [.build] s start := by
    rw [← hstart]
    exact made_build reporter s _
  obtain ⟨hanswer, hmade⟩ := perform_runCases toolchain reporter c cases start
  have hcases : trials toolchain c cases start.workspace start.tools = ts := by
    rw [← hstart]
  rw [hcases] at hanswer hmade
  generalize Step.perform (runCases toolchain reporter c cases) start = final at *
  obtain ⟨answer, left⟩ := final
  simp only at hanswer hmade
  rw [hanswer]
  cases hr : reports c ts with
  | error d => exact ⟨rfl, hbuild.trans hmade⟩
  | ok rs =>
    rw [reached_of_reports_ok hr] at hmade
    exact ⟨rfl, (hbuild.trans hmade).trans ⟨rfl, rfl⟩⟩

theorem perform_run_of_stopped {report : BuildReport} {cases : List TestCase} {d : Halt Diagnostic}
    (hv : c.validate = .ok ()) (s : State σ ρ)
    (hb : (toolchain.build c s.workspace s.tools).answer = .ok report)
    (hd : Discovery.cases c (toolchain.build c s.workspace s.tools).workspace = .ok cases)
    (hr : reports c (trials toolchain c cases (toolchain.build c s.workspace s.tools).workspace
      (toolchain.build c s.workspace s.tools).state) = .error d) :
    (Step.perform (run toolchain reporter c) s).1 = .error d ∧
      Made toolchain reporter c (.build :: (reached c (trials toolchain c cases
        (toolchain.build c s.workspace s.tools).workspace
        (toolchain.build c s.workspace s.tools).state)).flatMap (Trial.calls c))
        s (Step.perform (run toolchain reporter c) s).2 := by
  have hrun := perform_run_of_discovered reporter hv s hb hd
  dsimp only at hrun
  rw [hr] at hrun
  exact hrun

/-- What it takes for a run to come to a summary. -/
theorem run_eq_ok_iff (s : State σ ρ) {summary : Summary} :
    let built := toolchain.build c s.workspace s.tools
    (Step.perform (run toolchain reporter c) s).1 = .ok summary ↔
      c.validate = .ok () ∧ built.answer = .ok summary.build ∧
      ∃ cases, Discovery.cases c built.workspace = .ok cases ∧
        reports c (trials toolchain c cases built.workspace built.state) = .ok summary.cases := by
  intro built
  cases hv : c.validate with
  | error e => simp [perform_run_of_invalid reporter hv]
  | ok _ =>
    cases hb : built.answer with
    | error d =>
      have hrun := perform_run_of_unbuilt reporter hv s hb
      simp [hrun.1]
    | ok report =>
      cases hd : Discovery.cases c built.workspace with
      | error e =>
        have hrun := perform_run_of_undiscovered reporter hv s hb hd
        simp [hrun.1]
      | ok cases =>
        cases hr : reports c (trials toolchain c cases built.workspace built.state) with
        | error d =>
          have hrun := perform_run_of_stopped reporter hv s hb hd hr
          simp [hrun.1, hr]
        | ok rs =>
          have hrun := perform_run_of_discovered reporter hv s hb hd
          dsimp only at hrun
          rw [hr] at hrun
          obtain ⟨build, reported⟩ := summary
          simp [hrun.1, hr]

/-! ### Executed cases -/

theorem case_of_execute_mem {t : Trial σ} {case : TestCase} (h : Call.execute case ∈ t.calls c) :
    case = t.case := by
  unfold Trial.calls Trial.begun at h
  split at h <;> split at h <;> simpa using h

theorem build_not_mem_calls (t : Trial σ) : Call.build ∉ t.calls c := by
  unfold Trial.calls Trial.begun
  split <;> split <;> simp

variable (toolchain c)

/-- A run calls nothing, or the build first and then nothing but what concerns the discovered
cases. -/
theorem exists_calls (s : State σ ρ) :
    let built := toolchain.build c s.workspace s.tools
    ∃ calls, Made toolchain reporter c calls s (Step.perform (run toolchain reporter c) s).2 ∧
      (calls = [] ∨ ∃ rest, calls = .build :: rest ∧ Call.build ∉ rest ∧
        ∀ case, Call.execute case ∈ rest →
          ∃ cases, Discovery.cases c built.workspace = .ok cases ∧ case ∈ cases) := by
  intro built
  cases hv : c.validate with
  | error e =>
    rw [perform_run_of_invalid reporter hv]
    exact ⟨[], Made.refl s, Or.inl rfl⟩
  | ok _ =>
    cases hb : built.answer with
    | error d =>
      exact ⟨_, (perform_run_of_unbuilt reporter hv s hb).2, Or.inr ⟨[], rfl, by simp, by simp⟩⟩
    | ok report =>
      cases hd : Discovery.cases c built.workspace with
      | error e =>
        exact ⟨_, (perform_run_of_undiscovered reporter hv s hb hd).2,
          Or.inr ⟨[], rfl, by simp, by simp⟩⟩
      | ok cases =>
        have hrun := perform_run_of_discovered reporter hv s hb hd
        -- For any part of the trials, since a run that stops calls for a part of them only.
        have hexecuted : ∀ ts : List (Trial σ),
            (∀ t ∈ ts, t ∈ trials toolchain c cases built.workspace built.state) →
            ∀ case, Call.execute case ∈ ts.flatMap (Trial.calls c) → case ∈ cases := by
          intro ts hts case hcase
          obtain ⟨t, ht, hmem⟩ := List.mem_flatMap.mp hcase
          rw [case_of_execute_mem hmem, ← map_case_trials toolchain c cases built.workspace]
          exact List.mem_map_of_mem (hts t ht)
        have hnobuild : ∀ ts : List (Trial σ), Call.build ∉ ts.flatMap (Trial.calls c) := by
          intro ts hmem
          obtain ⟨t, -, ht⟩ := List.mem_flatMap.mp hmem
          exact build_not_mem_calls t ht
        dsimp only at hrun
        split at hrun
        · refine ⟨_, hrun.2, Or.inr ⟨_, rfl, ?_, fun case hcase => ⟨cases, rfl, ?_⟩⟩⟩
          · simpa using hnobuild _
          · exact hexecuted _ (fun t ht => ht) case (by simpa using hcase)
        · refine ⟨_, hrun.2, Or.inr ⟨_, rfl, hnobuild _, fun case hcase => ⟨cases, rfl, ?_⟩⟩⟩
          exact hexecuted _ (fun t ht => mem_of_mem_reached ht) case hcase

end

end GoldenSuite.Suite
