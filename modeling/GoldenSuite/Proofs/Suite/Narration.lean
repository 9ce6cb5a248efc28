import GoldenSuite.Proofs.Suite.Calls
import GoldenSuite.Suite.Console

/-!
# What a console prints of a run

A console prints at two kinds of calls only: a line when a case is finished, and the summary when
the run is. So what it prints of a run are the lines of the reports, and after them the summary
when the run comes to one. `Stopped` lists the places where a run ends without.
-/

namespace GoldenSuite

open Console (verdictLine)

/-- Lines as they stand in a text, each ended by a line feed. -/
def Console.printed (lines : List String) : String :=
  String.join (lines.map (· ++ "\n"))

theorem Console.printed_append (first second : List String) :
    Console.printed (first ++ second) = Console.printed first ++ Console.printed second := by
  unfold Console.printed
  rw [List.map_append, String.join_append]

namespace Suite

variable {σ : Type} {toolchain : Toolchain σ} {c : Config} {colors : Bool}

/-! ### Calls and their lines -/

def Call.line? (colors : Bool) : Call → Option String
  | .caseFinished report => some (verdictLine colors report)
  | .runFinished summary => some summary.text
  | .build | .caseStarted _ | .execute _ | .compare _ => none

theorem sink_act (p : Parties σ (Console String)) (call : Call) :
    (call.act toolchain (Console.reporter .collecting colors) c p).audience.sink =
      p.audience.sink ++ Console.printed (call.line? colors).toList := by
  cases call <;> simp [Call.act, Call.line?, Console.reporter, Console.emit, Writer.collecting,
    Console.printed, String.append_assoc]

theorem filterMap_line_cons (call : Call) (others : List Call) :
    (call :: others).filterMap (Call.line? colors) =
      (call.line? colors).toList ++ others.filterMap (Call.line? colors) := by
  cases h : call.line? colors <;> simp [h]

theorem sink_foldl_act (calls : List Call) (p : Parties σ (Console String)) :
    (calls.foldl (Call.act toolchain (Console.reporter .collecting colors) c) p).audience.sink =
      p.audience.sink ++ Console.printed (calls.filterMap (Call.line? colors)) := by
  induction calls generalizing p with
  | nil => simp [Console.printed]
  | cons call others ih =>
    rw [List.foldl_cons, ih, sink_act, filterMap_line_cons, Console.printed_append,
      String.append_assoc]

theorem Made.sink {calls : List Call} {s left : State σ (Console String)}
    (h : Made toolchain (Console.reporter .collecting colors) c calls s left) :
    left.audience.sink =
      s.audience.sink ++ Console.printed (calls.filterMap (Call.line? colors)) := by
  have hparties := congrArg (fun p => p.audience.sink) h.parties
  exact hparties.trans (sink_foldl_act calls s.parties)

theorem attempted_act {ω : Type} {writer : Writer ω} (p : Parties σ (Console ω)) (call : Call) :
    (call.act toolchain (Console.reporter writer colors) c p).audience.attempted =
      p.audience.attempted ++ (call.line? colors).toList := by
  cases call <;> simp [Call.act, Call.line?, Console.reporter, Console.attempted_emit]

theorem attempted_foldl_act {ω : Type} {writer : Writer ω} (calls : List Call)
    (p : Parties σ (Console ω)) :
    (calls.foldl (Call.act toolchain (Console.reporter writer colors) c) p).audience.attempted =
      p.audience.attempted ++ calls.filterMap (Call.line? colors) := by
  induction calls generalizing p with
  | nil => simp
  | cons call others ih =>
    rw [List.foldl_cons, ih, attempted_act, filterMap_line_cons, List.append_assoc]

/-- The lines that a console tries to write are up to the calls and not to what it writes to. -/
theorem Made.attempted {ω : Type} {writer : Writer ω} {calls : List Call}
    {s left : State σ (Console ω)}
    (h : Made toolchain (Console.reporter writer colors) c calls s left) :
    left.audience.attempted =
      s.audience.attempted ++ calls.filterMap (Call.line? colors) := by
  have hparties := congrArg (fun p => p.audience.attempted) h.parties
  exact hparties.trans (attempted_foldl_act calls s.parties)

theorem filterMap_line_begun (t : Trial σ) : t.begun.filterMap (Call.line? colors) = [] := by
  unfold Trial.begun
  split <;> rfl

theorem filterMap_line_calls {ts : List (Trial σ)} {rs : List CaseReport}
    (h : reports c ts = .ok rs) :
    (ts.flatMap (Trial.calls c)).filterMap (Call.line? colors) = rs.map (verdictLine colors) := by
  induction ts generalizing rs with
  | nil =>
    obtain rfl : [] = rs := Except.ok.inj h
    rfl
  | cons t others ih =>
    obtain ⟨verdict, rest, hj, hrest, rfl⟩ := reports_cons_ok h
    have hown : (t.calls c).filterMap (Call.line? colors) =
        [verdictLine colors ⟨t.case.name, verdict⟩] := by
      simp only [Trial.calls, hj, List.filterMap_append, filterMap_line_begun]
      rfl
    rw [List.flatMap_cons, List.filterMap_append, hown, ih hrest, List.map_cons,
      List.singleton_append]

/-! ### Runs without a summary -/

/-- A run in these files ends with this diagnostic or in this panic, after these reports. -/
inductive Stopped (toolchain : Toolchain σ) (c : Config) (ws : Workspace) (tools : σ) :
    Halt Diagnostic → List CaseReport → Prop where
  | invalid {e : Halt ConfigError} : c.validate = .error e →
      Stopped toolchain c ws tools (e.map ConfigError.diagnostic) []
  | unbuilt {d : Halt Diagnostic} : c.validate = .ok () →
      (toolchain.build c ws tools).answer = .error d → Stopped toolchain c ws tools d []
  | undiscovered {report : BuildReport} {e : DiscoveryError} : c.validate = .ok () →
      (toolchain.build c ws tools).answer = .ok report →
      Discovery.cases c (toolchain.build c ws tools).workspace = .error e →
      Stopped toolchain c ws tools e.diagnostic []
  /-- A case cannot be judged; the ones before it have been. -/
  | unjudged {report : BuildReport} {cases : List TestCase} {done rest : List (Trial σ)}
      {t : Trial σ} {finished : List CaseReport} {d : Halt Diagnostic} : c.validate = .ok () →
      (toolchain.build c ws tools).answer = .ok report →
      Discovery.cases c (toolchain.build c ws tools).workspace = .ok cases →
      trials toolchain c cases (toolchain.build c ws tools).workspace
        (toolchain.build c ws tools).state = done ++ t :: rest →
      reports c done = .ok finished → t.judgement c = .error d →
      Stopped toolchain c ws tools d finished

theorem exists_reports_of_judged {ts : List (Trial σ)}
    (h : ∀ t ∈ ts, ∃ verdict, t.judgement c = .ok verdict) : ∃ rs, reports c ts = .ok rs := by
  cases hr : reports c ts with
  | ok rs => exact ⟨rs, rfl⟩
  | error d =>
    obtain ⟨done, t, rest, rfl, -, ht⟩ := reports_eq_error_iff.mp hr
    obtain ⟨verdict, hv⟩ := h t (by simp)
    rw [ht] at hv
    cases hv

/-- The lines that a console tries to write on the way to an answer: a line on every case that was
judged, and after them the summary when there is one. -/
inductive Narrates (toolchain : Toolchain σ) (c : Config) (ws : Workspace) (tools : σ)
    (colors : Bool) : Except (Halt Diagnostic) Summary → List String → Prop where
  | completed (summary : Summary) : Narrates toolchain c ws tools colors (.ok summary)
      (summary.cases.map (verdictLine colors) ++ [summary.text])
  | stopped {d : Halt Diagnostic} {finished : List CaseReport} :
      Stopped toolchain c ws tools d finished →
      Narrates toolchain c ws tools colors (.error d) (finished.map (verdictLine colors))

theorem Narrates.eq_of_ok {ws : Workspace} {tools : σ} {summary : Summary} {lines : List String}
    (h : Narrates toolchain c ws tools colors (.ok summary) lines) :
    lines = summary.cases.map (verdictLine colors) ++ [summary.text] := by
  cases h
  rfl

theorem filterMap_line_completed {ts : List (Trial σ)} {report : BuildReport}
    {rs : List CaseReport} (h : reports c ts = .ok rs) :
    (Call.build :: ts.flatMap (Trial.calls c) ++ [Call.runFinished ⟨report, rs⟩]).filterMap
        (Call.line? colors) =
      rs.map (verdictLine colors) ++ [(⟨report, rs⟩ : Summary).text] := by
  rw [List.filterMap_append, List.filterMap_cons_none rfl, filterMap_line_calls h]
  rfl

theorem filterMap_line_stopped {done rest : List (Trial σ)} {t : Trial σ} {d : Halt Diagnostic}
    {finished : List CaseReport} (hfinished : reports c done = .ok finished)
    (ht : t.judgement c = .error d) :
    (Call.build :: (reached c (done ++ t :: rest)).flatMap (Trial.calls c)).filterMap
        (Call.line? colors) =
      finished.map (verdictLine colors) := by
  have hdone : ∀ x ∈ done, ∃ verdict, x.judgement c = .ok verdict := by
    intro x hx
    obtain ⟨r, -, -, hverdict⟩ := exists_report_of_trial hfinished hx
    exact ⟨r.verdict, hverdict⟩
  -- The trial that ends the run has only begun, so there is no line on it.
  have hlast : (t.calls c).filterMap (Call.line? colors) = [] := by
    simp only [Trial.calls, ht, filterMap_line_begun]
  rw [reached_of_stop rest hdone ht, List.flatMap_append, List.flatMap_singleton,
    List.filterMap_cons_none rfl, List.filterMap_append, filterMap_line_calls hfinished, hlast,
    List.append_nil]

/-- The answer of a run and its calls are the same for every reporter, and the lines that they make
for a console are those on the way to the answer. -/
theorem exists_narrated (toolchain : Toolchain σ) (c : Config) (ws : Workspace) (tools : σ) :
    ∃ answer calls,
      (∀ (ρ : Type) (reporter : Reporter ρ) (s : State σ ρ), s.workspace = ws → s.tools = tools →
        (Step.perform (run toolchain reporter c) s).1 = answer ∧
          Made toolchain reporter c calls s (Step.perform (run toolchain reporter c) s).2) ∧
      ∀ colors, Narrates toolchain c ws tools colors answer
        (calls.filterMap (Call.line? colors)) := by
  cases hv : c.validate with
  | error e =>
    refine ⟨.error (e.map ConfigError.diagnostic), [], fun ρ reporter s _ _ => ?_,
      fun _ => .stopped (.invalid hv)⟩
    rw [perform_run_of_invalid reporter hv]
    exact ⟨rfl, Made.refl s⟩
  | ok _ =>
    cases hb : (toolchain.build c ws tools).answer with
    | error d =>
      refine ⟨.error d, [.build], fun ρ reporter s hws htools => ?_,
        fun _ => .stopped (.unbuilt hv hb)⟩
      subst hws htools
      exact perform_run_of_unbuilt reporter hv s hb
    | ok report =>
      cases hd : Discovery.cases c (toolchain.build c ws tools).workspace with
      | error e =>
        refine ⟨.error e.diagnostic, [.build], fun ρ reporter s hws htools => ?_,
          fun _ => .stopped (.undiscovered hv hb hd)⟩
        subst hws htools
        exact perform_run_of_undiscovered reporter hv s hb hd
      | ok cases =>
        generalize hts : trials toolchain c cases (toolchain.build c ws tools).workspace
          (toolchain.build c ws tools).state = ts
        cases hr : reports c ts with
        | error d =>
          refine ⟨.error d, .build :: (reached c ts).flatMap (Trial.calls c),
            fun ρ reporter s hws htools => ?_, fun colors => ?_⟩
          · subst hws htools
            have hrun := perform_run_of_discovered reporter hv s hb hd
            simp only [hts, hr] at hrun
            exact hrun
          · obtain ⟨done, t, rest, hsplit, hdone, ht⟩ := reports_eq_error_iff.mp hr
            obtain ⟨finished, hfinished⟩ := exists_reports_of_judged hdone
            rw [hsplit, filterMap_line_stopped hfinished ht]
            exact .stopped (.unjudged hv hb hd (hts.trans hsplit) hfinished ht)
        | ok rs =>
          refine ⟨.ok ⟨report, rs⟩,
            .build :: ts.flatMap (Trial.calls c) ++ [.runFinished ⟨report, rs⟩],
            fun ρ reporter s hws htools => ?_, fun colors => ?_⟩
          · subst hws htools
            have hrun := perform_run_of_discovered reporter hv s hb hd
            simp only [hts, hr] at hrun
            exact hrun
          · rw [filterMap_line_completed hr]
            exact .completed ⟨report, rs⟩

/-- What a console has printed of a run are the lines on the way to its answer. -/
theorem exists_printed (toolchain : Toolchain σ) (c : Config) (colors : Bool)
    (s : State σ (Console String)) :
    let done := Step.perform (run toolchain (Console.reporter .collecting colors) c) s
    ∃ lines, Narrates toolchain c s.workspace s.tools colors done.1 lines ∧
      done.2.audience.sink = s.audience.sink ++ Console.printed lines := by
  intro done
  obtain ⟨answer, calls, hrun, hlines⟩ := exists_narrated toolchain c s.workspace s.tools
  obtain ⟨hanswer, hmade⟩ := hrun _ (Console.reporter .collecting colors) s rfl rfl
  exact ⟨_, hanswer ▸ hlines colors, hmade.sink⟩

/-- A run that comes to a summary has printed the lines of all its cases, and the summary. -/
theorem sink_of_run_ok {s : State σ (Console String)} {summary : Summary}
    (h : (Step.perform (run toolchain (Console.reporter .collecting colors) c) s).1 =
      .ok summary) :
    (Step.perform (run toolchain (Console.reporter .collecting colors) c) s).2.audience.sink =
      s.audience.sink ++
        Console.printed (summary.cases.map (verdictLine colors) ++ [summary.text]) := by
  obtain ⟨lines, hlines, hsink⟩ := exists_printed toolchain c colors s
  rw [h] at hlines
  rw [← hlines.eq_of_ok]
  exact hsink

end Suite

end GoldenSuite
