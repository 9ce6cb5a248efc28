import GoldenSuite.Proofs.Suite.Narration
import GoldenSuite.Proofs.Suite.Repetition

/-!
# Consoles whose output fails

A run tells its reporter what happens and does not hear back. So two runs with different reporters
go abreast: they differ in the state of their reporters and in the notes that these make. For a
console this means that a stream on which writes or flushes fail costs one warning for each line
that failed, and nothing else.
-/

namespace GoldenSuite

/-! ### What a writer makes of lines -/

namespace Writer

variable {ω : Type}

/-- What lines leave behind, one after the other. -/
def left (writer : Writer ω) (sink : ω) (lines : List String) : ω :=
  lines.foldl (fun sink line => (writer.emit line sink).2) sink

/-- The warning on a line, when the writer answers that it failed. -/
def warning? (line : String) : Except Fault Unit → Option Note
  | .ok () => none
  | .error fault => some (Part.console.warn ["error", "line"]
      s!"failed to write verdict output: {fault.message}, {line}")

/-- The warnings on lines that are written one after the other. -/
def warnings (writer : Writer ω) : ω → List String → List Note
  | _, [] => []
  | sink, line :: others =>
    (warning? line (writer.emit line sink).1).toList ++
      writer.warnings (writer.emit line sink).2 others

theorem warnings_append (writer : Writer ω) (sink : ω) (lines others : List String) :
    writer.warnings sink (lines ++ others) =
      writer.warnings sink lines ++ writer.warnings (writer.left sink lines) others := by
  induction lines generalizing sink with
  | nil => rfl
  | cons line rest ih =>
    have hleft : writer.left sink (line :: rest) =
        writer.left (writer.emit line sink).2 rest := rfl
    rw [List.cons_append, warnings, warnings, ih, hleft, List.append_assoc]

theorem notes_emit (writer : Writer ω) (line : String) (console : Console ω) :
    (Console.emit writer line console).2 = writer.warnings console.sink [line] := by
  rw [warnings, warnings, List.append_nil]
  unfold Console.emit
  generalize writer.emit line console.sink = done
  obtain ⟨answer, left⟩ := done
  cases answer <;> rfl

end Writer

namespace Suite

variable {σ ρ ρ' α β ε : Type}

/-! ### Steps abreast -/

section
variable (R : ρ → List Note → ρ' → List Note → Prop)

/-- States that differ in their reporters and notes only, and there as the relation says. -/
structure Abreast (s : State σ ρ) (s' : State σ ρ') : Prop where
  workspace_eq : s.workspace = s'.workspace
  tools_eq : s.tools = s'.tools
  events_eq : s.events = s'.events
  related : R s.audience s.notes s'.audience s'.notes

/-- Steps that answer alike and lead from states abreast to states abreast. -/
def StayAbreast (step : Step σ ρ α) (step' : Step σ ρ' α) : Prop :=
  ∀ s s', Abreast R s s' →
    (Step.perform step s).1 = (Step.perform step' s').1 ∧
      Abreast R (Step.perform step s).2 (Step.perform step' s').2

/-- The relation goes on to hold when the same notes are made on both sides. -/
def Absorbs : Prop :=
  ∀ a notes a' notes' more, R a notes a' notes' → R a (notes ++ more) a' (notes' ++ more)

/-- The relation goes on to hold when each side gets its message. -/
def Keeps (message : ρ → ρ × List Note) (message' : ρ' → ρ' × List Note) : Prop :=
  ∀ a notes a' notes', R a notes a' notes' →
    R (message a).1 (notes ++ (message a).2) (message' a').1 (notes' ++ (message' a').2)

end

section
variable {R : ρ → List Note → ρ' → List Note → Prop}

theorem stayAbreast_pure (a : α) : StayAbreast R (pure a : Step σ ρ α) (pure a) :=
  fun _ _ h => ⟨rfl, h⟩

theorem StayAbreast.bind {step : Step σ ρ α} {step' : Step σ ρ' α} {next : α → Step σ ρ β}
    {next' : α → Step σ ρ' β} (h : StayAbreast R step step')
    (hnext : ∀ a, StayAbreast R (next a) (next' a)) :
    StayAbreast R (step >>= next) (step' >>= next') := by
  intro s s' habreast
  obtain ⟨hanswer, hleft⟩ := h s s' habreast
  rw [perform_bind, perform_bind]
  generalize Step.perform step s = done at *
  generalize Step.perform step' s' = done' at *
  obtain ⟨answer, left⟩ := done
  obtain ⟨answer', left'⟩ := done'
  obtain rfl : answer = answer' := hanswer
  cases answer with
  | error d => exact ⟨rfl, hleft⟩
  | ok a => exact hnext a left left' hleft

theorem stayAbreast_record (event : Event) :
    StayAbreast R (record event : Step σ ρ Unit) (record event) := by
  intro s s' h
  refine ⟨rfl, h.workspace_eq, h.tools_eq, ?_, h.related⟩
  rw [perform_record, perform_record, h.events_eq]

theorem stayAbreast_note (hR : Absorbs R) (n : Note) :
    StayAbreast R (note n : Step σ ρ Unit) (note n) := by
  intro s s' h
  exact ⟨rfl, h.workspace_eq, h.tools_eq, h.events_eq, hR _ _ _ _ [n] h.related⟩

theorem stayAbreast_consult (hR : Absorbs R) (request : Workspace → σ → Reply σ α) :
    StayAbreast R (consult request : Step σ ρ α) (consult request) := by
  intro s s' h
  rw [perform_consult, perform_consult, h.workspace_eq, h.tools_eq]
  exact ⟨rfl, rfl, rfl, h.events_eq, hR _ _ _ _ _ h.related⟩

theorem stayAbreast_ask (hR : Absorbs R) (diagnose : ε → Halt Diagnostic)
    (remarks : Workspace → List Note) (question : Workspace → Except ε α) :
    StayAbreast R (ask diagnose remarks question : Step σ ρ α) (ask diagnose remarks question) := by
  intro s s' h
  rw [perform_ask, perform_ask, h.workspace_eq]
  exact ⟨rfl, rfl, h.tools_eq, h.events_eq, hR _ _ _ _ _ h.related⟩

theorem stayAbreast_tell {message : ρ → ρ × List Note} {message' : ρ' → ρ' × List Note}
    (h : Keeps R message message') :
    StayAbreast R (tell message : Step σ ρ Unit) (tell message') := by
  intro s s' habreast
  exact ⟨rfl, habreast.workspace_eq, habreast.tools_eq, habreast.events_eq,
    h _ _ _ _ habreast.related⟩

theorem stayAbreast_judge (hR : Absorbs R) (c : Config) (case : TestCase)
    (outcome : Child.Outcome) :
    StayAbreast R (judge c case outcome : Step σ ρ Verdict) (judge c case outcome) := by
  unfold judge
  cases outcome.failure? with
  | some reason => exact stayAbreast_pure _
  | none =>
    exact (stayAbreast_record _).bind fun _ =>
      (stayAbreast_ask hR _ _ _).bind fun _ => stayAbreast_pure _

/-- On both sides the reporters are as given and the notes are the same. -/
def SameNotes (a : ρ) (a' : ρ') : ρ → List Note → ρ' → List Note → Prop :=
  fun b notes b' notes' => b = a ∧ b' = a' ∧ notes = notes'

theorem absorbs_sameNotes (a : ρ) (a' : ρ') : Absorbs (SameNotes a a') := by
  rintro b notes b' notes' more ⟨hb, hb', hnotes⟩
  exact ⟨hb, hb', by rw [hnotes]⟩

/-- A step on behalf of a case starts with no notes, so no relation between those made before is
known in it. It has to get by without the reporters. -/
theorem stayAbreast_during (hR : Absorbs R) (case : TestCase) {step : Step σ ρ α}
    {step' : Step σ ρ' α} (h : ∀ a a', StayAbreast (SameNotes a a') step step') :
    StayAbreast R (during case step) (during case step') := by
  intro s s' habreast
  obtain ⟨hanswer, hleft⟩ := h s.audience s'.audience { s with notes := [] } { s' with notes := [] }
    ⟨habreast.workspace_eq, habreast.tools_eq, habreast.events_eq, rfl, rfl, rfl⟩
  rw [perform_during, perform_during]
  -- What was noted before comes back in front, and the reporters are as they were.
  generalize Step.perform step _ = done at *
  generalize Step.perform step' _ = done' at *
  obtain ⟨haudience, haudience', hnotes⟩ := hleft.related
  refine ⟨hanswer, hleft.workspace_eq, hleft.tools_eq, hleft.events_eq, ?_⟩
  simp only [haudience, haudience', hnotes]
  exact hR _ _ _ _ _ habreast.related

/-! ### Runs abreast -/

/-- Reporters that keep a relation, whatever they are told. -/
structure HearAlike (R : ρ → List Note → ρ' → List Note → Prop) (reporter : Reporter ρ)
    (reporter' : Reporter ρ') : Prop where
  absorbs : Absorbs R
  caseStarted : ∀ case, Keeps R (reporter.caseStarted case) (reporter'.caseStarted case)
  caseFinished : ∀ report, Keeps R (reporter.caseFinished report) (reporter'.caseFinished report)
  runFinished : ∀ summary, Keeps R (reporter.runFinished summary) (reporter'.runFinished summary)

variable {reporter : Reporter ρ} {reporter' : Reporter ρ'}

theorem stayAbreast_runCase (h : HearAlike R reporter reporter') (toolchain : Toolchain σ)
    (c : Config) (case : TestCase) :
    StayAbreast R (runCase toolchain reporter c case) (runCase toolchain reporter' c case) := by
  have htrial : ∀ (a : ρ) (a' : ρ'), StayAbreast (SameNotes a a')
      (do
        record (.execute case.name)
        judge c case (← consult (toolchain.execute c case)) : Step σ ρ Verdict)
      (do
        record (.execute case.name)
        judge c case (← consult (toolchain.execute c case)) : Step σ ρ' Verdict) := by
    intro a a'
    have hsame : Absorbs (SameNotes a a') := absorbs_sameNotes a a'
    exact (stayAbreast_record _).bind fun _ =>
      (stayAbreast_consult hsame _).bind fun outcome => stayAbreast_judge hsame c case outcome
  exact (stayAbreast_record _).bind fun _ =>
    (stayAbreast_tell (h.caseStarted case)).bind fun _ =>
      (stayAbreast_during h.absorbs case htrial).bind fun verdict =>
        (stayAbreast_record _).bind fun _ =>
          (stayAbreast_tell (h.caseFinished ⟨case.name, verdict⟩)).bind fun _ =>
            stayAbreast_pure _

theorem stayAbreast_runCases (h : HearAlike R reporter reporter') (toolchain : Toolchain σ)
    (c : Config) (cases : List TestCase) :
    StayAbreast R (runCases toolchain reporter c cases) (runCases toolchain reporter' c cases) := by
  induction cases with
  | nil => exact stayAbreast_pure _
  | cons case others ih =>
    exact (stayAbreast_runCase h toolchain c case).bind fun _ =>
      ih.bind fun _ => stayAbreast_pure _

theorem stayAbreast_run (h : HearAlike R reporter reporter') (toolchain : Toolchain σ)
    (c : Config) : StayAbreast R (run toolchain reporter c) (run toolchain reporter' c) := by
  have hasked : ∀ {ε α : Type} (diagnose : ε → Halt Diagnostic) (remarks : Workspace → List Note)
      (question : Workspace → Except ε α), StayAbreast R
        (ask diagnose remarks question : Step σ ρ α) (ask diagnose remarks question) :=
    stayAbreast_ask h.absorbs
  exact (hasked _ _ _).bind fun _ =>
    (stayAbreast_record _).bind fun _ =>
      (stayAbreast_consult h.absorbs _).bind fun build =>
        (hasked _ _ _).bind fun cases =>
          (stayAbreast_note h.absorbs _).bind fun _ =>
            (stayAbreast_runCases h toolchain c cases).bind fun reports =>
              (stayAbreast_note h.absorbs _).bind fun _ =>
                (stayAbreast_record _).bind fun _ =>
                  (stayAbreast_tell (h.runFinished ⟨build, reports⟩)).bind fun _ =>
                    stayAbreast_pure _

end

/-! ### A console and one that never fails -/

section
variable {ω : Type}

/-- A console on a writer, beside one on which every line succeeds: they try the same lines, and
the one has made its warnings besides the notes of the other. -/
structure Beside (writer : Writer ω) (sink : ω) (console : Console ω) (notes : List Note)
    (smooth : Console String) (notes' : List Note) : Prop where
  attempted_eq : console.attempted = smooth.attempted
  sink_eq : console.sink = writer.left sink console.attempted
  -- The warnings stand between other notes, each where its line failed.
  perm : notes.Perm (notes' ++ writer.warnings sink console.attempted)

variable {writer : Writer ω} {sink : ω} {console : Console ω} {smooth : Console String}
  {notes notes' : List Note}

theorem absorbs_beside (writer : Writer ω) (sink : ω) : Absorbs (Beside writer sink) := by
  intro console notes smooth notes' more h
  refine ⟨h.attempted_eq, h.sink_eq, ?_⟩
  refine (h.perm.append_right more).trans ?_
  rw [List.append_assoc, List.append_assoc]
  exact List.perm_append_comm.append_left notes'

theorem Beside.emit (h : Beside writer sink console notes smooth notes') (line : String) :
    Beside writer sink (Console.emit writer line console).1
      (notes ++ (Console.emit writer line console).2) (Console.emit .collecting line smooth).1
      (notes' ++ (Console.emit .collecting line smooth).2) := by
  have hlines : (Console.emit writer line console).1.attempted = console.attempted ++ [line] :=
    rfl
  have hwarning : (Console.emit writer line console).2 =
      writer.warnings (writer.left sink console.attempted) [line] := by
    rw [← h.sink_eq, writer.notes_emit]
  have hnone : (Console.emit Writer.collecting line smooth).2 = [] := rfl
  refine ⟨?_, ?_, ?_⟩
  · rw [hlines, h.attempted_eq]
    rfl
  · rw [hlines, Writer.left, List.foldl_append]
    show (writer.emit line console.sink).2 = _
    rw [h.sink_eq]
    rfl
  · rw [hlines, hwarning, hnone, List.append_nil, writer.warnings_append, ← List.append_assoc]
    exact h.perm.append_right _

theorem hearAlike_console (writer : Writer ω) (sink : ω) (colors : Bool) :
    HearAlike (Beside writer sink) (Console.reporter writer colors)
      (Console.reporter .collecting colors) where
  absorbs := absorbs_beside writer sink
  caseStarted := fun _ _ _ _ _ h => absorbs_beside writer sink _ _ _ _ [] h
  caseFinished := fun report _ _ _ _ h => h.emit (Console.verdictLine colors report)
  runFinished := fun summary _ _ _ _ h => h.emit summary.text

/-! ### Runs on a stream that fails -/

/-- A run on a console whose stream fails in any way, and one on a console that collects all text:
the answers, the calls with what they are passed, the files that are left and the lines that are
tried are the same. These are the lines on the way to the answer, and the text is made up of them.
The notes are those of the smooth run, and one warning on each line whose write or flush failed. -/
theorem run_outlives_stream (toolchain : Toolchain σ) (c : Config) (colors : Bool)
    (stream : Stream ω) (sink : ω) (ws : Workspace) (tools : σ) :
    let reporter := Console.reporter stream.writer colors
    let smoothReporter := Console.reporter .collecting colors
    let start : State σ (Console ω) := { workspace := ws, tools, audience := { sink } }
    let smoothStart : State σ (Console String) :=
      { workspace := ws, tools, audience := { sink := "" } }
    let done := Step.perform (run toolchain reporter c) start
    let smooth := Step.perform (run toolchain smoothReporter c) smoothStart
    let lines := done.2.audience.attempted
    done.1 = smooth.1 ∧
      done.2.workspace = smooth.2.workspace ∧ done.2.tools = smooth.2.tools ∧
      done.2.events = smooth.2.events ∧
      (∃ calls, Made toolchain reporter c calls start done.2 ∧
        Made toolchain smoothReporter c calls smoothStart smooth.2) ∧
      lines = smooth.2.audience.attempted ∧
      Narrates toolchain c ws tools colors done.1 lines ∧
      smooth.2.audience.sink = Console.printed lines ∧
      done.2.audience.sink = stream.writer.left sink lines ∧
      done.2.notes.Perm (smooth.2.notes ++ stream.writer.warnings sink lines) := by
  intro reporter smoothReporter start smoothStart done smooth lines
  have hstart : Abreast (Beside stream.writer sink) start smoothStart :=
    ⟨rfl, rfl, rfl, rfl, rfl, .refl _⟩
  obtain ⟨hanswer, hleft⟩ :=
    stayAbreast_run (hearAlike_console stream.writer sink colors) toolchain c _ _ hstart
  obtain ⟨answer, calls, hrun, hlines⟩ := exists_narrated toolchain c ws tools
  obtain ⟨hdone, hmade⟩ := hrun _ reporter start rfl rfl
  obtain ⟨-, hsmooth⟩ := hrun _ smoothReporter smoothStart rfl rfl
  have hattempted : lines = calls.filterMap (Call.line? colors) := hmade.attempted
  refine ⟨hanswer, hleft.workspace_eq, hleft.tools_eq, hleft.events_eq,
    ⟨calls, hmade, hsmooth⟩, hleft.related.attempted_eq, ?_, ?_, hleft.related.sink_eq,
    hleft.related.perm⟩
  · rw [hdone, hattempted]
    exact hlines colors
  · rw [hattempted]
    exact hsmooth.sink

end

/-! ### A stream that fails on a schedule -/

/-- A stream that keeps what is written, and a schedule of which steps succeed. A write that fails
has written one letter. -/
def scheduled : Stream (List Bool × String) where
  write text sink :=
    if sink.1.headD true then (.ok (), (sink.1.tail, sink.2 ++ text))
    else (.error .brokenPipe, (sink.1.tail, sink.2 ++ String.ofList (text.toList.take 1)))
  flush sink :=
    if sink.1.headD true then (.ok (), (sink.1.tail, sink.2))
    else (.error .brokenPipe, (sink.1.tail, sink.2))

/-- The second line fails while it is written, and the third one when it is flushed. -/
theorem two_lines_fail :
    let schedule := [true, true, true, false, true, true, false]
    let start : State Unit (Console (List Bool × String)) :=
      { workspace := twoStart.workspace, tools := (), audience := { sink := (schedule, "") } }
    let done := Step.perform (run (resultWriter id [1])
      (Console.reporter scheduled.writer false) plainConfig) start
    let summary : Summary :=
      ⟨⟨0, plainConfig.buildRoot⟩, [⟨"a", .fail .resultMismatch⟩, ⟨"b", .pass⟩]⟩
    done.1 = .ok summary ∧
      done.2.audience.attempted =
        ["[a] Result files differ!", "[b] Test Passed!", summary.text] ∧
      done.2.audience.sink.2 = "[a] Result files differ!\n[" ++ summary.text ++ "\n" ∧
      ∃ notes, done.2.notes.Perm (notes ++ [
        Part.console.warn ["error", "line"]
          "failed to write verdict output: Broken pipe (os error 32), [b] Test Passed!",
        Part.console.warn ["error", "line"]
          ("failed to write verdict output: Broken pipe (os error 32), " ++ summary.text)]) := by
  intro schedule start done summary
  have hanswer : done.1 = .ok summary :=
    (run_eq_ok_iff _ start).mpr
      ⟨plainConfig_accepted, rfl, _, cases_twoStart, reports_twoStart⟩
  have hdone : Step.perform (run (resultWriter id [1]) (Console.reporter scheduled.writer false)
      plainConfig) start = done := rfl
  clear_value done
  obtain ⟨-, -, -, -, -, -, hnarrates, -, hsink, hnotes⟩ := run_outlives_stream
    (resultWriter id [1]) plainConfig false scheduled (schedule, "") twoStart.workspace ()
  rw [hdone] at hnarrates hsink hnotes
  have hlines : done.2.audience.attempted =
      ["[a] Result files differ!", "[b] Test Passed!", summary.text] := by
    rw [hanswer] at hnarrates
    exact hnarrates.eq_of_ok
  rw [hlines] at hsink hnotes
  exact ⟨hanswer, hlines, (congrArg Prod.snd hsink).trans (by decide +kernel), _, hnotes⟩

end Suite

end GoldenSuite
