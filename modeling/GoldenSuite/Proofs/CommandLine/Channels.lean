import GoldenSuite.CommandLine.Run
import GoldenSuite.Proofs.Build.Stages
import GoldenSuite.Proofs.Config.Conditions
import GoldenSuite.Proofs.Diagnostic.RunError
import GoldenSuite.Proofs.Suite.Green
import GoldenSuite.Proofs.Suite.Narration
import GoldenSuite.Proofs.Text.Decoding

/-!
# The three channels of a command line

A command line answers with an exit code, with what it prints and with lines about what went
wrong. `run_channels` says that the three tell the same story, unless the program panics: then
there is no story but an exit code that stands for no error.
-/

namespace GoldenSuite

/-! ### Errors of the external toolchain -/

namespace Toolchain

variable {launcher : Child.Launcher} {c : Config}

theorem answer_reply {ε α : Type} {diagnose : ε → Halt Diagnostic} {step : Act ε α}
    {ws : Workspace} {commands : List Child.Command} {halt : Halt Diagnostic}
    (h : (reply diagnose step ws commands).answer = .error halt) :
    ∃ e, (step.perform ⟨ws, commands, []⟩).1 = .error e ∧ halt = diagnose e := by
  unfold reply at h
  cases ha : (step.perform ⟨ws, commands, []⟩).1 with
  | ok a => simp [ha] at h
  | error e =>
    simp only [ha, mapError_error, Except.error.injEq] at h
    exact ⟨e, rfl, h.symm⟩

variable {ws : Workspace} {commands : List Child.Command} {case : TestCase} {d : Diagnostic}

theorem blames_build (h : ((external launcher).build c ws commands).answer = .error (.error d)) :
    d.Blames := by
  obtain ⟨e | _, -, he⟩ := answer_reply h
  · cases he
    exact RunError.blames (.build e)
  · cases he

theorem blames_execute
    (h : ((external launcher).execute c case ws commands).answer = .error (.error d)) :
    d.Blames := by
  obtain ⟨e, -, he⟩ := answer_reply h
  cases he
  exact RunError.blames (.execution e)

end Toolchain

namespace Suite

variable {σ : Type} {toolchain : Toolchain σ} {c : Config}

theorem exists_execute_of_trial {cases : List TestCase} {ws : Workspace} {tools : σ}
    {t : Trial σ} (h : t ∈ trials toolchain c cases ws tools) :
    ∃ before state, t.reply = toolchain.execute c t.case before state := by
  induction cases generalizing ws tools with
  | nil => simp [trials] at h
  | cons case others ih =>
    rw [trials_cons] at h
    rcases List.mem_cons.mp h with rfl | h
    · exact ⟨ws, tools, rfl⟩
    · exact ih h

theorem judgement_eq_error {t : Trial σ} {halt : Halt Diagnostic}
    (h : t.judgement c = .error halt) :
    t.reply.answer = .error halt ∨ ∃ e : ComparisonError, halt = .error e.diagnostic := by
  cases ha : t.reply.answer with
  | error e =>
    rw [Trial.judgement_of_error ha, Except.error.injEq] at h
    exact .inl (congrArg Except.error h)
  | ok outcome =>
    cases hf : outcome.failure? with
    | some reason =>
      rw [Trial.judgement_of_failure ha hf] at h
      cases h
    | none =>
      rw [Trial.judgement_of_succeeded (Trial.succeeded_of_no_failure ha hf)] at h
      split at h
      · cases h
      · next e _ =>
        rw [Except.error.injEq] at h
        exact .inr ⟨e, h.symm⟩

section
variable {launcher : Child.Launcher} {ws : Workspace} {commands : List Child.Command}
  {finished : List CaseReport}

/-- Why the external toolchain lets a case go without a judgement. -/
theorem halt_of_unjudged {cases : List TestCase} {t : Trial (List Child.Command)}
    {halt : Halt Diagnostic} (ht : t ∈ trials (.external launcher) c cases ws commands)
    (h : t.judgement c = .error halt) :
    (∃ before state, ((Toolchain.external launcher).execute c t.case before state).answer =
      .error halt) ∨ ∃ e : ComparisonError, halt = .error e.diagnostic := by
  refine (judgement_eq_error h).imp_left fun hanswer => ?_
  obtain ⟨before, state, hreply⟩ := exists_execute_of_trial ht
  exact ⟨before, state, hreply ▸ hanswer⟩

theorem Stopped.blames {d : Diagnostic}
    (h : Stopped (.external launcher) c ws commands (.error d) finished) : d.Blames := by
  generalize hhalt : Halt.error d = halt at h
  cases h with
  | @invalid e _ =>
    cases e with
    | error e =>
      cases hhalt
      exact RunError.blames (.config e)
    | panic => cases hhalt
  | unbuilt _ hb => exact Toolchain.blames_build (hhalt ▸ hb)
  | undiscovered _ _ _ =>
    cases hhalt
    exact RunError.blames (.discovery _)
  | @unjudged _ _ done rest t _ _ _ _ _ hts _ ht =>
    have hmem : t ∈ done ++ t :: rest := by simp
    rw [← hts] at hmem
    rcases halt_of_unjudged hmem ht with ⟨before, state, hanswer⟩ | ⟨e, rfl⟩
    · exact Toolchain.blames_execute (hhalt ▸ hanswer)
    · cases hhalt
      exact RunError.blames (.comparison e)

end

end Suite

/-! ### Command lines -/

namespace CommandLine

open Console (printed verdictLine)
open Suite (exitCode_eq)

/-- A command line comes as far as running the suite of a configuration. -/
structure Reaches (request : Request) (options : Options) (c : Config) : Prop where
  read : request.read = .ok options
  configured : ∃ workingDir, request.workingDir = .ok workingDir ∧
    effectiveConfig request.workspace workingDir options = .ok c

def Request.colors (request : Request) : Bool :=
  match request.read with
  | .ok options => (options.color.getD .auto).enabled request.terminal
  | .error _ => false

/-- A command line ends with this diagnostic or in this panic, after these reports. -/
inductive Ended (launcher : Child.Launcher) (request : Request) :
    Halt Diagnostic → List CaseReport → Prop where
  | unread : request.read = .error .panic → Ended launcher request .panic []
  | misused {e : UsageError} : request.read = .error (.error (.usage e)) →
      Ended launcher request (request.usageDiagnostic e) []
  | lost {options : Options} {fault : Fault} : request.read = .ok options →
      request.workingDir = .error fault → Ended launcher request (workingDirDiagnostic fault) []
  | unconfigured {options : Options} {workingDir : Path} {e : ConfigError} :
      request.read = .ok options → request.workingDir = .ok workingDir →
      effectiveConfig request.workspace workingDir options = .error e →
      Ended launcher request e.diagnostic []
  | stopped {options : Options} {c : Config} {halt : Halt Diagnostic}
      {finished : List CaseReport} : Reaches request options c →
      Suite.Stopped (.external launcher) c request.workspace [] halt finished →
      Ended launcher request halt finished

section
variable {launcher : Child.Launcher} {request : Request} {finished : List CaseReport}

theorem Request.read_of_texts {texts : List String}
    (h : request.arguments.mapM Text.decode? = some texts) :
    request.read = (CommandLine.read texts).mapError Halt.error := by
  rw [Request.read, h]

theorem Ended.blames {d : Diagnostic} (h : Ended launcher request (.error d) finished) :
    d.Blames := by
  generalize hhalt : Halt.error d = halt at h
  cases h with
  | unread _ => cases hhalt
  | misused _ =>
    cases hhalt
    exact fun h => Category.noConfusion h
  | lost _ _ =>
    cases hhalt
    exact fun h => Category.noConfusion h
  | unconfigured _ _ _ =>
    cases hhalt
    exact RunError.blames (.config _)
  | stopped _ h => exact (hhalt ▸ h).blames

end

/-- The lines about what ended a run. -/
def haltLines : Halt Diagnostic → List String
  | .error d => [d.line, d.exitLine]
  | .panic => []

/-- A command line that ends without a summary tells this on its three channels. -/
structure Tells (launcher : Child.Launcher) (request : Request) (halt : Halt Diagnostic)
    (finished : List CaseReport) : Prop where
  code : (run launcher request).code = halt.exitCode
  output : (run launcher request).output = printed (finished.map (verdictLine request.colors))
  errorLines : (run launcher request).errorLines = haltLines halt

end CommandLine

end GoldenSuite
