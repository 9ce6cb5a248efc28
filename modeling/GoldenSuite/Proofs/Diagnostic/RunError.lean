import GoldenSuite.Build.Error
import GoldenSuite.Case.Comparison
import GoldenSuite.Case.Discovery
import GoldenSuite.Case.Execution
import Mathlib.Data.List.Nodup

/-!
# Errors and their diagnostics

Each part of a run has errors of its own, and hands on those of the parts that it makes use of. A
diagnostic keeps the words of the error it was made from, whichever part has handed it on, its code
tells its category, and the exit code says whose fault it is.
-/

namespace GoldenSuite

/-- The diagnostic puts the blame on the inputs, on the system or on a program that was run. -/
def Diagnostic.Blames (d : Diagnostic) : Prop :=
  d.category ≠ .internal

/-- An error of one of the parts of a run. -/
inductive RunError where
  | config (error : ConfigError)
  | supervision (error : Child.SupervisionError)
  | build (error : BuildError)
  | discovery (error : DiscoveryError)
  | execution (error : ExecutionError)
  | comparison (error : ComparisonError)

namespace RunError

def message : RunError → String
  | .config error => error.message
  | .supervision error => error.message
  | .build error => error.message
  | .discovery error => error.message
  | .execution error => error.message
  | .comparison error => error.message

def diagnostic : RunError → Diagnostic
  | .config error => error.diagnostic
  | .supervision error => error.diagnostic
  | .build error => error.diagnostic
  | .discovery error => error.diagnostic
  | .execution error => error.diagnostic
  | .comparison error => error.diagnostic

/-- The first error is the second one, handed on by the build or by the execution of a case. -/
inductive HandsOn : RunError → RunError → Prop
  | config (error : ConfigError) : HandsOn (.build (.config error)) (.config error)
  | compiler (error : Child.SupervisionError) :
    HandsOn (.build (.supervision error)) (.supervision error)
  | simulator (error : Child.SupervisionError) :
    HandsOn (.execution (.supervision error)) (.supervision error)

theorem HandsOn.message_eq {outer inner : RunError} (h : outer.HandsOn inner) :
    outer.message = inner.message := by
  cases h <;> rfl

theorem HandsOn.diagnostic_eq {outer inner : RunError} (h : outer.HandsOn inner) :
    outer.diagnostic = inner.diagnostic := by
  cases h <;> rfl

theorem diagnostic_message (e : RunError) : e.diagnostic.message = e.message := by
  cases e with
  | config error => cases error <;> rfl
  | supervision error => cases error <;> rfl
  | build error =>
    cases error with
    | config inner => cases inner <;> rfl
    | supervision inner => cases inner <;> rfl
    | _ => rfl
  | discovery error => rfl
  | execution error =>
    cases error with
    | supervision inner => cases inner <;> rfl
    | uncleaned path fault => rfl
  | comparison error => cases error <;> rfl

/-! ### Codes -/

/-- The codes of the diagnostics, each with its category. -/
def codes : List (String × Category) :=
  [("INPUT.CONFIG", .input), ("INPUT.SOURCE_GLOB", .input), ("INPUT.BUILD_SOURCES", .input),
    ("INPUT.WORKING_DIR", .input), ("IO.CONFIG", .system), ("IO.BUILD_FILESYSTEM", .system),
    ("IO.PROCESS", .system), ("IO.CASE_DISCOVERY", .system), ("IO.CASE_OUTPUT", .system),
    ("IO.RESULT_ARTIFACT", .system), ("IO.ARTIFACT_READ", .system), ("RUN.SPAWN", .execution),
    ("RUN.BUILD_FAILED", .execution), ("RUN.BUILD_TIMEOUT", .execution)]

theorem mem_codes (e : RunError) : (e.diagnostic.code, e.diagnostic.category) ∈ codes := by
  have hconfig : ∀ error : ConfigError,
      (error.diagnostic.code, error.diagnostic.category) ∈ codes := by
    intro error
    cases error <;> simp [codes, ConfigError.diagnostic]
  have hsupervision : ∀ error : Child.SupervisionError,
      (error.diagnostic.code, error.diagnostic.category) ∈ codes := by
    intro error
    cases error <;> simp [codes, Child.SupervisionError.diagnostic]
  cases e with
  | config error => exact hconfig error
  | supervision error => exact hsupervision error
  | build error =>
    cases error with
    | config inner => exact hconfig inner
    | supervision inner => exact hsupervision inner
    | _ => simp [codes, diagnostic, BuildError.diagnostic]
  | discovery error => simp [codes, diagnostic, DiscoveryError.diagnostic]
  | execution error =>
    cases error with
    | supervision inner => exact hsupervision inner
    | uncleaned path fault => simp [codes, diagnostic, ExecutionError.diagnostic]
  | comparison error =>
    cases error <;> simp [codes, diagnostic, ComparisonError.diagnostic]

/-- No error of a run is one of the program itself. -/
theorem blames (e : RunError) : e.diagnostic.Blames := by
  have hall : ∀ entry ∈ codes, entry.2 ≠ .internal := by decide
  exact hall _ e.mem_codes

theorem nodup_codes : (codes.map Prod.fst).Nodup := by decide

theorem category_eq_of_code_eq {e e' : RunError} (h : e.diagnostic.code = e'.diagnostic.code) :
    e.diagnostic.category = e'.diagnostic.category := by
  have hsame := List.inj_on_of_nodup_map nodup_codes e.mem_codes e'.mem_codes h
  exact congrArg Prod.snd hsame

/-! ### Whose fault it is -/

/-- A fault of what a run was given. -/
inductive OfInputs : RunError → Prop
  | malformed (path : Path) (problem : Json.Problem) : OfInputs (.config (.malformed path problem))
  | badPattern (pattern : String) (mistake : Glob.Mistake) :
    OfInputs (.config (.badPattern pattern mistake))
  | invalid (reason : Config.Invalid) : OfInputs (.config (.invalid reason))
  | noSources (root : Path) (pattern : String) : OfInputs (.build (.noSources root pattern))
  | missingDirectory (path : Path) : OfInputs (.supervision (.missingDirectory path))
  | handedOn {outer inner : RunError} : HandsOn outer inner → OfInputs inner → OfInputs outer

/-- A program could not be started, or the compiler did not succeed. -/
inductive OfProgram : RunError → Prop
  | unstarted (program : String) (fault : Fault) : OfProgram (.supervision (.spawn program fault))
  | compilerFailed (compiler : String) (status : Child.Status) (stderr : String) :
    OfProgram (.build (.compilerFailed compiler status stderr))
  | compilerLate (compiler : String) (limit : Duration) :
    OfProgram (.build (.timedOut compiler limit))
  | handedOn {outer inner : RunError} : HandsOn outer inner → OfProgram inner → OfProgram outer

variable {e : RunError}

theorem OfInputs.category_eq (h : e.OfInputs) : e.diagnostic.category = .input := by
  induction h with
  | handedOn hands _ ih => rw [hands.diagnostic_eq, ih]
  | _ => rfl

theorem OfProgram.category_eq (h : e.OfProgram) : e.diagnostic.category = .execution := by
  induction h with
  | handedOn hands _ ih => rw [hands.diagnostic_eq, ih]
  | _ => rfl

/-- An error is the fault of the inputs, of a program, or of the system. -/
theorem fault_cases (e : RunError) :
    e.OfInputs ∨ e.OfProgram ∨ e.diagnostic.category = .system := by
  have hconfig : ∀ error : ConfigError,
      OfInputs (.config error) ∨ (RunError.config error).diagnostic.category = .system := by
    intro error
    cases error with
    | unreadable path fault => exact .inr rfl
    | malformed path problem => exact .inl (.malformed path problem)
    | badPattern pattern mistake => exact .inl (.badPattern pattern mistake)
    | invalid reason => exact .inl (.invalid reason)
  have hsupervision : ∀ error : Child.SupervisionError, OfInputs (.supervision error) ∨
      OfProgram (.supervision error) ∨
        (RunError.supervision error).diagnostic.category = .system := by
    intro error
    cases error with
    | spawn program fault => exact .inr (.inl (.unstarted program fault))
    | capture program fault => exact .inr (.inr rfl)
    | wait program fault => exact .inr (.inr rfl)
    | missingDirectory path => exact .inl (.missingDirectory path)
  have hhanded : ∀ outer inner : RunError, outer.HandsOn inner →
      (inner.OfInputs ∨ inner.OfProgram ∨ inner.diagnostic.category = .system) →
        outer.OfInputs ∨ outer.OfProgram ∨ outer.diagnostic.category = .system := by
    rintro outer inner hands (hinputs | hprogram | hsystem)
    · exact .inl (.handedOn hands hinputs)
    · exact .inr (.inl (.handedOn hands hprogram))
    · exact .inr (.inr (hands.diagnostic_eq ▸ hsystem))
  cases e with
  | config error => exact (hconfig error).imp_right .inr
  | supervision error => exact hsupervision error
  | build error =>
    cases error with
    | config inner => exact hhanded _ _ (.config inner) ((hconfig inner).imp_right .inr)
    | supervision inner => exact hhanded _ _ (.compiler inner) (hsupervision inner)
    | noSources root pattern => exact .inl (.noSources root pattern)
    | compilerFailed compiler status stderr =>
      exact .inr (.inl (.compilerFailed compiler status stderr))
    | timedOut compiler limit => exact .inr (.inl (.compilerLate compiler limit))
    | unreadableSources path fault => exact .inr (.inr rfl)
    | directory path fault => exact .inr (.inr rfl)
  | discovery error => exact .inr (.inr rfl)
  | execution error =>
    cases error with
    | supervision inner => exact hhanded _ _ (.simulator inner) (hsupervision inner)
    | uncleaned path fault => exact .inr (.inr rfl)
  | comparison error =>
    cases error with
    | missing artifact side path => exact .inr (.inr rfl)
    | unreadable path fault => exact .inr (.inr rfl)

/-- The exit code two is for the inputs, four for a program that was to be run, and three for
everything else. -/
theorem exitCode_iff (e : RunError) :
    (e.diagnostic.exitCode = 2 ↔ e.OfInputs) ∧ (e.diagnostic.exitCode = 4 ↔ e.OfProgram) ∧
      (e.diagnostic.exitCode = 3 ↔ ¬ e.OfInputs ∧ ¬ e.OfProgram) := by
  have hinputs : e.OfInputs → e.diagnostic.exitCode = 2 := fun h => by
    rw [Diagnostic.exitCode, h.category_eq]
    rfl
  have hprogram : e.OfProgram → e.diagnostic.exitCode = 4 := fun h => by
    rw [Diagnostic.exitCode, h.category_eq]
    rfl
  rcases e.fault_cases with hin | hprog | hsys
  · have hcode := hinputs hin
    have hnot : ¬ e.OfProgram := fun h => absurd (hcode.symm.trans (hprogram h)) (by decide)
    simp [hcode, hin, hnot]
  · have hcode := hprogram hprog
    have hnot : ¬ e.OfInputs := fun h => absurd (hcode.symm.trans (hinputs h)) (by decide)
    simp [hcode, hprog, hnot]
  · have hcode : e.diagnostic.exitCode = 3 := by
      rw [Diagnostic.exitCode, hsys]
      rfl
    have hin : ¬ e.OfInputs := fun h => absurd (hcode.symm.trans (hinputs h)) (by decide)
    have hprog : ¬ e.OfProgram := fun h => absurd (hcode.symm.trans (hprogram h)) (by decide)
    simp [hcode, hin, hprog]

/-! ### All of it -/

/-- A diagnostic says what its error says; an error that is handed on has the diagnostic that it
has by itself; the exit code tells the faults of the inputs and of the programs from all others;
and no code stands for two categories. -/
theorem diagnostic_keeps_all :
    (∀ e : RunError, e.diagnostic.message = e.message) ∧
      (∀ outer inner : RunError, outer.HandsOn inner →
        outer.message = inner.message ∧ outer.diagnostic = inner.diagnostic ∧
          outer.diagnostic.exitCode = inner.diagnostic.exitCode) ∧
      (∀ e : RunError, (e.diagnostic.exitCode = 2 ↔ e.OfInputs) ∧
        (e.diagnostic.exitCode = 4 ↔ e.OfProgram) ∧
        (e.diagnostic.exitCode = 3 ↔ ¬ e.OfInputs ∧ ¬ e.OfProgram)) ∧
      ∀ e e' : RunError, e.diagnostic.code = e'.diagnostic.code →
        e.diagnostic.category = e'.diagnostic.category := by
  refine ⟨diagnostic_message, fun outer inner hands => ?_, exitCode_iff,
    fun e e' hcode => category_eq_of_code_eq hcode⟩
  exact ⟨hands.message_eq, hands.diagnostic_eq, congrArg _ hands.diagnostic_eq⟩

theorem unstarted_program_told_alike :
    let unstarted : Child.SupervisionError := .spawn "javac" .notFound
    let mistyped : RunError := .config (.malformed ⟨"simcheck.json"⟩ ⟨.trailingComma, 1, 2⟩)
    let clashing : RunError := .build (.config (.invalid (.sameArtifact "a")))
    (HandsOn (.build (.supervision unstarted)) (.supervision unstarted) ∧
        HandsOn (.execution (.supervision unstarted)) (.supervision unstarted)) ∧
      mistyped.diagnostic.code = clashing.diagnostic.code ∧
      (RunError.build (.supervision unstarted)).diagnostic =
        (RunError.execution (.supervision unstarted)).diagnostic ∧
      mistyped.diagnostic.category = clashing.diagnostic.category := by
  intro unstarted mistyped clashing
  have hbuild := HandsOn.compiler unstarted
  have hexecution := HandsOn.simulator unstarted
  have hcode : mistyped.diagnostic.code = clashing.diagnostic.code := rfl
  obtain ⟨-, hhands, -, hcategory⟩ := diagnostic_keeps_all
  have hfirst := (hhands _ _ hbuild).2.1
  have hsecond := (hhands _ _ hexecution).2.1
  exact ⟨⟨hbuild, hexecution⟩, hcode, hfirst.trans hsecond.symm, hcategory _ _ hcode⟩

end RunError

end GoldenSuite
