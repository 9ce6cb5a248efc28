import GoldenSuite.Config.Basic
import GoldenSuite.Config.Error
import GoldenSuite.Glob.Compiling
import GoldenSuite.Text.Blank

/-!
# Valid configurations

A run accepts a configuration when its pattern is one, the values that name something are not
blank, and cleaning the output of a case can never reach its golden files: both directories lie
strictly inside the case directory and neither contains the other. The paths are judged by
their components, so that every spelling of a path is judged alike. A pattern that can be read
but not compiled is not refused: whoever asks for it panics.
-/

namespace GoldenSuite.Config

/-- A pattern that is ready to be matched. -/
@[irreducible]
def compiledPattern (glob : String) : Except (Halt ConfigError) Glob.Pattern :=
  match Glob.Pattern.ofText glob with
  | .ok pattern => if pattern.Compiles then .ok pattern else .error .panic
  | .error mistake => .error (.error (.badPattern glob mistake))

/-- The pattern for sources. -/
def sourcePattern (c : Config) : Except (Halt ConfigError) Glob.Pattern :=
  compiledPattern c.sourceGlob

theorem sourcePattern_eq_ok_iff {c : Config} {pattern : Glob.Pattern} :
    c.sourcePattern = .ok pattern ↔
      Glob.Pattern.ofText c.sourceGlob = .ok pattern ∧ pattern.Compiles := by
  unfold sourcePattern compiledPattern
  cases Glob.Pattern.ofText c.sourceGlob with
  | error mistake => simp
  | ok p =>
    by_cases hcompiles : p.Compiles
    · simp only [hcompiles, if_true, Except.ok.injEq]
      exact ⟨fun h => ⟨h, h ▸ hcompiles⟩, And.left⟩
    · simp only [hcompiles, if_false, reduceCtorEq, Except.ok.injEq, false_iff, not_and]
      rintro rfl
      exact hcompiles

/-- The values that must not be blank, with their keys. -/
def required (c : Config) : List (String × String) :=
  [("compiler", c.compiler), ("runtime", c.runtime), ("entryPoint", c.entryPoint),
   ("logArtifact", c.logArtifact), ("resultArtifact", c.resultArtifact)]

/-- Refuses the first value that is blank. -/
def checkRequired : List (String × String) → Except ConfigError Unit
  | [] => .ok ()
  | (key, value) :: others =>
    if Text.allBlank value then .error (.invalid (.blank key)) else checkRequired others

/-- The names among components, without any `.`; refused when there is a `..` or a root. -/
def innerNames? : List Path.Component → Option (List String)
  | [] => some []
  | .current :: others => innerNames? others
  | .normal name :: others => (innerNames? others).map (name :: ·)
  | .parent :: _ => none
  | .root :: _ => none

/-- The names on the way from a case directory to a path strictly inside it. -/
def caseNames (key : String) (p : Path) : Except ConfigError (List String) :=
  match innerNames? p.components with
  | none => .error (.invalid (.outside key p))
  | some [] => .error (.invalid (.wholeCase key))
  | some names => .ok names

/-- Refuses values that a run cannot work with, with the first reason there is. -/
def checkValues (c : Config) : Except ConfigError Unit := do
  checkRequired c.required
  let output ← caseNames "caseOutputDir" c.caseOutputDir
  let expected ← caseNames "caseExpectedDir" c.caseExpectedDir
  if output.isPrefixOf expected || expected.isPrefixOf output then
    throw (.invalid (.overlapping c.caseOutputDir c.caseExpectedDir))
  if c.logArtifact = c.resultArtifact then
    throw (.invalid (.sameArtifact c.resultArtifact))

/-- Refuses a configuration that a run cannot work with: its pattern is looked at before its other
values. -/
def validate (c : Config) : Except (Halt ConfigError) Unit := do
  discard c.sourcePattern
  c.checkValues.mapError Halt.error

end GoldenSuite.Config
