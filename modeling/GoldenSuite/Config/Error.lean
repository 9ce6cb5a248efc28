import GoldenSuite.Diagnostic
import GoldenSuite.Fault
import GoldenSuite.Glob.Token
import GoldenSuite.Json.Cursor
import GoldenSuite.Path.Basic

/-!
# What can be wrong with a configuration

Its file cannot be read, its text is not a configuration, its pattern for sources is not one,
or its values do not go together.
-/

namespace GoldenSuite

/-- A value of a configuration that is not allowed. -/
inductive Config.Invalid where
  /-- A value that has to name something is blank. -/
  | blank (field : String)
  /-- A path leaves the case directory. -/
  | outside (field : String) (path : Path)
  /-- A path is the case directory itself. -/
  | wholeCase (field : String)
  /-- The output directory and the golden directory contain one another. -/
  | overlapping (output expected : Path)
  /-- The two artifacts have the same name. -/
  | sameArtifact (name : String)
  /-- Something else, in these words. -/
  | described (text : String)
deriving DecidableEq, Repr

/-- The wording of a value that is not allowed. -/
def Config.Invalid.message : Config.Invalid → String
  | .blank field => s!"'{field}' must not be empty"
  | .outside field path =>
    s!"'{field}' must be a relative path inside the case directory, got '{path.shown}'"
  | .wholeCase field => s!"'{field}' must name a subdirectory of the case directory"
  | .overlapping output expected =>
    s!"caseOutputDir '{output.shown}' and caseExpectedDir '{expected.shown}' " ++
      "must not contain one another"
  | .sameArtifact name => s!"logArtifact and resultArtifact must differ (both are '{name}')"
  | .described text => text

/-- What is wrong with a configuration. -/
inductive ConfigError where
  | unreadable (path : Path) (fault : Fault)
  | malformed (path : Path) (problem : Json.Problem)
  | badPattern (pattern : String) (mistake : Glob.Mistake)
  | invalid (reason : Config.Invalid)
deriving DecidableEq, Repr

namespace ConfigError

/-- The wording of an error. -/
def message : ConfigError → String
  | .unreadable path fault => s!"failed to read config '{path.shown}': {fault.message}"
  | .malformed path problem => s!"failed to parse config '{path.shown}': {problem.message}"
  | .badPattern pattern mistake =>
    s!"invalid source glob '{pattern}': error parsing glob '{pattern}': {mistake.message}"
  | .invalid reason => s!"invalid config: {reason.message}"

/-- The diagnostic that an error ends a run with. -/
def diagnostic (e : ConfigError) : Diagnostic :=
  match e with
  | .unreadable _ _ => ⟨.system, "IO.CONFIG", e.message⟩
  | .malformed _ _ => ⟨.input, "INPUT.CONFIG", e.message⟩
  | .badPattern _ _ => ⟨.input, "INPUT.SOURCE_GLOB", e.message⟩
  | .invalid _ => ⟨.input, "INPUT.CONFIG", e.message⟩

end ConfigError

end GoldenSuite
