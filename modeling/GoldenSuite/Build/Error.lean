import GoldenSuite.Child.Supervision
import GoldenSuite.Config.Error

/-!
# Why a build failed

The sources could not be found or read, the build directory could not be made, or the compiler
could not be run or did not succeed. Errors of a configuration or of supervision stay what they
are.
-/

namespace GoldenSuite

/-- Why a build failed. -/
inductive BuildError where
  | config (error : ConfigError)
  | unreadableSources (path : Path) (fault : Fault)
  | noSources (root : Path) (pattern : String)
  | directory (path : Path) (fault : Fault)
  | supervision (error : Child.SupervisionError)
  | compilerFailed (compiler : String) (status : Child.Status) (stderr : String)
  | timedOut (compiler : String) (limit : Duration)
deriving DecidableEq, Repr

namespace BuildError

/-- What a compiler reported, on lines of its own. -/
def report (stderr : String) : String :=
  if stderr = "" then "" else s!":\n{stderr}"

/-- The wording of an error. -/
def message : BuildError → String
  | .config error => error.message
  | .unreadableSources path fault =>
    s!"failed to read source directory '{path.shown}': {fault.message}"
  | .noSources root pattern => s!"no source files matching '{pattern}' under '{root.shown}'"
  | .directory path fault =>
    s!"failed to create build directory '{path.shown}': {fault.message}"
  | .supervision error => error.message
  | .compilerFailed compiler status stderr =>
    s!"compiler '{compiler}' failed with {status.text}{report stderr}"
  | .timedOut compiler limit => s!"compiler '{compiler}' timed out after {limit.seconds}s"

/-- The diagnostic that an error ends a run with. -/
def diagnostic (e : BuildError) : Diagnostic :=
  match e with
  | .config error => error.diagnostic
  | .supervision error => error.diagnostic
  | .noSources _ _ => ⟨.input, "INPUT.BUILD_SOURCES", e.message⟩
  | .unreadableSources _ _ => ⟨.system, "IO.BUILD_FILESYSTEM", e.message⟩
  | .directory _ _ => ⟨.system, "IO.BUILD_FILESYSTEM", e.message⟩
  | .compilerFailed _ _ _ => ⟨.execution, "RUN.BUILD_FAILED", e.message⟩
  | .timedOut _ _ => ⟨.execution, "RUN.BUILD_TIMEOUT", e.message⟩

end BuildError

end GoldenSuite
