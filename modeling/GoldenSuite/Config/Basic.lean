import GoldenSuite.Path.Basic
import GoldenSuite.Child.Status

/-!
# The configuration of a suite

A configuration says where the sources, the build and the cases are, how the compiler and the
simulator are called, and how strict a run is. The defaults describe the usual layout: sources
in `src`, compiled classes in `bin`, and cases with their inputs and golden files below
`test/IntegrationTests`.
-/

namespace GoldenSuite

/-- What happens to a case whose log is there on one side only. -/
inductive LogPolicy where
  /-- Its logs are not compared. -/
  | lenient
  /-- It fails. -/
  | strict
deriving DecidableEq, Repr

/-- The name of a policy in a configuration. -/
def LogPolicy.name : LogPolicy → String
  | .lenient => "lenient"
  | .strict => "strict"

/-- The configuration of a suite. -/
structure Config where
  /-- What the next four paths are seen from, and where child processes start. -/
  root : Path := ⟨"."⟩
  sourceDir : Path := ⟨"src"⟩
  /-- Which files below the source directory are sources. -/
  sourceGlob : String := "**/*.java"
  buildDir : Path := ⟨"bin"⟩
  testsDir : Path := ⟨"test/IntegrationTests"⟩
  /-- Where a case keeps its input, its output and its golden files. -/
  caseInputDir : Path := ⟨"src"⟩
  caseOutputDir : Path := ⟨"src/out"⟩
  caseExpectedDir : Path := ⟨"expected_out"⟩
  logArtifact : String := "log.txt"
  resultArtifact : String := "result.txt"
  compiler : String := "javac"
  compilerArgs : List String := []
  outputFlag : String := "-d"
  runtime : String := "java"
  classpathFlag : String := "-cp"
  entryPoint : String := "Source.HDLSim"
  simulatorArgs : List String := []
  /-- Zero sets no limit. -/
  buildTimeoutSecs : Nat := 300
  testTimeoutSecs : Nat := 60
  logPolicy : LogPolicy := .lenient
  /-- Whether the output directory of a case is removed before the case is run. -/
  cleanOutputs : Bool := false
deriving DecidableEq, Repr

namespace Config

/-- The file that is read when the command line names none. -/
def defaultFile : Path := ⟨"simcheck.json"⟩

/-! ### Places -/

/-- The directory of the sources. -/
def sourceRoot (c : Config) : Path :=
  c.root.join c.sourceDir

/-- The directory that the compiler writes to. -/
def buildRoot (c : Config) : Path :=
  c.root.join c.buildDir

/-- The directory of the cases. -/
def testsRoot (c : Config) : Path :=
  c.root.join c.testsDir

/-- The same configuration with its root seen from a working directory. -/
def resolveRoot (c : Config) (workingDir : Path) : Config :=
  { c with root := workingDir.join c.root }

theorem resolveRoot_of_isAbsolute {c : Config} {workingDir : Path}
    (h : c.root.isAbsolute = true) : c.resolveRoot workingDir = c := by
  simp [resolveRoot, Path.join_of_isAbsolute h]

/-! ### Limits -/

/-- How long the compiler may run. -/
def buildLimit (c : Config) : Option Duration :=
  Duration.limit? c.buildTimeoutSecs

/-- How long the simulator may run for one case. -/
def testLimit (c : Config) : Option Duration :=
  Duration.limit? c.testTimeoutSecs

end Config

end GoldenSuite
