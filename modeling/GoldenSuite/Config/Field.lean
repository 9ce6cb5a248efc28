import GoldenSuite.Config.Basic

/-!
# The fields of a configuration

A configuration is written as an object with one key for each field, or as a list of the values
of its fields in their order.
-/

namespace GoldenSuite.Config

/-- A field of a configuration. -/
inductive Field where
  | root
  | sourceDir
  | sourceGlob
  | buildDir
  | testsDir
  | caseInputDir
  | caseOutputDir
  | caseExpectedDir
  | logArtifact
  | resultArtifact
  | compiler
  | compilerArgs
  | outputFlag
  | runtime
  | classpathFlag
  | entryPoint
  | simulatorArgs
  | buildTimeoutSecs
  | testTimeoutSecs
  | logPolicy
  | cleanOutputs
deriving DecidableEq, Repr

namespace Field

/-- The fields in their order. -/
def all : List Field :=
  [.root, .sourceDir, .sourceGlob, .buildDir, .testsDir, .caseInputDir, .caseOutputDir,
   .caseExpectedDir, .logArtifact, .resultArtifact, .compiler, .compilerArgs, .outputFlag,
   .runtime, .classpathFlag, .entryPoint, .simulatorArgs, .buildTimeoutSecs, .testTimeoutSecs,
   .logPolicy, .cleanOutputs]

def key : Field → String
  | .root => "root"
  | .sourceDir => "sourceDir"
  | .sourceGlob => "sourceGlob"
  | .buildDir => "buildDir"
  | .testsDir => "testsDir"
  | .caseInputDir => "caseInputDir"
  | .caseOutputDir => "caseOutputDir"
  | .caseExpectedDir => "caseExpectedDir"
  | .logArtifact => "logArtifact"
  | .resultArtifact => "resultArtifact"
  | .compiler => "compiler"
  | .compilerArgs => "compilerArgs"
  | .outputFlag => "outputFlag"
  | .runtime => "runtime"
  | .classpathFlag => "classpathFlag"
  | .entryPoint => "entryPoint"
  | .simulatorArgs => "simulatorArgs"
  | .buildTimeoutSecs => "buildTimeoutSecs"
  | .testTimeoutSecs => "testTimeoutSecs"
  | .logPolicy => "logPolicy"
  | .cleanOutputs => "cleanOutputs"

def ofKey? (key : String) : Option Field :=
  all.find? fun field => field.key == key

/-- The keys in their order. -/
def keys : List String :=
  all.map key

theorem mem_all (field : Field) : field ∈ all := by
  cases field <;> decide

theorem ofKey?_key (field : Field) : ofKey? field.key = some field := by
  cases field <;> decide +kernel

theorem key_of_ofKey? {key : String} {field : Field} (h : ofKey? key = some field) :
    field.key = key := by
  simpa using List.find?_some h

end Field

end GoldenSuite.Config
