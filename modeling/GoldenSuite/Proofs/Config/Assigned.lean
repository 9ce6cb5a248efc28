import GoldenSuite.Config.Field

/-!
# Fields and their values

Every field has a kind of value; a configuration is the values of its fields, and an assignment
changes the value of its own field and of no other.
-/

namespace GoldenSuite.Config

/-- What a field holds. -/
inductive Kind where
  | path
  | text
  | texts
  | natural
  | policy
  | flag
deriving DecidableEq, Repr

/-- The values of a kind. -/
def Kind.Carrier : Kind → Type
  | .path => Path
  | .text => String
  | .texts => List String
  | .natural => Nat
  | .policy => LogPolicy
  | .flag => Bool

def Field.kind : Field → Kind
  | .root | .sourceDir | .buildDir | .testsDir => .path
  | .caseInputDir | .caseOutputDir | .caseExpectedDir => .path
  | .sourceGlob | .logArtifact | .resultArtifact => .text
  | .compiler | .outputFlag | .runtime | .classpathFlag | .entryPoint => .text
  | .compilerArgs | .simulatorArgs => .texts
  | .buildTimeoutSecs | .testTimeoutSecs => .natural
  | .logPolicy => .policy
  | .cleanOutputs => .flag

/-- The value of a field. -/
def valueOf (c : Config) : (field : Field) → field.kind.Carrier
  | .root => c.root
  | .sourceDir => c.sourceDir
  | .sourceGlob => c.sourceGlob
  | .buildDir => c.buildDir
  | .testsDir => c.testsDir
  | .caseInputDir => c.caseInputDir
  | .caseOutputDir => c.caseOutputDir
  | .caseExpectedDir => c.caseExpectedDir
  | .logArtifact => c.logArtifact
  | .resultArtifact => c.resultArtifact
  | .compiler => c.compiler
  | .compilerArgs => c.compilerArgs
  | .outputFlag => c.outputFlag
  | .runtime => c.runtime
  | .classpathFlag => c.classpathFlag
  | .entryPoint => c.entryPoint
  | .simulatorArgs => c.simulatorArgs
  | .buildTimeoutSecs => c.buildTimeoutSecs
  | .testTimeoutSecs => c.testTimeoutSecs
  | .logPolicy => c.logPolicy
  | .cleanOutputs => c.cleanOutputs

/-- The same configuration with another value for a field. -/
def withValue (c : Config) : (field : Field) → field.kind.Carrier → Config
  | .root, value => { c with root := value }
  | .sourceDir, value => { c with sourceDir := value }
  | .sourceGlob, value => { c with sourceGlob := value }
  | .buildDir, value => { c with buildDir := value }
  | .testsDir, value => { c with testsDir := value }
  | .caseInputDir, value => { c with caseInputDir := value }
  | .caseOutputDir, value => { c with caseOutputDir := value }
  | .caseExpectedDir, value => { c with caseExpectedDir := value }
  | .logArtifact, value => { c with logArtifact := value }
  | .resultArtifact, value => { c with resultArtifact := value }
  | .compiler, value => { c with compiler := value }
  | .compilerArgs, value => { c with compilerArgs := value }
  | .outputFlag, value => { c with outputFlag := value }
  | .runtime, value => { c with runtime := value }
  | .classpathFlag, value => { c with classpathFlag := value }
  | .entryPoint, value => { c with entryPoint := value }
  | .simulatorArgs, value => { c with simulatorArgs := value }
  | .buildTimeoutSecs, value => { c with buildTimeoutSecs := value }
  | .testTimeoutSecs, value => { c with testTimeoutSecs := value }
  | .logPolicy, value => { c with logPolicy := value }
  | .cleanOutputs, value => { c with cleanOutputs := value }

@[simp] theorem valueOf_withValue_same (c : Config) (field : Field) (value : field.kind.Carrier) :
    (c.withValue field value).valueOf field = value := by
  cases field <;> rfl

theorem valueOf_withValue_of_ne (c : Config) {field other : Field} (value : field.kind.Carrier)
    (h : other ≠ field) : (c.withValue field value).valueOf other = c.valueOf other := by
  cases field <;> cases other <;> first | rfl | exact absurd rfl h

/-- A configuration has nothing besides the values of its fields. -/
theorem eq_of_valueOf {c d : Config} (h : ∀ field, c.valueOf field = d.valueOf field) : c = d := by
  obtain ⟨_, _, _, _, _, _, _, _, _, _, _, _, _, _, _, _, _, _, _, _, _⟩ := c
  obtain ⟨_, _, _, _, _, _, _, _, _, _, _, _, _, _, _, _, _, _, _, _, _⟩ := d
  simp only [Config.mk.injEq]
  exact ⟨h .root, h .sourceDir, h .sourceGlob, h .buildDir, h .testsDir, h .caseInputDir,
    h .caseOutputDir, h .caseExpectedDir, h .logArtifact, h .resultArtifact, h .compiler,
    h .compilerArgs, h .outputFlag, h .runtime, h .classpathFlag, h .entryPoint,
    h .simulatorArgs, h .buildTimeoutSecs, h .testTimeoutSecs, h .logPolicy, h .cleanOutputs⟩

/-! ### Assignments -/

/-- A field and a value for it. -/
structure Assignment where
  field : Field
  value : field.kind.Carrier

def Assignment.key (a : Assignment) : String :=
  a.field.key

/-- The configuration after assignments, one after the other. -/
def assign (c : Config) (assignments : List Assignment) : Config :=
  assignments.foldl (fun c a => c.withValue a.field a.value) c

@[simp] theorem assign_cons (c : Config) (a : Assignment) (others : List Assignment) :
    c.assign (a :: others) = (c.withValue a.field a.value).assign others := rfl

theorem valueOf_assign_of_notMem (c : Config) {assignments : List Assignment} {field : Field}
    (h : field ∉ assignments.map Assignment.field) :
    (c.assign assignments).valueOf field = c.valueOf field := by
  induction assignments generalizing c with
  | nil => rfl
  | cons a others ih =>
    rw [List.map_cons, List.mem_cons, not_or] at h
    rw [assign_cons, ih _ h.2, valueOf_withValue_of_ne c a.value h.1]

theorem valueOf_assign_of_mem (c : Config) {assignments : List Assignment} {a : Assignment}
    (hnodup : (assignments.map Assignment.field).Nodup) (ha : a ∈ assignments) :
    (c.assign assignments).valueOf a.field = a.value := by
  induction assignments generalizing c with
  | nil => cases ha
  | cons b others ih =>
    rw [List.map_cons, List.nodup_cons] at hnodup
    rw [assign_cons]
    rcases List.mem_cons.mp ha with rfl | hmem
    · rw [valueOf_assign_of_notMem _ hnodup.1, valueOf_withValue_same]
    · exact ih _ hnodup.2 hmem

theorem Field.key_injective : Function.Injective Field.key := by
  intro field other h
  have hfield := Field.ofKey?_key field
  rw [h, Field.ofKey?_key other] at hfield
  exact (Option.some.inj hfield).symm

end GoldenSuite.Config
