import Mathlib.Data.List.TakeWhile
import GoldenSuite.Config.Validity
import GoldenSuite.Proofs.Glob.Nesting
import GoldenSuite.Proofs.Path.Spelling

/-!
# The conditions of a valid configuration

A configuration is accepted when ten conditions hold, and is otherwise refused with what the first
one that fails has to say. The two directories of a case are judged by their components, so the
answer is the same however they are spelled.
-/

namespace GoldenSuite

/-! ### Trimmed texts -/

namespace Text

/-- A text without the blank characters at both of its ends. -/
def trim (text : String) : List Char :=
  trimEnd (text.toList.dropWhile isBlank)

end Text

namespace Config

variable {c : Config} {e : ConfigError}

/-! ### Conditions -/

/-- The values that have to name something. -/
inductive Naming where
  | compiler
  | runtime
  | entryPoint
  | logArtifact
  | resultArtifact
deriving DecidableEq, Repr

def Naming.key : Naming → String
  | .compiler => "compiler"
  | .runtime => "runtime"
  | .entryPoint => "entryPoint"
  | .logArtifact => "logArtifact"
  | .resultArtifact => "resultArtifact"

def Naming.value (c : Config) : Naming → String
  | .compiler => c.compiler
  | .runtime => c.runtime
  | .entryPoint => c.entryPoint
  | .logArtifact => c.logArtifact
  | .resultArtifact => c.resultArtifact

/-- The directories of a case that have to lie inside it. -/
inductive Inner where
  | output
  | expected
deriving DecidableEq, Repr

def Inner.key : Inner → String
  | .output => "caseOutputDir"
  | .expected => "caseExpectedDir"

def Inner.path (c : Config) : Inner → Path
  | .output => c.caseOutputDir
  | .expected => c.caseExpectedDir

/-- What has to hold of a configuration. -/
inductive Condition where
  /-- The pattern for sources is one that compiles. -/
  | pattern
  /-- A value is not blank. -/
  | named (naming : Naming)
  /-- A path is relative, does not lead up and has a name. -/
  | inside (directory : Inner)
  /-- The output directory and the golden directory do not contain one another. -/
  | apart
  /-- The two artifacts have different names. -/
  | differing
deriving DecidableEq, Repr

namespace Condition

def Holds (c : Config) : Condition → Prop
  | .pattern => ∃ pattern, Glob.Pattern.ofText c.sourceGlob = .ok pattern ∧ pattern.Compiles
  | .named naming => Text.trim (naming.value c) ≠ []
  | .inside directory =>
    (directory.path c).isAbsolute = false ∧ .parent ∉ (directory.path c).components ∧
      (directory.path c).normals ≠ []
  | .apart =>
    ¬ c.caseOutputDir.normals <+: c.caseExpectedDir.normals ∧
      ¬ c.caseExpectedDir.normals <+: c.caseOutputDir.normals
  | .differing => c.logArtifact ≠ c.resultArtifact

/-- Looks at one condition. -/
def check (c : Config) : Condition → Except (Halt ConfigError) Unit
  | .pattern => discard c.sourcePattern
  | .named naming =>
    if Text.allBlank (naming.value c) then .error (.error (.invalid (.blank naming.key)))
    else .ok ()
  | .inside directory =>
    (discard (caseNames directory.key (directory.path c))).mapError Halt.error
  | .apart =>
    if c.caseOutputDir.normals.isPrefixOf c.caseExpectedDir.normals ||
        c.caseExpectedDir.normals.isPrefixOf c.caseOutputDir.normals then
      .error (.error (.invalid (.overlapping c.caseOutputDir c.caseExpectedDir)))
    else .ok ()
  | .differing =>
    if c.logArtifact = c.resultArtifact then
      .error (.error (.invalid (.sameArtifact c.resultArtifact)))
    else .ok ()

end Condition

theorem innerNames?_eq (components : List Path.Component) :
    innerNames? components =
      if .root ∈ components ∨ .parent ∈ components then none
      else some (components.filterMap Path.Component.name?) := by
  induction components with
  | nil => rfl
  | cons first others ih =>
    cases first with
    | root => simp [innerNames?]
    | parent => simp [innerNames?]
    | current =>
      rw [innerNames?, ih, List.filterMap_cons_none (by rfl)]
      simp
    | normal name =>
      rw [innerNames?, ih]
      by_cases hout : .root ∈ others ∨ .parent ∈ others <;>
        simp [hout, Path.Component.name?]

/-- A path is judged by whether it leaves the case and by the names among its components. -/
theorem caseNames_eq (key : String) (p : Path) :
    caseNames key p =
      if p.isAbsolute = true ∨ .parent ∈ p.components then .error (.invalid (.outside key p))
      else if p.normals = [] then .error (.invalid (.wholeCase key))
      else .ok p.normals := by
  rw [caseNames, innerNames?_eq]
  by_cases hout : p.isAbsolute = true ∨ .parent ∈ p.components
  · rw [if_pos hout, if_pos (hout.imp_left Path.root_mem_components_iff.mpr)]
  · rw [if_neg hout, if_neg (mt (Or.imp_left Path.root_mem_components_iff.mp) hout),
      ← Path.normals]
    cases p.normals <;> rfl

namespace Condition

end Condition

section
variable {ε α : Type}

end

section
variable {ε α : Type} {check : α → Except ε Unit} {items : List α} {e : ε}

end

end Config

end GoldenSuite
