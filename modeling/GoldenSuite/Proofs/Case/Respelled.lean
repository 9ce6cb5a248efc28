import Mathlib.Data.List.Basic
import GoldenSuite.Proofs.Case.Input
import GoldenSuite.Proofs.Workspace.Endings

/-!
# Cleaning by other spellings

A configuration is accepted by the components of its output directory, and these do not show how
the path ends. The cleaning of a case hands the path on as it was written. As long as the path
names what stands at the output place, every spelling cleans alike, and removes only that. A path
that ends in a separator goes through a link at the output place and empties what it leads to,
and one that ends in a `.` empties a directory without removing it.
-/

namespace GoldenSuite

open FileTree

theorem Path.LeadsDown.sameName_join {p q directory : Path} (hp : p.LeadsDown) (hq : q.LeadsDown)
    (hnormals : p.normals = q.normals)
    (hfits : (directory.join p).text.length ≤ longestPath ↔
      (directory.join q).text.length ≤ longestPath) :
    (directory.join p).SameName (directory.join q) where
  isAbsolute_eq := by rw [isAbsolute_join hp.isAbsolute_eq, isAbsolute_join hq.isAbsolute_eq]
  proper_eq := by
    rw [normals_of_parent_not_mem hp.parent_not_mem, normals_of_parent_not_mem hq.parent_not_mem]
      at hnormals
    rw [names_join hp.isAbsolute_eq, names_join hq.isAbsolute_eq, proper_append, proper_append,
      hnormals]
  proper_ne_nil := by
    rw [names_join hp.isAbsolute_eq, proper_append]
    exact List.append_ne_nil_of_right_ne_nil _ hp.proper_ne_nil
  fits_iff := hfits

/-- A path that leads down does not end in a step up. -/
theorem Path.LeadsDown.getLast?_proper_join {p directory : Path} (hp : p.LeadsDown) :
    (proper (directory.join p).names).getLast? ≠ some ".." := by
  rw [names_join hp.isAbsolute_eq, proper_append,
    List.getLast?_append_of_ne_nil _ hp.proper_ne_nil]
  intro hlast
  exact hp.parent_not_mem (List.mem_filter.mp (List.mem_of_getLast? hlast)).1

namespace Execution

variable {c : Config} {case other : TestCase} {s : Session}

/-- The answer of a cleaning, but for the path that is shown. -/
def settled : Except Fault Unit → Except Fault Unit
  | .error .notFound => .ok ()
  | answer => answer

theorem answer_removeOutput (output : Path) (ws : Workspace) :
    (removeOutput output ws).1.map (fun _ => ()) =
      (settled (ws.removeAll output).1).mapError (.uncleaned output) := by
  unfold removeOutput
  split
  · next heq => rw [heq]; rfl
  · next heq => rw [heq]; rfl
  · next fault left hne heq =>
    rw [heq]
    unfold settled
    split
    · next hmissing =>
      cases hmissing
      exact absurd rfl hne
    · rfl

theorem answer_clean (case : TestCase) (s : Session) :
    ((clean case).perform s).1 =
      (settled (s.workspace.removeAll case.output).1).mapError (.uncleaned case.output) := by
  rw [← answer_removeOutput, clean, Act.perform_bind, Act.perform_change]
  cases (removeOutput case.output s.workspace).1 with
  | error e => rfl
  | ok there => cases there <;> rfl

/-- What cleaning a case, before its simulator is run, comes to in two accepted spellings of its
output directory. Where both name what stands there and both are short enough for a path, or
neither is, the answers agree but for the path that is shown, and so do the files. Where a
spelling names it, nothing stands there after a cleaning that succeeds, and all that is gone is
what stood there, with what lay below it when it was a directory. By any other spelling the
directory that it leads to is emptied, if it leads to one, and nothing else is changed. -/
theorem cleaning_by_spelling {c : Config} (hvalid : c.validate = .ok ()) {p : Path}
    (hvalid' : ({ c with caseOutputDir := p } : Config).validate = .ok ())
    (hnormals : p.normals = c.caseOutputDir.normals) (name : String) (directory : Path)
    (s : Session) :
    let case := TestCase.ofDirectory c name directory
    let other := TestCase.ofDirectory { c with caseOutputDir := p } name directory
    (c.cleanOutputs = true → ∀ launcher, (run launcher c case).perform s =
      match (clean case).perform s with
      | (.ok _, mid) => (launch launcher c case).perform mid
      | (.error e, mid) => (.error e, mid)) ∧
    ((case.output.text.length ≤ longestPath ↔
        other.output.text.length ≤ longestPath) →
      s.workspace.Named case.output → s.workspace.Named other.output →
      (∃ answer : Except Fault Unit,
        ((clean case).perform s).1 = answer.mapError (.uncleaned case.output) ∧
        ((clean other).perform s).1 = answer.mapError (.uncleaned other.output)) ∧
      cleaned other s = cleaned case s) ∧
    (s.workspace.Named case.output →
      (((clean case).perform s).1 = .ok () →
        ∀ loc e, ¬ (cleaned case s).Stands case.output loc e) ∧
      Workspace.Shrunk (fun loc => ∃ top e, s.workspace.Stands case.output top e ∧
        (loc = top ∨ e = .directory ∧ top <+: loc)) s.workspace (cleaned case s)) ∧
    (¬ s.workspace.Named case.output →
      cleaned case s =
        match s.workspace.find true case.output with
        | .ok (there, _) => s.workspace.withTree (s.workspace.tree.clear there)
        | .error _ => s.workspace) := by
  intro case other
  have hout := (Config.separate_of_validate hvalid).output
  have hout' : p.LeadsDown := (Config.separate_of_validate hvalid').output
  refine ⟨fun hclean launcher => perform_run launcher hclean s, fun hfits hnamed hnamed' => ?_,
    fun hnamed => ⟨fun hok loc e => ?_, ?_⟩, fun hnot => ?_⟩
  · have hremoved : s.workspace.removeAll case.output = s.workspace.removeAll other.output :=
      Workspace.removeAll_congr (hout.sameName_join hout' hnormals.symm hfits) hnamed hnamed'
    refine ⟨⟨settled (s.workspace.removeAll case.output).1, answer_clean case s, ?_⟩, ?_⟩
    · rw [hremoved]
      exact answer_clean other s
    · rw [workspace_cleaned, workspace_cleaned, hremoved]
  · have hne : proper case.output.names ≠ [] :=
      (hout.sameName_join hout rfl Iff.rfl).proper_ne_nil
    rw [workspace_cleaned]
    exact Workspace.not_stands_of_removeAll hne hout.getLast?_proper_join hnamed
      (removeAll_of_clean hok)
  · rw [workspace_cleaned]
    exact Workspace.shrunk_removeAll_of_named hnamed
  · rw [workspace_cleaned]
    exact Workspace.removeAll_of_not_named hnot

/-! ### A link at the output place -/

/-- Golden files beside the output of a case. -/
def besideConfig : Config :=
  { testsDir := ⟨"t"⟩, caseOutputDir := ⟨"out"⟩, caseExpectedDir := ⟨"exp"⟩, cleanOutputs := true }

/-- The output of the case is a link to its golden files. -/
def linkedCase : Workspace where
  tree :=
    { entries :=
        [(["t"], .directory), (["t", "a"], .directory), (["t", "a", "exp"], .directory),
          (["t", "a", "exp", "result.txt"], .file [49]),
          (["t", "a", "out"], .link ⟨"exp"⟩)]
      distinct := by decide
      rooted := by decide
      parented := by decide
      named := by decide }
  here := []

/-- With a `.` in front, the output path names the link all the same, and only the link goes. -/
theorem link_alone_removed :
    let case := TestCase.named besideConfig "a"
    let dotted : Config := { besideConfig with caseOutputDir := ⟨"./out"⟩ }
    let other := TestCase.named dotted "a"
    let s : Session := { workspace := linkedCase }
    (besideConfig.validate = .ok () ∧ dotted.validate = .ok ()) ∧
      cleaned other s = cleaned case s ∧
      (∀ loc e, ¬ (cleaned case s).Stands case.output loc e) ∧
      (cleaned case s).tree.get? ["t", "a", "exp", "result.txt"] = some (.file [49]) := by
  intro case dotted other s
  have hvalid : besideConfig.validate = .ok () := eq_ok_of_toOption (by decide +kernel)
  have hvalid' : dotted.validate = .ok () := eq_ok_of_toOption (by decide +kernel)
  have hnamed : linkedCase.Named case.output :=
    ⟨fun _ _ _ => by decide +kernel, fun _ _ => by decide +kernel⟩
  have hnamed' : linkedCase.Named other.output :=
    ⟨fun _ _ _ => by decide +kernel, fun _ _ => by decide +kernel⟩
  obtain ⟨-, hsame, hcleaned, -⟩ := cleaning_by_spelling hvalid hvalid' (by decide +kernel) "a"
    (besideConfig.testsRoot.join ⟨"a"⟩) s
  obtain ⟨hgone, hkept⟩ := hcleaned hnamed
  refine ⟨⟨hvalid, hvalid'⟩, (hsame (by decide +kernel) hnamed hnamed').2,
    hgone (eq_ok_of_toOption (by decide +kernel)), ?_⟩
  -- The golden file is not the link, and it does not lie in a directory at the output place.
  rcases hkept.tree ["t", "a", "exp", "result.txt"] with heq | ⟨⟨top, e, hstands, hgolden⟩, -⟩
  · exact heq
  · have hlink : linkedCase.Stands case.output ["t", "a", "out"] (.link ⟨"exp"⟩) :=
      ⟨eq_ok_of_toOption (by decide +kernel), by decide +kernel⟩
    obtain ⟨rfl, rfl⟩ := hstands.unique hlink
    rcases hgolden with htop | ⟨hdir, -⟩
    · exact absurd htop (by decide)
    · cases hdir

/-- With a separator at its end, an accepted output path goes through the link: the golden files
are removed, the link stays, and the cleaning fails. -/
theorem linked_golden_file_removed :
    let case := TestCase.named besideConfig "a"
    let slashed : Config := { besideConfig with caseOutputDir := ⟨"out/"⟩ }
    let other := TestCase.named slashed "a"
    let s : Session := { workspace := linkedCase }
    (besideConfig.validate = .ok () ∧ slashed.validate = .ok () ∧
      slashed.caseOutputDir.normals = besideConfig.caseOutputDir.normals) ∧
    (((clean case).perform s).1 = .ok () ∧
      (cleaned case s).tree.get? ["t", "a", "out"] = none ∧
      (cleaned case s).tree.get? ["t", "a", "exp", "result.txt"] = some (.file [49])) ∧
    ((clean other).perform s).1 = .error (.uncleaned other.output .notADirectory) ∧
      (cleaned other s).tree.get? ["t", "a", "out"] = some (.link ⟨"exp"⟩) ∧
      (cleaned other s).tree.get? ["t", "a", "exp", "result.txt"] = none := by
  intro case slashed other s
  have hrefused : ((clean other).perform s).1 =
      .error (.uncleaned other.output .notADirectory) := by
    decide +kernel
  refine ⟨⟨eq_ok_of_toOption (by decide +kernel), eq_ok_of_toOption (by decide +kernel),
    by decide +kernel⟩, ⟨eq_ok_of_toOption (by decide +kernel), by decide +kernel,
    by decide +kernel⟩, hrefused, by decide +kernel, by decide +kernel⟩

end Execution

end GoldenSuite
