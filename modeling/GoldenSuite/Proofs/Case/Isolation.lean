import GoldenSuite.Case.Comparison
import GoldenSuite.Proofs.Case.Places
import GoldenSuite.Proofs.Workspace.Seeing

/-!
# What a case is judged by

When the artifacts have plain names and no link is seen below the directory of all cases, a
comparison looks at the directory of its own case only: it comes out alike wherever that
directory looks alike.
-/

namespace GoldenSuite

open FileTree

variable {c : Config} {ws ws' : Workspace} {case : TestCase} {name : String}

/-! ### Comparing by reading -/

/-- A comparison depends on what is read at four paths. -/
theorem Comparator.compareCase_congr {comparator : Comparator}
    (h : ∀ base ∈ [case.output, case.expected],
      ∀ artifact ∈ [comparator.logArtifact, comparator.resultArtifact],
        ws.read (base.join (.ofText artifact)) = ws'.read (base.join (.ofText artifact))) :
    comparator.compareCase ws case = comparator.compareCase ws' case := by
  have hlogs : comparator.checkLogs ws case = comparator.checkLogs ws' case := by
    unfold checkLogs readArtifact?
    rw [h case.output (by simp) _ (by simp), h case.expected (by simp) _ (by simp)]
  have hresults : comparator.checkResults ws case = comparator.checkResults ws' case := by
    unfold checkResults compareRequired readArtifact readArtifact?
    rw [h case.output (by simp) _ (by simp), h case.expected (by simp) _ (by simp)]
  unfold compareCase
  rw [hlogs, hresults]

/-! ### Plain artifacts -/

/-- A file name and nothing else. -/
def IsPlainName (text : String) : Prop :=
  ∃ name, (Path.ofText text).components = [.normal name]

theorem IsPlainName.leadsDown {text : String} (h : IsPlainName text) :
    (Path.ofText text).LeadsDown := by
  obtain ⟨name, hname⟩ := h
  have hnames : Config.caseNames "" (Path.ofText text) = .ok [name] := by
    rw [Config.caseNames, hname]
    rfl
  exact (Config.caseNames_eq_ok hnames).1

/-! ### Cases in a view -/

/-- Without links, the name of a case is that of a directory below the directory of all cases. -/
theorem Discovery.seen_of_isCase (hlinks : ws.Unlinked c.testsRoot)
    (h : IsCase c ws name) : ws.seen c.testsRoot [name] = some .directory := by
  have hname := isName_of_isCase h
  obtain ⟨root, names, hlist, -, hdir⟩ := h
  obtain ⟨hroot, -⟩ := Workspace.list_eq_ok_iff.mp hlist
  obtain ⟨loc, hloc⟩ := Workspace.isDirectory_iff.mp hdir
  obtain ⟨hnames, hrelative⟩ := Path.names_of_isName hname
  have hproper : proper [name] = [name] := proper_cons hname.ne_current []
  have hplace : loc = root ++ proper [name] := by
    refine Workspace.loc_of_find hroot (Path.isAbsolute_join hrelative) ?_ (by simp) ?_ ?_ hloc
    · rw [Path.names_join hrelative, hnames]
    · simpa using hname.ne_parent.symm
    · intro inner _ target
      have hinner := hlinks inner target
      rwa [Workspace.seen_eq hroot] at hinner
  rw [Workspace.seen_eq hroot, ← Workspace.get?_of_find hloc, hplace, hproper]

/-- Where the directory of a case looks alike, the case is compared alike. -/
theorem compareCase_eq_of_sameIn {root root' : Location} (hv : c.validate = .ok ())
    (hlog : IsPlainName c.logArtifact) (hresult : IsPlainName c.resultArtifact)
    (hname : IsName name)
    (hroot : ws.find true c.testsRoot = .ok (root, .directory))
    (hroot' : ws'.find true c.testsRoot = .ok (root', .directory))
    (hlinks : ws.Unlinked c.testsRoot) (hlinks' : ws'.Unlinked c.testsRoot)
    (hsame : Workspace.SameIn c.testsRoot name ws ws') :
    (Comparator.ofConfig c).compareCase ws (.named c name) =
      (Comparator.ofConfig c).compareCase ws' (.named c name) := by
  have hseparate := Config.separate_of_validate hv
  have hread : ∀ place : Path, place.LeadsDown → ∀ text, IsPlainName text →
      ws.read (((c.testsRoot.join ⟨name⟩).join place).join (.ofText text)) =
        ws'.read (((c.testsRoot.join ⟨name⟩).join place).join (.ofText text)) := by
    intro place hplace text htext
    have hdown := htext.leadsDown
    have hnames : (((c.testsRoot.join ⟨name⟩).join place).join (.ofText text)).names =
        c.testsRoot.names ++ name :: (place.names ++ (Path.ofText text).names) := by
      rw [Path.names_join hdown.isAbsolute_eq, TestCase.names_join hname hplace.isAbsolute_eq,
        List.append_assoc]
      rfl
    refine Workspace.read_eq_of_sameIn hroot hroot' hlinks hlinks' hsame ?_ hnames
      hname.ne_current ?_
    · rw [Path.isAbsolute_join hdown.isAbsolute_eq,
        TestCase.isAbsolute_join hname hplace.isAbsolute_eq]
    · rw [List.mem_cons, List.mem_append, not_or, not_or]
      exact ⟨hname.ne_parent.symm, hplace.parent_not_mem, hdown.parent_not_mem⟩
  refine Comparator.compareCase_congr fun base hbase artifact hartifact => ?_
  have hplain : IsPlainName artifact := by
    rcases List.mem_cons.mp hartifact with rfl | hartifact
    · exact hlog
    · rw [List.mem_singleton.mp hartifact]
      exact hresult
  rcases List.mem_cons.mp hbase with rfl | hbase
  · exact hread _ hseparate.output _ hplain
  · rw [List.mem_singleton.mp hbase]
    exact hread _ hseparate.expected _ hplain

end GoldenSuite
