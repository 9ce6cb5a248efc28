import GoldenSuite.Case.Comparison
import GoldenSuite.Proofs.Case.Discovered
import GoldenSuite.Proofs.Case.Places
import GoldenSuite.Proofs.Path.Normal

/-!
# The artifacts of a case

A comparison reads at four paths: a log and a result, each below the output path and below the
expected path. They are four different files as long as the artifacts have different names that
lead down, which is what a configuration has to pass for its directories. It need not for its
artifacts, and then a case can be compared with itself.
-/

namespace GoldenSuite

open FileTree

variable {c : Config} {log result : List String}

/-- The paths that a comparison reads at. -/
def TestCase.artifacts (c : Config) (case : TestCase) : List Path :=
  [case.output.join (.ofText c.logArtifact), case.expected.join (.ofText c.logArtifact),
    case.output.join (.ofText c.resultArtifact), case.expected.join (.ofText c.resultArtifact)]

/-- Different artifacts, each below two directories that do not contain one another, are in four
different places. -/
theorem Config.Separate.pairwise_ne (h : c.Separate) (hne : log ≠ result)
    (top : List String) :
    [top ++ (proper c.caseOutputDir.names ++ log), top ++ (proper c.caseExpectedDir.names ++ log),
      top ++ (proper c.caseOutputDir.names ++ result),
      top ++ (proper c.caseExpectedDir.names ++ result)].Pairwise (· ≠ ·) := by
  have hsides : ∀ a b, proper c.caseOutputDir.names ++ a ≠ proper c.caseExpectedDir.names ++ b := by
    intro a b heq
    rcases List.prefix_or_prefix_of_prefix (List.prefix_append _ a)
      (heq ▸ List.prefix_append _ b) with hunder | hunder
    · exact h.output_not_prefix hunder
    · exact h.expected_not_prefix hunder
  simp only [List.pairwise_cons, List.mem_cons, List.not_mem_nil, or_false, forall_eq_or_imp,
    forall_eq, ne_eq, List.append_right_inj, List.Pairwise.nil, and_true, false_implies,
    implies_true]
  exact ⟨⟨hsides _ _, by simpa using hne, hsides _ _⟩,
    ⟨Ne.symm (hsides _ _), by simpa using hne⟩, hsides _ _⟩

theorem foldl_goOn_artifact {directory dir : Path} {artifact : String} (hdir : dir.LeadsDown)
    (hartifact : (Path.ofText artifact).LeadsDown) (absolute : Bool) (start : List String) :
    ((directory.join dir).join (.ofText artifact)).names.foldl (Path.goOn absolute) start =
      directory.names.foldl (Path.goOn absolute) start ++
        (proper dir.names ++ proper (Path.ofText artifact).names) := by
  rw [Path.names_join hartifact.isAbsolute_eq, Path.names_join hdir.isAbsolute_eq,
    List.append_assoc, List.foldl_append, ← proper_append, Path.foldl_goOn]
  rw [List.mem_append, not_or]
  exact ⟨hdir.parent_not_mem, hartifact.parent_not_mem⟩

theorem Path.LeadsDown.strictlyBelow {base p : Path} (h : p.LeadsDown) :
    (base.join p).normal.StrictlyBelow base.normal := by
  rw [Path.normal_join h.isAbsolute_eq h.parent_not_mem]
  refine ⟨rfl, proper p.names, h.proper_ne_nil, fun hmem => ?_, rfl⟩
  exact h.parent_not_mem (List.mem_filter.mp hmem).1

section
variable (hv : c.validate = .ok ())
  (hlog : Config.caseNames "logArtifact" (.ofText c.logArtifact) = .ok log)
  (hresult : Config.caseNames "resultArtifact" (.ofText c.resultArtifact) = .ok result)
  (hne : log ≠ result)
include hv hlog hresult

theorem isAbsolute_artifact {name : String} {directory p : Path}
    (h : p ∈ (TestCase.ofDirectory c name directory).artifacts c) :
    p.isAbsolute = directory.isAbsolute := by
  have hseparate := Config.separate_of_validate hv
  have hjoin : ∀ dir : Path, dir.LeadsDown → ∀ artifact, (Path.ofText artifact).LeadsDown →
      ((directory.join dir).join (.ofText artifact)).isAbsolute = directory.isAbsolute := by
    intro dir hdir artifact hartifact
    rw [Path.isAbsolute_join hartifact.isAbsolute_eq, Path.isAbsolute_join hdir.isAbsolute_eq]
  have hlogDown := (Config.caseNames_eq_ok hlog).1
  have hresultDown := (Config.caseNames_eq_ok hresult).1
  simp only [TestCase.artifacts, TestCase.ofDirectory, List.mem_cons, List.not_mem_nil,
    or_false] at h
  rcases h with rfl | rfl | rfl | rfl
  · exact hjoin _ hseparate.output _ hlogDown
  · exact hjoin _ hseparate.expected _ hlogDown
  · exact hjoin _ hseparate.output _ hresultDown
  · exact hjoin _ hseparate.expected _ hresultDown

include hne

theorem pairwise_foldl_goOn (name : String) (directory : Path) (absolute : Bool)
    (start : List String) :
    ((TestCase.ofDirectory c name directory).artifacts c).Pairwise fun p q =>
      p.names.foldl (Path.goOn absolute) start ≠ q.names.foldl (Path.goOn absolute) start := by
  have hseparate := Config.separate_of_validate hv
  obtain ⟨hlogDown, hlogNames⟩ := Config.caseNames_eq_ok hlog
  obtain ⟨hresultDown, hresultNames⟩ := Config.caseNames_eq_ok hresult
  rw [← List.pairwise_map (f := fun p : Path => p.names.foldl (Path.goOn absolute) start)]
  simp only [TestCase.artifacts, TestCase.ofDirectory, List.map_cons, List.map_nil,
    foldl_goOn_artifact hseparate.output hlogDown, foldl_goOn_artifact hseparate.output hresultDown,
    foldl_goOn_artifact hseparate.expected hlogDown,
    foldl_goOn_artifact hseparate.expected hresultDown, hlogNames, hresultNames]
  exact hseparate.pairwise_ne hne _

/-- When the artifacts pass what the directories have to pass and have different names, a
comparison reads at four paths that differ when they are tidied, those of the output strictly
below the output directory and the golden ones strictly below the expected directory; and in a
tree without links what they lead to are different files. -/
theorem artifacts_apart (name : String) (directory : Path) :
    let case := TestCase.ofDirectory c name directory
    (case.artifacts c).Pairwise (fun p q => p.normal ≠ q.normal) ∧
      (∀ artifact ∈ [c.logArtifact, c.resultArtifact],
        (case.output.join (.ofText artifact)).normal.StrictlyBelow case.output.normal ∧
        (case.expected.join (.ofText artifact)).normal.StrictlyBelow case.expected.normal) ∧
      ∀ ws : Workspace, ws.tree.Linkless → (case.artifacts c).Pairwise fun p q =>
        ∀ loc e loc' e', ws.find true p = .ok (loc, e) → ws.find true q = .ok (loc', e') →
          loc ≠ loc' := by
  intro case
  have hpairwise := pairwise_foldl_goOn hv hlog hresult hne name directory
  have habsolute : ∀ p ∈ case.artifacts c, p.isAbsolute = directory.isAbsolute :=
    fun p hp => isAbsolute_artifact hv hlog hresult hp
  refine ⟨?_, ?_, ?_⟩
  · refine (hpairwise directory.isAbsolute []).imp_of_mem fun {p q} hp hq hdiffer heq => ?_
    have hnames := congrArg Path.Normal.names heq
    simp only [Path.normal, habsolute p hp, habsolute q hq] at hnames
    exact hdiffer hnames
  · intro artifact hmem
    have hdown : (Path.ofText artifact).LeadsDown := by
      rcases List.mem_cons.mp hmem with rfl | hmem
      · exact (Config.caseNames_eq_ok hlog).1
      · rw [List.mem_singleton.mp hmem]
        exact (Config.caseNames_eq_ok hresult).1
    exact ⟨hdown.strictlyBelow, hdown.strictlyBelow⟩
  · -- Without links a path leads where its names say from where it starts, and all start alike.
    intro ws hlinks
    refine (hpairwise true (start ws.here directory)).imp_of_mem ?_
    intro p q hp hq hdiffer loc e loc' e' hloc hloc' heq
    have hstart : ∀ r ∈ case.artifacts c, start ws.here r = start ws.here directory := by
      intro r hr
      rw [start, start, habsolute r hr]
    have hplace := Workspace.eq_foldl_of_find hlinks hloc
    have hplace' := Workspace.eq_foldl_of_find hlinks hloc'
    rw [hstart p hp] at hplace
    rw [hstart q hq] at hplace'
    exact hdiffer (by rw [← hplace, ← hplace', heq])

end

theorem usual_artifacts_apart :
    let case := TestCase.named {} "a"
    Config.validate {} = .ok () ∧
      (case.artifacts {}).Pairwise (fun p q => p.normal ≠ q.normal) ∧
      (case.output.join (.ofText "result.txt")).normal.StrictlyBelow case.output.normal := by
  have hv : Config.validate {} = .ok () := eq_ok_of_toOption (by decide +kernel)
  have hlog : Config.caseNames "logArtifact" (.ofText ({} : Config).logArtifact) =
      .ok ["log.txt"] := eq_ok_of_toOption (by decide +kernel)
  have hresult : Config.caseNames "resultArtifact" (.ofText ({} : Config).resultArtifact) =
      .ok ["result.txt"] := eq_ok_of_toOption (by decide +kernel)
  obtain ⟨hpairwise, hbelow, -⟩ := artifacts_apart hv hlog hresult (by decide) "a"
    (({} : Config).testsRoot.join ⟨"a"⟩)
  exact ⟨hv, hpairwise, (hbelow "result.txt" (by simp)).1⟩

/-! ### Cases that are compared with themselves -/

/-- The result is in the case directory, whichever side it is looked for on. -/
def sharedResultConfig : Config :=
  { testsDir := ⟨"t"⟩, caseOutputDir := ⟨"out"⟩, caseExpectedDir := ⟨"exp"⟩,
    resultArtifact := "../r.txt" }

/-- The log is the result, spelled in another way. -/
def twiceNamedConfig : Config :=
  { testsDir := ⟨"t"⟩, caseOutputDir := ⟨"out"⟩, caseExpectedDir := ⟨"exp"⟩,
    resultArtifact := "./log.txt" }

def oneFile : Workspace where
  tree :=
    { entries :=
        [(["t"], .directory), (["t", "a"], .directory), (["t", "a", "out"], .directory),
          (["t", "a", "exp"], .directory), (["t", "a", "r.txt"], .file [1])]
      distinct := by decide
      rooted := by decide
      parented := by decide
      named := by decide }
  here := []

/-- Accepted configurations under which a case passes by comparing a file with itself, or has its
logs compared for its results. -/
theorem compared_with_itself :
    (sharedResultConfig.validate = .ok () ∧ oneFile.tree.Linkless ∧
      let case := TestCase.named sharedResultConfig "a"
      Discovery.cases sharedResultConfig oneFile = .ok [case] ∧
      (case.output.join (.ofText sharedResultConfig.resultArtifact)).normal =
        (case.expected.join (.ofText sharedResultConfig.resultArtifact)).normal ∧
      ((Comparator.ofConfig sharedResultConfig).compareCase oneFile case).map (·.verdict) =
        .ok .pass) ∧
    twiceNamedConfig.validate = .ok () ∧
      let case := TestCase.named twiceNamedConfig "a"
      (case.output.join (.ofText twiceNamedConfig.logArtifact)).normal =
        (case.output.join (.ofText twiceNamedConfig.resultArtifact)).normal := by
  refine ⟨⟨eq_ok_of_toOption (by decide +kernel), ?_, ?_, by decide +kernel,
    eq_ok_of_toOption (by decide +kernel)⟩, eq_ok_of_toOption (by decide +kernel),
    by decide +kernel⟩
  · intro loc target hlink
    by_cases hroot : loc = []
    · subst hroot
      cases hlink
    · have hmem := (get?_eq_some_iff hroot).mp hlink
      simp [oneFile] at hmem
  · have hlist : oneFile.list sharedResultConfig.testsRoot = .ok (["t"], ["a"]) :=
      eq_ok_of_toOption (by decide +kernel)
    have hfound : Discovery.casesAmong sharedResultConfig oneFile ["a"] =
        .ok [.named sharedResultConfig "a"] := eq_ok_of_toOption (by decide +kernel)
    exact Discovery.cases_of_sorted hlist hfound (by simp)

end GoldenSuite
