import GoldenSuite.Case.Execution
import GoldenSuite.Proofs.Case.Isolation
import GoldenSuite.Proofs.Session.Effects
import GoldenSuite.Proofs.Workspace.Cleaning

/-!
# Cases without their old output

Where no link is seen below the directory of all cases, and the way to it does not lead through
the output of a case, removing the output of a case takes away what stands at or below its output
place and nothing else. Whether it can be removed is told by the directory of the case.
-/

namespace GoldenSuite

open FileTree

/-- Where a suite stands. -/
structure Site where
  here : Location
  root : Location
  /-- Whether the directory that simulators start in is there. -/
  started : Bool

variable {c : Config} {ws ws' left : Workspace} {root : Location} {site : Site}
  {name other : String}

/-! ### Files that the outputs have no part in -/

/-- The files differ at most at and below the output places of cases. -/
structure Beside (c : Config) (root : Location) (ws ws' : Workspace) : Prop where
  here_eq : ws'.here = ws.here
  get?_eq : ∀ loc, (∀ name, ¬ root ++ name :: proper c.caseOutputDir.names <+: loc) →
    ws'.tree.get? loc = ws.tree.get? loc

theorem Beside.refl (c : Config) (root : Location) (ws : Workspace) : Beside c root ws ws :=
  ⟨rfl, fun _ _ => rfl⟩

theorem Beside.trans (h : Beside c root ws ws') (h' : Beside c root ws' left) :
    Beside c root ws left :=
  ⟨h'.here_eq.trans h.here_eq, fun loc hloc => (h'.get?_eq loc hloc).trans (h.get?_eq loc hloc)⟩

/-- The files differ at most at and below the output place of one case. -/
structure Within (c : Config) (root : Location) (name : String) (ws ws' : Workspace) : Prop where
  here_eq : ws'.here = ws.here
  get?_eq : ∀ loc, ¬ root ++ name :: proper c.caseOutputDir.names <+: loc →
    ws'.tree.get? loc = ws.tree.get? loc

theorem Within.trans (h : Within c root name ws ws') (h' : Within c root name ws' left) :
    Within c root name ws left :=
  ⟨h'.here_eq.trans h.here_eq, fun loc hloc => (h'.get?_eq loc hloc).trans (h.get?_eq loc hloc)⟩

theorem Within.beside (h : Within c root name ws ws') : Beside c root ws ws' :=
  ⟨h.here_eq, fun loc hloc => h.get?_eq loc (hloc name)⟩

/-- The directory of a case looks the same. -/
def SameCase (root : Location) (name : String) (ws ws' : Workspace) : Prop :=
  ∀ inner, ws.tree.get? (root ++ name :: inner) = ws'.tree.get? (root ++ name :: inner)

/-- The directory of a case looks the same, but perhaps for what is at or below its output
place. -/
def SameButOutput (c : Config) (root : Location) (name : String) (ws ws' : Workspace) : Prop :=
  ∀ inner, ¬ proper c.caseOutputDir.names <+: inner →
    ws.tree.get? (root ++ name :: inner) = ws'.tree.get? (root ++ name :: inner)

theorem Within.sameCase (h : Within c root name ws ws') (hne : other ≠ name) :
    SameCase root other ws' ws := by
  refine fun inner => h.get?_eq _ fun hunder => ?_
  rw [List.prefix_append_right_inj, List.cons_prefix_cons] at hunder
  exact hne hunder.1.symm

def Execution.startPath (c : Config) : Path :=
  ⟨Child.Command.handed c.root.text⟩

theorem Execution.checkDirectory_simulatorCommand (c : Config) (case : TestCase)
    (ws : Workspace) :
    Child.checkDirectory (simulatorCommand c case) ws =
      if ws.isDirectory (startPath c) then .ok ()
      else .error (.missingDirectory (startPath c)) := rfl

/-- No link is seen below the directory of all cases, and the suite stands where it does whatever
the outputs of its cases are. -/
structure Steady (c : Config) (site : Site) (ws : Workspace) : Prop where
  here_eq : ws.here = site.here
  unlinked : ws.Unlinked c.testsRoot
  find_root : ∀ ws', Beside c site.root ws ws' →
    ws'.find true c.testsRoot = .ok (site.root, .directory)
  isDirectory_eq : ∀ ws', Beside c site.root ws ws' →
    ws'.isDirectory (Execution.startPath c) = site.started

namespace Steady

theorem root_eq (h : Steady c site ws) :
    ws.find true c.testsRoot = .ok (site.root, .directory) :=
  h.find_root ws (.refl c site.root ws)

theorem not_link (h : Steady c site ws) (inner : List String) (target : Path) :
    ws.tree.get? (site.root ++ inner) ≠ some (.link target) := by
  rw [← Workspace.seen_apply h.root_eq]
  exact h.unlinked inner target

theorem of_beside (h : Steady c site ws) (hbeside : Beside c site.root ws ws')
    (hlinks : ∀ inner target, ws'.tree.get? (site.root ++ inner) ≠ some (.link target)) :
    Steady c site ws' where
  here_eq := hbeside.here_eq.trans h.here_eq
  unlinked := by
    intro inner target
    rw [Workspace.seen_apply (h.find_root ws' hbeside)]
    exact hlinks inner target
  find_root := fun left hleft => h.find_root left (hbeside.trans hleft)
  isDirectory_eq := fun left hleft => h.isDirectory_eq left (hbeside.trans hleft)

theorem sameIn_of_sameCase (h : Steady c site ws) (h' : Steady c site ws')
    (hsame : SameCase site.root name ws ws') : Workspace.SameIn c.testsRoot name ws ws' := by
  intro inner
  rw [Workspace.seen_apply h.root_eq, Workspace.seen_apply h'.root_eq, hsame]

end Steady

/-! ### Removing the output of a case -/

def Cleanable (c : Config) (ws : Workspace) (name : String) : Prop :=
  ∃ removed, (Execution.removeOutput (TestCase.named c name).output ws).1 = .ok removed

/-- The files when the old output of a case has been removed. -/
def cleaned (c : Config) (ws : Workspace) (name : String) : Workspace :=
  (Execution.removeOutput (TestCase.named c name).output ws).2

theorem cleanable_iff_removeAll :
    Cleanable c ws name ↔ (ws.removeAll (TestCase.named c name).output).1 = .ok () ∨
      (ws.removeAll (TestCase.named c name).output).1 = .error .notFound := by
  unfold Cleanable Execution.removeOutput
  split
  · next heq => simp [heq]
  · next heq => simp [heq]
  · next fault left hne heq =>
    have hfault : fault ≠ .notFound := by
      rintro rfl
      exact hne rfl
    simp [heq, hfault]

instance : Decidable (Cleanable c ws name) :=
  decidable_of_iff _ cleanable_iff_removeAll.symm

/-- The names of an output path go on from those of the directory of all cases. -/
structure TestCase.OutputNames (c : Config) (name : String) : Prop where
  isAbsolute_eq : (TestCase.named c name).output.isAbsolute = c.testsRoot.isAbsolute
  names_eq : (TestCase.named c name).output.names =
    c.testsRoot.names ++ name :: c.caseOutputDir.names
  parent_not_mem : ".." ∉ name :: c.caseOutputDir.names

theorem TestCase.outputNames (hout : c.caseOutputDir.LeadsDown) (hname : IsName name) :
    TestCase.OutputNames c name := by
  refine ⟨isAbsolute_join hname hout.isAbsolute_eq, names_join hname hout.isAbsolute_eq, ?_⟩
  rw [List.mem_cons, not_or]
  exact ⟨hname.ne_parent.symm, hout.parent_not_mem⟩

namespace Steady

section
variable (h : Steady c site ws) (hout : c.caseOutputDir.LeadsDown) (hname : IsName name)
include h hout hname

theorem find_root_of_cleared {loc : Location}
    (hfound : ws.find false (TestCase.named c name).output = .ok (loc, .directory)) :
    (ws.withTree (ws.tree.clear loc)).find true c.testsRoot = .ok (site.root, .directory) := by
  have hplace : loc = site.root ++ name :: proper c.caseOutputDir.names :=
    TestCase.loc_of_find hout hname h.root_eq (fun inner _ target => h.not_link _ target) hfound
  refine h.find_root _ ⟨rfl, fun other hother => ?_⟩
  rcases (Workspace.shrunk_clear ws loc).tree other with hsame | ⟨hgone, -⟩
  · exact hsame
  · exact absurd (hplace ▸ hgone) (hother name)

theorem cleanable_iff :
    Cleanable c ws name ↔ Workspace.Removable (name :: c.caseOutputDir.names)
      ((ws.find false (TestCase.named c name).output).map Prod.snd) := by
  have hpath := TestCase.outputNames hout hname
  have hcleared : ∀ loc, ws.find false (TestCase.named c name).output = .ok (loc, .directory) →
      (ws.withTree (ws.tree.clear loc)).find true c.testsRoot = .ok (site.root, .directory) :=
    fun _ => h.find_root_of_cleared hout hname
  rw [cleanable_iff_removeAll]
  refine ⟨fun hok => ?_, fun hremovable => ?_⟩
  · by_contra hnot
    obtain ⟨fault, hfault, hne⟩ := Workspace.removeAll_of_not_removable h.root_eq h.unlinked
      hpath.isAbsolute_eq hpath.names_eq (by simp) hpath.parent_not_mem hcleared hnot
    rw [hfault] at hok
    rcases hok with hok | hok
    · cases hok
    · exact hne (Except.error.inj hok)
  · exact (Workspace.removeAll_of_removable h.root_eq h.unlinked hpath.isAbsolute_eq
      hpath.names_eq (by simp) hpath.parent_not_mem hcleared hremovable).1

section
variable (hcleanable : Cleanable c ws name)
include hcleanable

/-- At and below the output place nothing is left, and everything else is. -/
theorem get?_cleaned : (cleaned c ws name).here = ws.here ∧ ∀ loc,
    (cleaned c ws name).tree.get? loc =
      if site.root ++ name :: proper c.caseOutputDir.names <+: loc then none
      else ws.tree.get? loc := by
  have hpath := TestCase.outputNames hout hname
  have hleft := (Workspace.removeAll_of_removable h.root_eq h.unlinked hpath.isAbsolute_eq
    hpath.names_eq (by simp) hpath.parent_not_mem (fun _ => h.find_root_of_cleared hout hname)
    ((h.cleanable_iff hout hname).mp hcleanable)).2
  rw [proper_cons hname.ne_current] at hleft
  rw [cleaned, Execution.workspace_removeOutput]
  exact hleft

theorem within_cleaned : Within c site.root name ws (cleaned c ws name) := by
  obtain ⟨hhere, htree⟩ := h.get?_cleaned hout hname hcleanable
  refine ⟨hhere, fun loc hloc => ?_⟩
  rw [htree, if_neg hloc]

theorem steady_cleaned : Steady c site (cleaned c ws name) := by
  refine h.of_beside (h.within_cleaned hout hname hcleanable).beside fun inner target => ?_
  rw [(h.get?_cleaned hout hname hcleanable).2]
  split
  · simp
  · exact h.not_link inner target

theorem seen_cleaned (inner : List String) :
    (cleaned c ws name).seen c.testsRoot (name :: proper c.caseOutputDir.names ++ inner) =
      none := by
  rw [Workspace.seen_apply (h.steady_cleaned hout hname hcleanable).root_eq]
  refine ((h.get?_cleaned hout hname hcleanable).2 _).trans (if_pos ?_)
  rw [List.prefix_append_right_inj]
  exact List.prefix_append _ _

end

end

theorem cleanable_congr (h : Steady c site ws) (h' : Steady c site ws')
    (hout : c.caseOutputDir.LeadsDown) (hname : IsName name)
    (hsame : SameCase site.root name ws ws') :
    Cleanable c ws name ↔ Cleanable c ws' name := by
  have hlook := h.sameIn_of_sameCase h' hsame
  have hpath := TestCase.outputNames hout hname
  rw [h.cleanable_iff hout hname, h'.cleanable_iff hout hname,
    Workspace.find_eq_of_sameIn h.root_eq h'.root_eq h.unlinked h'.unlinked hlook
      hpath.isAbsolute_eq hpath.names_eq hname.ne_current hpath.parent_not_mem]

end Steady

/-! ### Artifacts that are not there -/

def resultPlace (c : Config) (name : String) : List String :=
  name :: proper c.caseOutputDir.names ++ proper (Path.ofText c.resultArtifact).names

theorem View.entry_vacant {view : View} {here names : List String}
    (hdir : view here = some .directory) (hproper : proper names = [name])
    (hsize : name.length ≤ longestName) (hnone : view (here ++ [name]) = none) :
    view.entry here names = .error .notFound := by
  induction names with
  | nil => cases hproper
  | cons first rest ih =>
    rw [entry, if_neg (not_not_intro hdir)]
    by_cases hfirst : first = "."
    · rw [hfirst, proper_current] at hproper
      rw [if_pos hfirst, ih hproper]
    · rw [proper_cons hfirst] at hproper
      obtain ⟨rfl, -⟩ := List.cons.inj hproper
      rw [if_neg hfirst, if_neg (Nat.not_lt.mpr hsize), hnone]

theorem IsPlainName.exists_proper_names {text : String} (h : IsPlainName text) :
    ∃ name, proper (Path.ofText text).names = [name] ∧ name ∈ (Path.ofText text).names := by
  obtain ⟨name, hname⟩ := h
  have hnames : Config.caseNames "" (Path.ofText text) = .ok [name] := by
    rw [Config.caseNames, hname]
    rfl
  have hproper := (Config.caseNames_eq_ok hnames).2
  have hmem : name ∈ proper (Path.ofText text).names := by
    rw [hproper]
    exact List.mem_singleton_self name
  exact ⟨name, hproper, (List.mem_filter.mp hmem).1⟩

theorem Workspace.read_of_find_error {ws : Workspace} {p : Path} {fault : Fault}
    (h : (ws.find true p).map Prod.snd = .error fault) : ws.read p = .error fault := by
  unfold read
  cases hf : ws.find true p with
  | error other =>
    rw [hf] at h
    cases h
    rfl
  | ok found =>
    rw [hf] at h
    cases h

theorem readArtifact?_of_find_error {p : Path} {fault : Fault} {found : Option Bytes}
    (h : (ws.find true p).map Prod.snd = .error fault) (hread : readArtifact? ws p = .ok found) :
    fault = .notFound := by
  rw [readArtifact?, Workspace.read_of_find_error h] at hread
  split at hread
  · next heq => cases heq
  · next heq => exact Except.error.inj heq
  · cases hread

section
variable (hroot : ws.find true c.testsRoot = .ok (root, .directory))
  (hlinks : ws.Unlinked c.testsRoot) (hout : c.caseOutputDir.LeadsDown) (hname : IsName name)
include hroot hlinks hout hname

theorem entry_of_artifact {text : String} (hplain : IsPlainName text)
    (husable : ((TestCase.named c name).output.join (.ofText text)).Usable) :
    ∃ stay, (stay = [] ∨ stay = ["."]) ∧
      (ws.find true ((TestCase.named c name).output.join (.ofText text))).map Prod.snd =
        ((ws.seen c.testsRoot).entry [] (name :: c.caseOutputDir.names)).bind fun _ =>
          (ws.seen c.testsRoot).entry (name :: proper c.caseOutputDir.names)
            ((Path.ofText text).names ++ stay) := by
  have hdown := hplain.leadsDown
  have hpath := TestCase.outputNames hout hname
  have hnames : ((TestCase.named c name).output.join (.ofText text)).names =
      c.testsRoot.names ++ (name :: c.caseOutputDir.names ++ (Path.ofText text).names) := by
    rw [Path.names_join hdown.isAbsolute_eq, hpath.names_eq, List.append_assoc]
  have hup : ".." ∉ name :: c.caseOutputDir.names ++ (Path.ofText text).names := by
    rw [List.mem_append, not_or]
    exact ⟨hpath.parent_not_mem, hdown.parent_not_mem⟩
  obtain ⟨stay, hstay, hentry⟩ := Workspace.exists_entry_of_usable hroot hlinks
    ((Path.isAbsolute_join hdown.isAbsolute_eq).trans hpath.isAbsolute_eq) hnames (by simp) hup
    husable
  refine ⟨stay, hstay, ?_⟩
  rw [hentry, List.append_assoc, View.entry_append (by simp [Workspace.seen_root hroot]),
    proper_cons hname.ne_current, List.nil_append]

/-- Where the log of a case can be looked for and nothing stands at the place of its result, the
result is not found. -/
theorem read_result_of_vacant {log result : String} (hlog : IsPlainName log)
    (hplain : IsPlainName result) {logged : Option Bytes}
    (hlogged : readArtifact? ws ((TestCase.named c name).output.join (.ofText log)) = .ok logged)
    (husable : ((TestCase.named c name).output.join (.ofText result)).Usable)
    (hproper : proper (Path.ofText result).names = [other])
    (hsize : other.length ≤ longestName)
    (hvacant : ws.seen c.testsRoot (name :: proper c.caseOutputDir.names ++ [other]) = none) :
    ws.read ((TestCase.named c name).output.join (.ofText result)) = .error .notFound := by
  have husableLog : ((TestCase.named c name).output.join (.ofText log)).Usable := by
    by_contra hnot
    obtain ⟨fault, hfault⟩ := Workspace.resolve_of_not_usable hnot
    have hfind :
        ws.find true ((TestCase.named c name).output.join (.ofText log)) = .error fault := by
      rw [Workspace.find_eq, hfault]
    have hnone : fault = .notFound :=
      readArtifact?_of_find_error (by rw [hfind]; rfl) hlogged
    refine hnot (Workspace.usable_of_notFound ?_ (hnone ▸ hfind))
    rw [Path.names_join hlog.leadsDown.isAbsolute_eq, (TestCase.outputNames hout hname).names_eq]
    simp
  obtain ⟨stay, -, hfindLog⟩ := entry_of_artifact hroot hlinks hout hname hlog husableLog
  obtain ⟨stay', hstay', hfind⟩ := entry_of_artifact hroot hlinks hout hname hplain husable
  refine Workspace.read_of_find_error (hfind.trans ?_)
  cases he : (ws.seen c.testsRoot).entry [] (name :: c.caseOutputDir.names) with
  | error fault =>
    rw [he] at hfindLog
    rw [readArtifact?_of_find_error hfindLog hlogged]
    rfl
  | ok e =>
    rw [he] at hfindLog
    have hthere : ws.seen c.testsRoot (name :: proper c.caseOutputDir.names) = some e := by
      rw [← proper_cons hname.ne_current]
      exact View.get?_of_entry he
    -- The log was looked for in the output directory, so there is one.
    have hdir : ws.seen c.testsRoot (name :: proper c.caseOutputDir.names) = some .directory := by
      by_contra hnot
      obtain ⟨first, rest, hfirst⟩ : ∃ first rest, (Path.ofText log).names = first :: rest := by
        refine List.exists_cons_of_ne_nil fun hnil => hlog.leadsDown.proper_ne_nil ?_
        rw [hnil]
        rfl
      have hfault :
          (ws.find true ((TestCase.named c name).output.join (.ofText log))).map Prod.snd =
            .error .notADirectory := by
        have hne : some e ≠ some .directory := hthere ▸ hnot
        rw [hfindLog, hfirst, List.cons_append]
        simp only [Except.bind, View.entry, hthere, if_pos hne, reduceCtorEq, if_false]
      exact absurd (readArtifact?_of_find_error hfault hlogged) (by decide)
    refine View.entry_vacant hdir ?_ hsize hvacant
    rw [proper_append, hproper]
    rcases hstay' with rfl | rfl <;> simp [proper]

end

section
variable {case : TestCase} {logs : LogCheck}
  (hlogs : (Comparator.ofConfig c).checkLogs ws case = .ok logs)
include hlogs

theorem exists_log_of_checkLogs :
    ∃ logged, readArtifact? ws (case.output.join (.ofText c.logArtifact)) = .ok logged := by
  obtain ⟨logged, hlogged, -⟩ := exists_of_bind_eq_ok hlogs
  exact ⟨logged, hlogged⟩

theorem compareCase_of_missing (hpass : logs.failure? c.logPolicy = none)
    (hread : ws.read (case.output.join (.ofText c.resultArtifact)) = .error .notFound) :
    (Comparator.ofConfig c).compareCase ws case =
      .error (.missing c.resultArtifact .actual (case.output.join (.ofText c.resultArtifact))) := by
  have hresults : (Comparator.ofConfig c).checkResults ws case =
      .error (.missing c.resultArtifact .actual (case.output.join (.ofText c.resultArtifact))) := by
    simp only [Comparator.checkResults, Comparator.ofConfig, compareRequired, readArtifact,
      readArtifact?, hread]
    rfl
  have hpolicy : logs.failure? (Comparator.ofConfig c).policy = none := hpass
  simp only [Comparator.compareCase, hlogs, hresults, bind, Except.bind, hpolicy]

end

end GoldenSuite
