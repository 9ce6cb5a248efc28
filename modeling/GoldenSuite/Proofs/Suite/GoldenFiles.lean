import GoldenSuite.Proofs.Case.Places
import GoldenSuite.Proofs.Session.Effects
import GoldenSuite.Proofs.Suite.Calls

/-!
# Golden files

With child processes that change nothing, what a run changes are the directories on the way to
the build directory, which the build makes, and the old output of the cases that it executes.
The golden files are neither, as long as the places of the cases are not reached through links.
-/

namespace GoldenSuite.Suite

open FileTree

variable {ρ : Type} {launcher : Child.Launcher} (reporter : Reporter ρ) {c : Config}

/-! ### One call -/

theorem grown_build (hidle : launcher.Idle) (c : Config) (ws : Workspace)
    (tools : List Child.Command) :
    Workspace.Grown (c.buildRoot :: c.buildRoot.ancestors) ws
      ((Toolchain.external launcher).build c ws tools).workspace :=
  Build.keeps_run hidle c ⟨ws, tools, []⟩

theorem shrunk_execute (hidle : launcher.Idle) (c : Config) (case : TestCase) (ws : Workspace)
    (tools : List Child.Command) :
    Workspace.Shrunk (fun loc => c.cleanOutputs = true ∧ ws.Under case.output loc) ws
      ((Toolchain.external launcher).execute c case ws tools).workspace :=
  Execution.keeps_run hidle c case ⟨ws, tools, []⟩

/-! ### The calls after the build -/

/-- What may be gone after some calls: what lay under the output path of a case that was
executed, when the configuration asks for the output to be removed. -/
def Cleared (c : Config) (calls : List Call) (ws : Workspace) (loc : Location) : Prop :=
  c.cleanOutputs = true ∧ ∃ case, Call.execute case ∈ calls ∧ ws.Under case.output loc

variable (c)

theorem shrunk_act (hidle : launcher.Idle) (p : Parties (List Child.Command) ρ) {call : Call}
    (hbuild : call ≠ .build) :
    Workspace.Shrunk (Cleared c [call] p.workspace) p.workspace
      (call.act (Toolchain.external launcher) reporter c p).workspace := by
  cases call with
  | build => exact absurd rfl hbuild
  | execute case =>
    refine (shrunk_execute hidle c case p.workspace p.tools).mono ?_
    exact fun loc h => ⟨h.1, case, List.mem_singleton_self _, h.2⟩
  | caseStarted case => exact .refl _ _
  | compare case => exact .refl _ _
  | caseFinished report => exact .refl _ _
  | runFinished summary => exact .refl _ _

theorem shrunk_calls (hidle : launcher.Idle) (p : Parties (List Child.Command) ρ)
    {calls : List Call} (hbuild : Call.build ∉ calls) :
    Workspace.Shrunk (Cleared c calls p.workspace) p.workspace
      (calls.foldl (Call.act (Toolchain.external launcher) reporter c) p).workspace := by
  -- Each call finds a part of the tree that the first one found, so its paths led there before.
  induction calls generalizing p with
  | nil => exact .refl _ _
  | cons call rest ih =>
    rw [List.mem_cons, not_or] at hbuild
    have hfirst := shrunk_act reporter c hidle p (Ne.symm hbuild.1)
    have hrest := ih (call.act (Toolchain.external launcher) reporter c p) hbuild.2
    refine (hfirst.mono ?_).trans (hrest.mono ?_)
    · rintro loc ⟨hclean, case, hcase, hunder⟩
      exact ⟨hclean, case, List.mem_cons.mpr (Or.inl (List.mem_singleton.mp hcase)), hunder⟩
    · rintro loc ⟨hclean, case, hcase, hunder⟩
      exact ⟨hclean, case, List.mem_cons_of_mem _ hcase,
        hunder.of_part hfirst.here hfirst.partOf⟩

variable {c}

/-! ### A whole run -/

/-- No link stands at a case directory, nor on the way from one to its output place or to its
expected place. Links may stand below those places and anywhere else. -/
def PlainCases (c : Config) (built ws : Workspace) : Prop :=
  ∀ root names, built.list c.testsRoot = .ok (root, names) →
    ∀ name, Discovery.IsCase c built name →
      ∀ inner, inner <+: proper c.caseOutputDir.names ∨ inner <+: proper c.caseExpectedDir.names →
        ∀ target, ws.tree.get? (root ++ name :: inner) ≠ some (.link target)

/-- Under the output path of one case and under the expected path of one case lies nothing in
common, also when the second one has been there before a build. -/
theorem not_under_output {ws built : Workspace} {paths : List Path} {cases : List TestCase}
    (hv : c.validate = .ok ()) (hgrown : Workspace.Grown paths ws built)
    (hplain : PlainCases c built ws) (hd : Discovery.cases c built = .ok cases)
    {a b : TestCase} (ha : a ∈ cases) (hb : b ∈ cases) {exp loc : Location} {e : Entry}
    (hexp : ws.find true b.expected = .ok (exp, e)) (hloc : exp <+: loc) :
    ¬ built.Under a.output loc := by
  rintro ⟨out, e', hout, houtloc⟩
  have hseparate := Config.separate_of_validate hv
  obtain ⟨nameA, hnameA, rfl⟩ := (Discovery.mem_cases_iff hd).mp ha
  obtain ⟨nameB, hnameB, rfl⟩ := (Discovery.mem_cases_iff hd).mp hb
  obtain ⟨root, hroot, -⟩ := Discovery.cases_eq_ok hd
  have hlist : built.list c.testsRoot = .ok (root, built.tree.children root) :=
    Workspace.list_eq_ok_iff.mpr ⟨hroot, rfl⟩
  -- The build makes directories only, so its links are those that were there before.
  have hbuilt : ∀ name, Discovery.IsCase c built name → ∀ inner,
      inner <+: proper c.caseOutputDir.names ∨ inner <+: proper c.caseExpectedDir.names →
      ∀ target, built.tree.get? (root ++ name :: inner) ≠ some (.link target) := by
    intro name hname inner hinner target hlink
    exact hplain root _ hlist name hname inner hinner target
      (hgrown.get?_of_ne_directory hlink (by simp))
  have houtput := TestCase.loc_of_find hseparate.output (Discovery.isName_of_isCase hnameA)
    hroot (fun inner hinner => hbuilt nameA hnameA inner (Or.inl hinner)) hout
  have hexpected := TestCase.loc_of_find hseparate.expected (Discovery.isName_of_isCase hnameB)
    hroot (fun inner hinner => hbuilt nameB hnameB inner (Or.inr hinner))
    (Workspace.find_of_part hgrown.here hgrown.partOf hexp)
  rw [houtput] at houtloc
  rw [hexpected] at hloc
  exact hseparate.not_both_prefix houtloc hloc

/-- Whatever a run comes to, when its child processes change nothing: every location is as it
was, or a directory on the path of the build directory has been made there, or what was there
lay under the output path of a case that was executed and is gone. What was there at or below
the expected place of a case is there as it was. -/
theorem run_keeps_golden_files (hidle : launcher.Idle)
    (hv : c.validate = .ok ()) (s : State (List Child.Command) ρ)
    (hplain : PlainCases c
      ((Toolchain.external launcher).build c s.workspace s.tools).workspace s.workspace) :
    let toolchain := Toolchain.external launcher
    let built := (toolchain.build c s.workspace s.tools).workspace
    let left := (Step.perform (run toolchain reporter c) s).2
    ∃ calls, Made toolchain reporter c calls s left ∧
      left.workspace.here = s.workspace.here ∧
      (∀ loc,
        left.workspace.tree.get? loc = s.workspace.tree.get? loc ∨
        (s.workspace.tree.get? loc = none ∧ left.workspace.tree.get? loc = some .directory ∧
          ∃ p ∈ c.buildRoot :: c.buildRoot.ancestors,
            built.find true (Workspace.trimmed p) = .ok (loc, .directory)) ∨
        (left.workspace.tree.get? loc = none ∧ c.cleanOutputs = true ∧
          ∃ case, Call.execute case ∈ calls ∧ built.Under case.output loc)) ∧
      ∀ cases, Discovery.cases c built = .ok cases → ∀ case ∈ cases, ∀ exp e,
        s.workspace.find true case.expected = .ok (exp, e) → ∀ loc, exp <+: loc →
          ∀ e, s.workspace.tree.get? loc = some e → left.workspace.tree.get? loc = some e := by
  intro toolchain built left
  have hgrown : Workspace.Grown (c.buildRoot :: c.buildRoot.ancestors) s.workspace built :=
    grown_build hidle c s.workspace s.tools
  obtain ⟨calls, hmade, rfl | ⟨rest, rfl, hbuild, hexecuted⟩⟩ :=
    exists_calls toolchain reporter c s
  · have hsame : left.workspace = s.workspace := congrArg Parties.workspace hmade.parties
    refine ⟨[], hmade, by rw [hsame], fun loc => Or.inl (by rw [hsame]), ?_⟩
    intro cases hd case hcase exp e hexp loc hloc e he
    rw [hsame, he]
  · have hshrunk : Workspace.Shrunk (Cleared c rest built) built left.workspace := by
      have hrest := shrunk_calls reporter c hidle
        (Call.act toolchain reporter c s.parties .build) hbuild
      rw [← List.foldl_cons, ← hmade.parties] at hrest
      exact hrest
    have hcleared : ∀ loc, Cleared c rest built loc →
        c.cleanOutputs = true ∧
          ∃ case, Call.execute case ∈ Call.build :: rest ∧ built.Under case.output loc := by
      rintro loc ⟨hclean, case, hcase, hunder⟩
      exact ⟨hclean, case, List.mem_cons_of_mem _ hcase, hunder⟩
    refine ⟨_, hmade, hshrunk.here.trans hgrown.here, fun loc => ?_, ?_⟩
    · rcases hshrunk.tree loc with hsame | ⟨hgone, hnone⟩
      · rcases hgrown.tree loc with hsame' | ⟨hnew, p, hp, hfind⟩
        · exact Or.inl (hsame.trans hsame')
        · refine Or.inr (Or.inl ⟨hnew, ?_, p, hp, hfind⟩)
          rw [hsame, Workspace.get?_of_find hfind]
      · exact Or.inr (Or.inr ⟨hnone, hcleared loc hgone⟩)
    · intro cases hd case hcase exp e hexp loc hloc e he
      rcases hshrunk.tree loc with hsame | ⟨⟨-, other, hother, hunder⟩, -⟩
      · rw [hsame, hgrown.partOf loc e he]
      · obtain ⟨cases', hd', hother'⟩ := hexecuted other hother
        have hsame : cases' = cases := Except.ok.inj (hd'.symm.trans hd)
        exact absurd hunder
          (not_under_output hv hgrown hplain hd (hsame ▸ hother') hcase hexp hloc)

/-! ### A run over old output -/

/-- Children that end at once. -/
def quietLauncher : Child.Launcher where
  launch _ _ ws := .ok { schedule := .instant (.exited 0), remains := fun _ => ⟨.ok [], ws⟩ }

/-- A case whose old output is a link to its golden files. -/
def linkedTree : FileTree where
  entries :=
    [(["src"], .directory), (["src", "A.java"], .file []), (["t"], .directory),
      (["t", "a"], .directory), (["t", "a", "out"], .directory),
      (["t", "a", "out", "old"], .link ⟨"../exp"⟩), (["t", "a", "exp"], .directory),
      (["t", "a", "exp", "result.txt"], .file [1])]
  distinct := by decide
  rooted := by decide
  parented := by decide
  named := by decide

def cleaningConfig : Config :=
  { testsDir := ⟨"t"⟩, caseOutputDir := ⟨"./out/"⟩, caseExpectedDir := ⟨"exp"⟩,
    cleanOutputs := true }

def linkedStart : State (List Child.Command) Unit :=
  { workspace := ⟨linkedTree, []⟩, tools := [], audience := () }

/-- The link is gone with the old output, and what it led to is there as it was. -/
theorem linked_golden_file_kept :
    let left := (Step.perform
      (run (Toolchain.external quietLauncher) silentReporter cleaningConfig) linkedStart).2
    left.workspace.tree.get? ["t", "a", "out"] = none ∧
      left.workspace.tree.get? ["t", "a", "exp", "result.txt"] = some (.file [1]) := by
  have hidle : quietLauncher.Idle := by
    intro before command ws running hrunning killed
    cases hrunning
    rfl
  have hlist : ((Toolchain.external quietLauncher).build cleaningConfig linkedStart.workspace
      linkedStart.tools).workspace.list cleaningConfig.testsRoot = .ok (["t"], ["a"]) :=
    eq_ok_of_toOption (by decide +kernel)
  have hcases : Discovery.cases cleaningConfig
      ((Toolchain.external quietLauncher).build cleaningConfig linkedStart.workspace
        linkedStart.tools).workspace = .ok [.named cleaningConfig "a"] :=
    eq_ok_of_toOption (by decide +kernel)
  have hexpected : linkedStart.workspace.find true (TestCase.named cleaningConfig "a").expected =
      .ok (["t", "a", "exp"], .directory) :=
    eq_ok_of_toOption (by decide +kernel)
  have hplain : PlainCases cleaningConfig
      ((Toolchain.external quietLauncher).build cleaningConfig linkedStart.workspace
        linkedStart.tools).workspace linkedStart.workspace := by
    intro root names hroot name _ inner hinner target hlink
    rw [hlist] at hroot
    cases hroot
    have hmem := (get?_eq_some_iff (by simp)).mp hlink
    simp [linkedStart, linkedTree] at hmem
    obtain ⟨⟨rfl, rfl⟩, -⟩ := hmem
    revert hinner
    decide
  have hvalid : cleaningConfig.validate = .ok () := eq_ok_of_toOption (by decide +kernel)
  obtain ⟨calls, -, -, -, hgolden⟩ :=
    run_keeps_golden_files silentReporter hidle hvalid linkedStart hplain
  have hfile : linkedStart.workspace.tree.get? ["t", "a", "exp", "result.txt"] =
      some (.file [1]) := by
    decide
  have hkept := hgolden _ hcases _ (List.mem_singleton_self _) _ _ hexpected
    ["t", "a", "exp", "result.txt"] (by decide) _ hfile
  refine ⟨by decide +kernel, ?_⟩
  exact hkept

end GoldenSuite.Suite
