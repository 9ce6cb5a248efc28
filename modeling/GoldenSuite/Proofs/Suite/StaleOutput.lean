import GoldenSuite.Proofs.Case.Cleaned
import GoldenSuite.Proofs.Case.Executed
import GoldenSuite.Proofs.Case.Listing
import GoldenSuite.Proofs.Suite.GoldenFiles
import GoldenSuite.Proofs.Suite.Repetition

/-!
# Old output

When the old output of a case is removed before its simulator runs, and simulators go by the
directories of their cases and keep to their output places, no verdict rests on old output: runs
on files that differ in nothing else answer alike. What the induction on the cases carries is that
the cases still to be run look alike but for their outputs.
-/

namespace GoldenSuite.Suite

open FileTree

variable {ρ ρ' : Type} {launcher : Child.Launcher} {c : Config} {site : Site}
  {names : List String} {files : Workspace → Prop} {ws ws' : Workspace} {name : String}

/-! ### Simulators that keep to their cases -/

/-- What the simulator of a case comes to after other commands. -/
def simulated (launcher : Child.Launcher) (c : Config) (before : List Child.Command)
    (name : String) (ws : Workspace) : Except Child.SupervisionError Child.Ended :=
  launcher.ended before (Execution.simulatorCommand c (.named c name)) c.testLimit ws

/-- On certain files, the simulators of these cases change nothing but what is at or below the
output place of their case, and what they come to is told by the directory of their case, whatever
ran before. -/
structure Sheltered (launcher : Child.Launcher) (c : Config) (root : Location)
    (names : List String) (files : Workspace → Prop) : Prop where
  writes : ∀ before ws name ended, files ws → name ∈ names →
    simulated launcher c before name ws = .ok ended → Within c root name ws ended.workspace
  reads : ∀ before before' ws ws' name, files ws → files ws' → name ∈ names →
    SameCase root name ws ws' →
    (simulated launcher c before name ws).map Child.Ended.told =
        (simulated launcher c before' name ws').map Child.Ended.told ∧
      ∀ ended ended', simulated launcher c before name ws = .ok ended →
        simulated launcher c before' name ws' = .ok ended' →
        SameCase root name ended.workspace ended'.workspace

/-- On certain files, the simulators of these cases make no links in their directories. -/
def LeavesNoLink (launcher : Child.Launcher) (c : Config) (root : Location) (names : List String)
    (files : Workspace → Prop) : Prop :=
  ∀ before ws name ended, files ws → name ∈ names →
    simulated launcher c before name ws = .ok ended → ∀ inner target,
      ended.workspace.tree.get? (root ++ name :: inner) ≠ some (.link target)

/-! ### One case -/

section
variable (hsheltered : Sheltered launcher c site.root names (Steady c site))
  (hlinkless : LeavesNoLink launcher c site.root names (Steady c site))
  (hclean : c.cleanOutputs = true)
  (hout : c.caseOutputDir.LeadsDown) (hname : IsName name) (hmem : name ∈ names)
include hsheltered hlinkless hclean hout hname hmem

/-- The execution of a case leaves the files steady, and what is not at or below the output place
of the case as it was. -/
theorem steady_execute (h : Steady c site ws) (hcleanable : Cleanable c ws name)
    (tools : List Child.Command) :
    let reply := (Toolchain.external launcher).execute c (.named c name) ws tools
    Within c site.root name ws reply.workspace ∧ Steady c site reply.workspace := by
  intro reply
  obtain ⟨removed, hremoved⟩ := hcleanable
  have hwithin := h.within_cleaned hout hname ⟨removed, hremoved⟩
  have hsteady := h.steady_cleaned hout hname ⟨removed, hremoved⟩
  have hleft : reply.workspace = (Child.supervised launcher tools
      (Execution.simulatorCommand c (.named c name)) c.testLimit (cleaned c ws name)).2 :=
    (Execution.execute_of_cleaned hclean hremoved tools).2
  rcases Child.supervised_cases launcher tools (Execution.simulatorCommand c (.named c name))
    c.testLimit (cleaned c ws name) with hsame | ⟨ended, hended, hsame⟩
  · rw [hleft, hsame]
    exact ⟨hwithin, hsteady⟩
  · rw [hleft, hsame]
    have hwrites := hsheltered.writes _ _ name ended hsteady hmem hended
    refine ⟨hwithin.trans hwrites, hsteady.of_beside hwrites.beside fun inner target hlink => ?_⟩
    by_cases hin : [name] <+: inner
    · obtain ⟨more, rfl⟩ := hin
      exact hlinkless _ _ name ended hsteady hmem hended more target hlink
    · rw [hwrites.get?_eq] at hlink
      · exact hsteady.not_link inner target hlink
      · intro hunder
        rw [List.prefix_append_right_inj] at hunder
        exact hin (List.IsPrefix.trans ⟨proper c.caseOutputDir.names, rfl⟩ hunder)

omit hlinkless in
/-- A case whose directory looks alike but for its output comes to the same answer, and its
directory is left alike. -/
theorem execute_congr (h : Steady c site ws) (h' : Steady c site ws')
    (hcleanable : Cleanable c ws name) (hcleanable' : Cleanable c ws' name)
    (hsame : SameButOutput c site.root name ws ws') (tools tools' : List Child.Command) :
    let reply := (Toolchain.external launcher).execute c (.named c name) ws tools
    let reply' := (Toolchain.external launcher).execute c (.named c name) ws' tools'
    reply.answer = reply'.answer ∧
      SameCase site.root name reply.workspace reply'.workspace := by
  intro reply reply'
  have hsteady := h.steady_cleaned hout hname hcleanable
  have hsteady' := h'.steady_cleaned hout hname hcleanable'
  -- Without the output the directories look the same.
  have hcleaned : SameCase site.root name (cleaned c ws name) (cleaned c ws' name) := by
    intro inner
    have hplace : site.root ++ name :: proper c.caseOutputDir.names <+:
        site.root ++ name :: inner ↔ proper c.caseOutputDir.names <+: inner := by
      rw [List.prefix_append_right_inj, List.prefix_cons_inj]
    rw [(h.get?_cleaned hout hname hcleanable).2, (h'.get?_cleaned hout hname hcleanable').2]
    simp only [hplace]
    split
    · rfl
    · next hin => exact hsame inner hin
  obtain ⟨htold, hleft⟩ := hsheltered.reads tools tools' _ _ name hsteady hsteady' hmem hcleaned
  have hdir : Child.checkDirectory (Execution.simulatorCommand c (.named c name))
        (cleaned c ws name) =
      Child.checkDirectory (Execution.simulatorCommand c (.named c name)) (cleaned c ws' name) := by
    rw [Execution.checkDirectory_simulatorCommand, Execution.checkDirectory_simulatorCommand,
      hsteady.isDirectory_eq _ (.refl c site.root _),
      hsteady'.isDirectory_eq _ (.refl c site.root _)]
  obtain ⟨hsupervised, hfiles⟩ :=
    Child.supervised_congr (SameCase site.root name) hdir htold hcleaned hleft
  obtain ⟨removed, hremoved⟩ := hcleanable
  obtain ⟨removed', hremoved'⟩ := hcleanable'
  have hreply : reply.answer = _ ∧ reply.workspace = _ :=
    Execution.execute_of_cleaned hclean hremoved tools
  have hreply' : reply'.answer = _ ∧ reply'.workspace = _ :=
    Execution.execute_of_cleaned hclean hremoved' tools'
  rw [hreply.1, hreply'.1, hreply.2, hreply'.2]
  refine ⟨?_, hfiles⟩
  rw [show (Child.supervised launcher _ _ _ (Execution.removeOutput _ ws).2).1 = _ from hsupervised]
  rfl

theorem judgement_congr (hv : c.validate = .ok ()) (hlog : IsPlainName c.logArtifact)
    (hresult : IsPlainName c.resultArtifact) (h : Steady c site ws) (h' : Steady c site ws')
    (hcleanable : Cleanable c ws name) (hcleanable' : Cleanable c ws' name)
    (hsame : SameButOutput c site.root name ws ws') (tools tools' : List Child.Command) :
    (trialOn (Toolchain.external launcher) c ws tools (.named c name)).judgement c =
      (trialOn (Toolchain.external launcher) c ws' tools' (.named c name)).judgement c := by
  obtain ⟨hanswer, hleft⟩ := execute_congr hsheltered hclean hout hname hmem h h' hcleanable
    hcleanable' hsame tools tools'
  obtain ⟨-, hsteady⟩ :=
    steady_execute hsheltered hlinkless hclean hout hname hmem h hcleanable tools
  obtain ⟨-, hsteady'⟩ :=
    steady_execute hsheltered hlinkless hclean hout hname hmem h' hcleanable' tools'
  have hcompare := compareCase_eq_of_sameIn hv hlog hresult hname hsteady.root_eq
    hsteady'.root_eq hsteady.unlinked hsteady'.unlinked (hsteady.sameIn_of_sameCase hsteady' hleft)
  simp only [Trial.judgement, trialOn, hanswer, hcompare]

end

/-! ### All cases -/

/-- On the files that it found, a simulator ended with exit code zero and left the place of the
result as it is without old output; the logs do not settle the case, and the path of the result
can be followed. -/
structure Unwritten (c : Config) (found : Workspace) (t : Trial (List Child.Command)) : Prop where
  succeeded : t.Succeeded
  seen_eq : t.reply.workspace.seen c.testsRoot (resultPlace c t.case.entry) =
    (cleaned c found t.case.entry).seen c.testsRoot (resultPlace c t.case.entry)
  logs : ∃ logs, (Comparator.ofConfig c).checkLogs t.reply.workspace t.case = .ok logs ∧
    logs.failure? c.logPolicy = none
  usable : (t.case.output.join (.ofText c.resultArtifact)).Usable
  size_le : ∀ name ∈ (Path.ofText c.resultArtifact).names, name.length ≤ longestName

section
variable (hsheltered : Sheltered launcher c site.root names (Steady c site))
  (hlinkless : LeavesNoLink launcher c site.root names (Steady c site))
  (hclean : c.cleanOutputs = true)
  (hout : c.caseOutputDir.LeadsDown) {rest : List String} (hnodup : rest.Nodup)
  (hrest : ∀ name ∈ rest, IsName name ∧ name ∈ names)
include hsheltered hlinkless hclean hout hnodup hrest

/-- Cases whose directories look alike but for their outputs have the same reports. -/
theorem reports_congr (hv : c.validate = .ok ()) (hlog : IsPlainName c.logArtifact)
    (hresult : IsPlainName c.resultArtifact) (h : Steady c site ws) (h' : Steady c site ws')
    (hcleanable : ∀ name ∈ rest, Cleanable c ws name ∧ Cleanable c ws' name)
    (hsame : ∀ name ∈ rest, SameButOutput c site.root name ws ws')
    (tools tools' : List Child.Command) :
    reports c (trials (Toolchain.external launcher) c (rest.map (.named c)) ws tools) =
      reports c (trials (Toolchain.external launcher) c (rest.map (.named c)) ws' tools') := by
  induction rest generalizing ws ws' tools tools' with
  | nil => rfl
  | cons name others ih =>
    rw [List.forall_mem_cons] at hrest hcleanable hsame
    obtain ⟨hname, hothers⟩ := List.nodup_cons.mp hnodup
    have hjudged := judgement_congr hsheltered hlinkless hclean hout hrest.1.1 hrest.1.2 hv hlog
      hresult h h' hcleanable.1.1 hcleanable.1.2 hsame.1 tools tools'
    obtain ⟨hwithin, hsteady⟩ := steady_execute hsheltered hlinkless hclean hout hrest.1.1 hrest.1.2
      h hcleanable.1.1 tools
    obtain ⟨hwithin', hsteady'⟩ := steady_execute hsheltered hlinkless hclean hout hrest.1.1
      hrest.1.2 h' hcleanable.1.2 tools'
    have hne : ∀ other ∈ others, other ≠ name := fun other hmem heq => hname (heq ▸ hmem)
    -- The cases that are left have their directories as before, on both sides.
    have hcleanable₂ : ∀ other ∈ others,
        Cleanable c ((Toolchain.external launcher).execute c (.named c name) ws tools).workspace
            other ∧
          Cleanable c ((Toolchain.external launcher).execute c (.named c name) ws' tools').workspace
            other := by
      intro other hmem
      have hisName := (hrest.2 other hmem).1
      rw [hsteady.cleanable_congr h hout hisName (hwithin.sameCase (hne other hmem)),
        hsteady'.cleanable_congr h' hout hisName (hwithin'.sameCase (hne other hmem))]
      exact hcleanable.2 other hmem
    have hsame₂ : ∀ other ∈ others, SameButOutput c site.root other
        ((Toolchain.external launcher).execute c (.named c name) ws tools).workspace
        ((Toolchain.external launcher).execute c (.named c name) ws' tools').workspace := by
      intro other hmem inner hinner
      rw [hwithin.sameCase (hne other hmem), hwithin'.sameCase (hne other hmem)]
      exact hsame.2 other hmem inner hinner
    have hreports := ih hothers hrest.2 hsteady hsteady' hcleanable₂ hsame₂
      ((Toolchain.external launcher).execute c (.named c name) ws tools).state
      ((Toolchain.external launcher).execute c (.named c name) ws' tools').state
    simp only [trials_named_cons, reports, hjudged, hreports]
    rfl

theorem cleanable_of_trials (h : Steady c site ws) (hcleanable : ∀ name ∈ rest, Cleanable c ws name)
    {tools : List Child.Command} {before after : List (Trial (List Child.Command))}
    {t : Trial (List Child.Command)}
    (hsplit : trials (Toolchain.external launcher) c (rest.map (.named c)) ws tools =
      before ++ t :: after) :
    ∃ name ∈ rest, ∃ tools, t = trialOn (Toolchain.external launcher) c (ending ws before) tools
        (.named c name) ∧
      Steady c site (ending ws before) ∧ Cleanable c (ending ws before) name := by
  induction rest generalizing ws tools before with
  | nil => cases before <;> cases hsplit
  | cons name others ih =>
    rw [List.forall_mem_cons] at hrest hcleanable
    obtain ⟨hname, hothers⟩ := List.nodup_cons.mp hnodup
    rw [trials_named_cons] at hsplit
    cases before with
    | nil =>
      obtain ⟨rfl, -⟩ := List.cons.inj hsplit
      exact ⟨name, List.mem_cons_self, tools, rfl, h, hcleanable.1⟩
    | cons first more =>
      -- The first case has left the directories of the others, so they can be cleaned still.
      obtain ⟨rfl, hmore⟩ := List.cons.inj hsplit
      obtain ⟨hwithin, hsteady⟩ := steady_execute hsheltered hlinkless hclean hout hrest.1.1
        hrest.1.2 h hcleanable.1 tools
      have hcleanable₂ : ∀ other ∈ others, Cleanable c
          ((Toolchain.external launcher).execute c (.named c name) ws tools).workspace other := by
        intro other hmem
        rw [hsteady.cleanable_congr h hout (hrest.2 other hmem).1
          (hwithin.sameCase fun heq => hname (heq ▸ hmem))]
        exact hcleanable.2 other hmem
      obtain ⟨other, hmem, hfound⟩ := ih hothers hrest.2 hsteady hcleanable₂ hmore
      exact ⟨other, List.mem_cons_of_mem _ hmem, hfound⟩

theorem judgement_of_unwritten (hlog : IsPlainName c.logArtifact)
    (hresult : IsPlainName c.resultArtifact) (h : Steady c site ws)
    (hcleanable : ∀ name ∈ rest, Cleanable c ws name) {tools : List Child.Command}
    {before after : List (Trial (List Child.Command))} {t : Trial (List Child.Command)}
    (hsplit : trials (Toolchain.external launcher) c (rest.map (.named c)) ws tools =
      before ++ t :: after) (hunwritten : Unwritten c (ending ws before) t) :
    t.judgement c = .error (ComparisonError.missing c.resultArtifact .actual
      (t.case.output.join (.ofText c.resultArtifact))).diagnostic := by
  obtain ⟨name, hmem, begun, rfl, hstart, hcase⟩ :=
    cleanable_of_trials hsheltered hlinkless hclean hout hnodup hrest h hcleanable hsplit
  obtain ⟨hname, hin⟩ := hrest name hmem
  obtain ⟨-, hsteady⟩ :=
    steady_execute hsheltered hlinkless hclean hout hname hin hstart hcase begun
  obtain ⟨hsucceeded, hseen, ⟨logs, hlogs, hpass⟩, husable, hsize⟩ := hunwritten
  obtain ⟨logged, hlogged⟩ := exists_log_of_checkLogs hlogs
  obtain ⟨result, hproper, hresultIn⟩ := hresult.exists_proper_names
  have hentry : (trialOn (Toolchain.external launcher) c (ending ws before) begun
      (.named c name)).case.entry = name := TestCase.entry_named hname
  -- After the cleaning there was no result, and the simulator made none.
  rw [hentry, resultPlace, hproper] at hseen
  have hvacant := hseen.trans (hstart.seen_cleaned hout hname hcase [result])
  have hread := read_result_of_vacant hsteady.root_eq hsteady.unlinked hout hname hlog hresult
    hlogged husable hproper (hsize result hresultIn) hvacant
  rw [Trial.judgement_of_succeeded hsucceeded, compareCase_of_missing hlogs hpass hread]

end

/-! ### Two runs -/

/-- From the directory of all cases the files look alike, but perhaps for the outputs of cases. -/
structure AlikeButOutputs (c : Config) (ws ws' : Workspace) : Prop where
  /-- The entries stand in the same order. Sorting does not make up for it: the order tells which
  entry a discovery fails at, and which of two cases comes first whose names read alike. -/
  list_eq : ws.list c.testsRoot = ws'.list c.testsRoot
  seen_eq : ∀ inner, (∀ name, ¬ name :: proper c.caseOutputDir.names <+: inner) →
    ws.seen c.testsRoot inner = ws'.seen c.testsRoot inner

/-- Nothing has changed that is found from the directory of all cases. -/
structure Undisturbed (c : Config) (ws ws' : Workspace) : Prop where
  list_eq : ws'.list c.testsRoot = ws.list c.testsRoot
  seen_eq : ∀ inner, ws'.seen c.testsRoot inner = ws.seen c.testsRoot inner

/-- On two files a suite stands alike, the outputs of its cases can be removed, and its simulators
keep to their cases. -/
structure Prepared (launcher : Child.Launcher) (c : Config) (site : Site) (names : List String)
    (ws ws' : Workspace) : Prop where
  sheltered : Sheltered launcher c site.root names (Steady c site)
  linkless : LeavesNoLink launcher c site.root names (Steady c site)
  steady : Steady c site ws
  steady' : Steady c site ws'
  cleanable : ∀ name ∈ names, ws.tree.IsDirectory (site.root ++ [name]) →
    Cleanable c ws name ∧ Cleanable c ws' name

theorem AlikeButOutputs.of_undisturbed {built built' : Workspace} (h : AlikeButOutputs c ws ws')
    (hbuilt : Undisturbed c ws built) (hbuilt' : Undisturbed c ws' built') :
    AlikeButOutputs c built built' where
  list_eq := by rw [hbuilt.list_eq, hbuilt'.list_eq, h.list_eq]
  seen_eq := by
    intro inner hinner
    rw [hbuilt.seen_eq, hbuilt'.seen_eq, h.seen_eq inner hinner]

theorem AlikeButOutputs.cases_eq (h : AlikeButOutputs c ws ws')
    (hout : c.caseOutputDir.LeadsDown) (hlinks : ws.Unlinked c.testsRoot)
    (hlinks' : ws'.Unlinked c.testsRoot) : Discovery.cases c ws = Discovery.cases c ws' := by
  refine Discovery.cases_congr h.list_eq hlinks hlinks' fun name => h.seen_eq [name] ?_
  intro other hunder
  exact hout.proper_ne_nil (List.prefix_nil.mp (List.cons_prefix_cons.mp hunder).2)

theorem bind_const_congr {ε α β γ : Type} {x : Except ε α} {y : Except ε β}
    (h : x.map (fun _ => ()) = y.map fun _ => ()) (next : Except ε γ) :
    (x.bind fun _ => next) = y.bind fun _ => next := by
  cases x with
  | error e =>
    cases y with
    | error e' =>
      cases h
      rfl
    | ok b => cases h
  | ok a =>
    cases y with
    | error e' => cases h
    | ok b => rfl

theorem map_cases_run {σ : Type} (toolchain : Toolchain σ) (reporter : Reporter ρ)
    (hv : c.validate = .ok ()) (s : State σ ρ) :
    let built := toolchain.build c s.workspace s.tools
    (Step.perform (run toolchain reporter c) s).1.map Summary.cases =
      built.answer.bind fun _ =>
        ((Discovery.cases c built.workspace).mapError
            fun e => Halt.error e.diagnostic).bind fun cases =>
          reports c (trials toolchain c cases built.workspace built.state) := by
  intro built
  cases hb : built.answer with
  | error d =>
    rw [(perform_run_of_unbuilt reporter hv s hb).1]
    rfl
  | ok report =>
    cases hd : Discovery.cases c built.workspace with
    | error e =>
      rw [(perform_run_of_undiscovered reporter hv s hb hd).1]
      rfl
    | ok cases =>
      rw [(run_of_discovered reporter hv s hb hd).1]
      show Except.map Summary.cases (Except.map _ (reports c _)) = reports c _
      cases reports c (trials toolchain c cases built.workspace built.state) <;> rfl

theorem Prepared.exists_rest (h : Prepared launcher c site names ws ws')
    (hlist : ws.list c.testsRoot = .ok (site.root, names)) {cases : List TestCase}
    (hd : Discovery.cases c ws = .ok cases) :
    ∃ rest : List String, cases = rest.map (.named c) ∧ rest.Nodup ∧
      (∀ name ∈ rest, IsName name ∧ name ∈ names) ∧
      ∀ name ∈ rest, Cleanable c ws name ∧ Cleanable c ws' name := by
  obtain ⟨root, hroot, rest, hcases, hnodup, hrest⟩ := Discovery.exists_entries h.steady.unlinked hd
  obtain ⟨hfound, rfl⟩ := Workspace.list_eq_ok_iff.mp hlist
  obtain ⟨rfl, -⟩ := Prod.mk.inj (Except.ok.inj (hroot.symm.trans hfound))
  have hlisted : ∀ name ∈ rest, name ∈ ws.tree.children site.root := fun name hmem =>
    mem_children_iff.mpr ⟨_, (hrest name hmem).2⟩
  exact ⟨rest, hcases, hnodup, fun name hmem => ⟨(hrest name hmem).1, hlisted name hmem⟩,
    fun name hmem => h.cleanable name (hlisted name hmem) (hrest name hmem).2⟩

section
variable (h : Prepared launcher c site names ws ws') (hv : c.validate = .ok ())
  (hclean : c.cleanOutputs = true) (hlog : IsPlainName c.logArtifact)
  (hresult : IsPlainName c.resultArtifact)
  (hlist : ws.list c.testsRoot = .ok (site.root, names)) {cases : List TestCase}
  (hd : Discovery.cases c ws = .ok cases)
include h hv hclean hlog hresult hlist hd

theorem Prepared.reports_eq (halike : AlikeButOutputs c ws ws')
    (tools tools' : List Child.Command) :
    reports c (trials (Toolchain.external launcher) c cases ws tools) =
      reports c (trials (Toolchain.external launcher) c cases ws' tools') := by
  have hout := (Config.separate_of_validate hv).output
  obtain ⟨rest, rfl, hnodup, hrest, hcleanable⟩ := h.exists_rest hlist hd
  refine reports_congr h.sheltered h.linkless hclean hout hnodup hrest hv hlog hresult
    h.steady h.steady' hcleanable (fun name hmem inner hinner => ?_) tools tools'
  rw [← Workspace.seen_apply h.steady.root_eq, ← Workspace.seen_apply h.steady'.root_eq]
  exact halike.seen_eq _ fun other hunder => hinner (List.cons_prefix_cons.mp hunder).2

theorem Prepared.misses {tools : List Child.Command}
    {before after : List (Trial (List Child.Command))} {t : Trial (List Child.Command)}
    (hsplit : trials (Toolchain.external launcher) c cases ws tools = before ++ t :: after)
    (hunwritten : Unwritten c (ending ws before) t) :
    t.judgement c = .error (ComparisonError.missing c.resultArtifact .actual
      (t.case.output.join (.ofText c.resultArtifact))).diagnostic := by
  have hout := (Config.separate_of_validate hv).output
  obtain ⟨rest, rfl, hnodup, hrest, hcleanable⟩ := h.exists_rest hlist hd
  exact judgement_of_unwritten h.sheltered h.linkless hclean hout hnodup hrest hlog hresult
    h.steady (fun name hmem => (hcleanable name hmem).1) hsplit hunwritten

end

/-- Runs on files that differ in nothing but the outputs of cases come to the same verdicts in
the same order, or stop with the same error. A case that is reached and whose simulator writes no
result ends the run, which misses the result. -/
theorem run_ignores_old_output {toolchain : Toolchain (List Child.Command)}
    (hexecute : toolchain.execute c = (Toolchain.external launcher).execute c)
    (hv : c.validate = .ok ()) (hclean : c.cleanOutputs = true)
    (hlog : IsPlainName c.logArtifact) (hresult : IsPlainName c.resultArtifact)
    (reporter : Reporter ρ) (reporter' : Reporter ρ') (s : State (List Child.Command) ρ)
    (s' : State (List Child.Command) ρ') (halike : AlikeButOutputs c s.workspace s'.workspace)
    (hbuild : Undisturbed c s.workspace (toolchain.build c s.workspace s.tools).workspace)
    (hbuild' : Undisturbed c s'.workspace (toolchain.build c s'.workspace s'.tools).workspace)
    (hanswer : (toolchain.build c s.workspace s.tools).answer.map (fun _ => ()) =
      (toolchain.build c s'.workspace s'.tools).answer.map fun _ => ())
    (hprepared : ∀ root names, s.workspace.list c.testsRoot = .ok (root, names) →
      ∃ here started, Prepared launcher c ⟨here, root, started⟩ names
        (toolchain.build c s.workspace s.tools).workspace
        (toolchain.build c s'.workspace s'.tools).workspace) :
    let built := toolchain.build c s.workspace s.tools
    let done := Step.perform (run toolchain reporter c) s
    let done' := Step.perform (run toolchain reporter' c) s'
    done.1.map Summary.cases = done'.1.map Summary.cases ∧
    ∀ report cases, built.answer = .ok report → Discovery.cases c built.workspace = .ok cases →
      ∀ before t after, trials toolchain c cases built.workspace built.state =
        before ++ t :: after →
      (∀ x ∈ before, ∃ verdict, x.judgement c = .ok verdict) →
      Unwritten c (ending built.workspace before) t →
      done.1 = .error (ComparisonError.missing c.resultArtifact .actual
        (t.case.output.join (.ofText c.resultArtifact))).diagnostic := by
  intro built done done'
  have hout := (Config.separate_of_validate hv).output
  have hbuilt : AlikeButOutputs c built.workspace
      (toolchain.build c s'.workspace s'.tools).workspace := halike.of_undisturbed hbuild hbuild'
  -- Where cases are discovered, the directory of all cases is there, and all is prepared.
  have hsite : ∀ cases, Discovery.cases c built.workspace = .ok cases → ∃ site names,
      Prepared launcher c site names built.workspace
        (toolchain.build c s'.workspace s'.tools).workspace ∧
      built.workspace.list c.testsRoot = .ok (site.root, names) := by
    intro cases hd
    obtain ⟨root, hroot, -⟩ := Discovery.cases_eq_ok hd
    have hlist := Workspace.list_eq_ok_iff.mpr ⟨hroot, rfl⟩
    obtain ⟨here, started, h⟩ := hprepared root _ (hbuild.list_eq.symm.trans hlist)
    exact ⟨_, _, h, hlist⟩
  constructor
  · have hcases : Discovery.cases c built.workspace =
        Discovery.cases c (toolchain.build c s'.workspace s'.tools).workspace := by
      cases hl : built.workspace.list c.testsRoot with
      | error fault =>
        rw [Discovery.cases_of_unlisted hl,
          Discovery.cases_of_unlisted (hbuilt.list_eq.symm.trans hl)]
      | ok listed =>
        obtain ⟨root, names⟩ := listed
        obtain ⟨here, started, h⟩ := hprepared root names (hbuild.list_eq.symm.trans hl)
        exact hbuilt.cases_eq hout h.steady.unlinked h.steady'.unlinked
    -- The runs go alike past the build and the discovery, and then through the trials.
    rw [map_cases_run toolchain reporter hv s, map_cases_run toolchain reporter' hv s', ← hcases]
    refine (bind_const_congr hanswer _).trans (congrArg _ (funext fun _ => ?_))
    cases hd : Discovery.cases c built.workspace with
    | error e => rfl
    | ok cases =>
      obtain ⟨site, names, h, hlist⟩ := hsite cases hd
      have hreports := h.reports_eq hv hclean hlog hresult hlist hd hbuilt built.state
        (toolchain.build c s'.workspace s'.tools).state
      rw [← trials_congr hexecute, ← trials_congr hexecute] at hreports
      exact hreports
  · intro report cases hb hd before t after hsplit hbefore hunwritten
    obtain ⟨site, names, h, hlist⟩ := hsite cases hd
    have hjudged := h.misses hv hclean hlog hresult hlist hd
      ((trials_congr hexecute cases _ _).symm.trans hsplit) hunwritten
    obtain ⟨hdone, -, -⟩ := run_of_discovered reporter hv s hb hd
    have hreports : reports c (trials toolchain c cases built.workspace built.state) = .error _ :=
      reports_eq_error_iff.mpr ⟨before, t, after, hsplit, hbefore, hjudged⟩
    exact hdone.trans (congrArg _ hreports)

/-! ### Simulators that do as they are told -/

/-- Children that change the tree and end at once, as their command says. -/
def stagedLauncher (script : Child.Command → FileTree → FileTree) (code : Child.Command → Int) :
    Child.Launcher where
  launch _ command ws := .ok
    { schedule := .instant (.exited (code command))
      remains := fun _ => ⟨.ok [], ws.withTree (script command ws.tree)⟩ }

theorem simulated_staged (script : Child.Command → FileTree → FileTree)
    (code : Child.Command → Int) (before : List Child.Command) (ws : Workspace) :
    let command := Execution.simulatorCommand c (.named c name)
    simulated (stagedLauncher script code) c before name ws =
      if command.spoiled then .error (.spawn command.shownProgram .nulInArgument)
      else
        let schedule := Child.Schedule.instant (.exited (code command))
        .ok ⟨(schedule.watch c.testLimit).answer, .ok [], ws.withTree (script command ws.tree)⟩ := by
  intro command
  unfold simulated Child.Launcher.ended Child.Command.start
  split <;> rfl

theorem workspace_of_staged {script : Child.Command → FileTree → FileTree}
    {code : Child.Command → Int} {before : List Child.Command} {ended : Child.Ended}
    (h : simulated (stagedLauncher script code) c before name ws = .ok ended) :
    ended.workspace =
      ws.withTree (script (Execution.simulatorCommand c (.named c name)) ws.tree) := by
  rw [simulated_staged] at h
  split at h
  · cases h
  · cases h
    rfl

theorem sheltered_staged {script : Child.Command → FileTree → FileTree}
    {code : Child.Command → Int} {root : Location}
    (hwrites : ∀ name ∈ names, ∀ (t : FileTree) loc,
      ¬ root ++ name :: proper c.caseOutputDir.names <+: loc →
      (script (Execution.simulatorCommand c (.named c name)) t).get? loc = t.get? loc)
    (hreads : ∀ name ∈ names, ∀ t t' : FileTree,
      (∀ inner, t.get? (root ++ name :: inner) = t'.get? (root ++ name :: inner)) → ∀ inner,
        (script (Execution.simulatorCommand c (.named c name)) t).get? (root ++ name :: inner) =
          (script (Execution.simulatorCommand c (.named c name)) t').get?
            (root ++ name :: inner)) (files : Workspace → Prop) :
    Sheltered (stagedLauncher script code) c root names files where
  writes := by
    intro before ws name ended _ hmem hended
    rw [workspace_of_staged hended]
    exact ⟨rfl, fun loc hloc => hwrites name hmem ws.tree loc hloc⟩
  reads := by
    intro before before' ws ws' name _ _ hmem hsame
    constructor
    · rw [simulated_staged, simulated_staged]
      split <;> rfl
    · intro ended ended' hended hended'
      rw [workspace_of_staged hended, workspace_of_staged hended']
      exact hreads name hmem ws.tree ws'.tree hsame

def idling (code : Int) : Child.Launcher :=
  stagedLauncher (fun _ t => t) fun _ => code

theorem sheltered_idling (code : Int) (c : Config) (root : Location) (names : List String)
    (files : Workspace → Prop) : Sheltered (idling code) c root names files :=
  sheltered_staged (fun _ _ _ _ _ => rfl) (fun _ _ _ _ hsame => hsame) files

/-- The external toolchain, with the simulator built already, or not. -/
def prebuilt (launcher : Child.Launcher)
    (answer : Workspace → Except (Halt Diagnostic) BuildReport) : Toolchain (List Child.Command) where
  build _ ws tools := ⟨answer ws, ws, tools, []⟩
  execute := (Toolchain.external launcher).execute

def built (_ : Workspace) : Except (Halt Diagnostic) BuildReport :=
  .ok ⟨0, ⟨"bin"⟩⟩

/-! ### A result that is there already -/

def cleanConfig : Config :=
  { plainConfig with cleanOutputs := true }

theorem cleanConfig_accepted : cleanConfig.validate = .ok () :=
  eq_ok_of_toOption (by decide +kernel)

/-- A case whose old output is what is expected of it. -/
def staleCase : FileTree where
  entries :=
    [(["t"], .directory), (["t", "a"], .directory), (["t", "a", "exp"], .directory),
      (["t", "a", "exp", "result.txt"], .file [1]), (["t", "a", "out"], .directory),
      (["t", "a", "out", "result.txt"], .file [1])]
  distinct := by decide
  rooted := by decide
  parented := by decide
  named := by decide

def startOn (t : FileTree) : State (List Child.Command) Unit :=
  { workspace := ⟨t, []⟩, tools := [], audience := () }

theorem steady_cleanConfig {t : FileTree} (hdir : t.IsDirectory ["t"])
    (hlinks : ∀ loc target, t.get? loc ≠ some (.link target)) :
    Steady cleanConfig ⟨[], ["t"], true⟩ ⟨t, []⟩ := by
  have hthere : ∀ ws', Beside cleanConfig ["t"] ⟨t, []⟩ ws' →
      ws'.here = [] ∧ ws'.tree.IsDirectory ["t"] := by
    intro ws' h
    refine ⟨h.here_eq, (h.get?_eq ["t"] fun name hunder => ?_).trans hdir⟩
    have hlength := hunder.length_le
    simp at hlength
  refine ⟨rfl, ?_, fun ws' h => find_plainTests (hthere ws' h).1 (hthere ws' h).2, ?_⟩
  · intro inner target
    rw [show cleanConfig.testsRoot = plainConfig.testsRoot from rfl,
      Workspace.seen_apply (find_plainTests rfl hdir)]
    exact hlinks _ target
  · intro ws' h
    refine Workspace.isDirectory_iff.mpr ⟨[], Workspace.find_eq_ok_iff.mpr ⟨⟨?_, ?_⟩, rfl⟩⟩
    · exact ⟨by decide +kernel, by decide +kernel, by decide +kernel⟩
    · have hsteps : (Execution.startPath cleanConfig).steps = ["."] := by decide +kernel
      have hstart : start ws'.here (Execution.startPath cleanConfig) = [] := by
        rw [(hthere ws' h).1, start]
        split <;> rfl
      rw [hsteps, hstart, follow_current (isDirectory_root _)]
      exact follow_nil ..

/-- Two trees without links that differ in nothing but old outputs below `t`, which are removed
before simulators that keep to their cases. -/
structure OldOutput (launcher : Child.Launcher) (c : Config) (t t' : FileTree) : Prop where
  accepted : c.validate = .ok ()
  clean : c.cleanOutputs = true
  log : IsPlainName c.logArtifact
  result : IsPlainName c.resultArtifact
  root : (Workspace.mk t []).find true c.testsRoot = .ok (["t"], .directory)
  unlinked : ∀ loc target, t.get? loc ≠ some (.link target)
  unlinked' : ∀ loc target, t'.get? loc ≠ some (.link target)
  get?_eq : ∀ loc, (∀ name, ¬ ["t"] ++ name :: proper c.caseOutputDir.names <+: loc) →
    t.get? loc = t'.get? loc
  sheltered : Sheltered launcher c ["t"] (t.children ["t"]) fun _ => True
  cleanable : ∀ name ∈ t.children ["t"], Cleanable c ⟨t, []⟩ name ∧ Cleanable c ⟨t', []⟩ name

def outputless (t : FileTree) (name : String) : FileTree :=
  t.prune ["t", name, "out"]

theorem oldOutput_outputless {t : FileTree} (hv : c.validate = .ok ())
    (hclean : c.cleanOutputs = true) (hlog : IsPlainName c.logArtifact)
    (hresult : IsPlainName c.resultArtifact) (hout : proper c.caseOutputDir.names = ["out"])
    (hroot : (Workspace.mk t []).find true c.testsRoot = .ok (["t"], .directory))
    (hlinks : ∀ loc target, (loc, Entry.link target) ∉ t.entries)
    (hnames : t.children ["t"] = names)
    (hsheltered : Sheltered launcher c ["t"] names fun _ => True)
    (hcleanable : ∀ other ∈ names,
      Cleanable c ⟨t, []⟩ other ∧ Cleanable c ⟨outputless t name, []⟩ other) :
    OldOutput launcher c t (outputless t name) := by
  have hpruned : ∀ loc e, (outputless t name).get? loc = some e → t.get? loc = some e := by
    intro loc e he
    by_cases hloc : loc = []
    · subst hloc
      exact he
    · rw [outputless, get?_prune hloc] at he
      split at he
      · cases he
      · exact he
  subst hnames
  refine ⟨hv, hclean, hlog, hresult, hroot, not_link_of_entries hlinks, ?_, ?_, hsheltered,
    hcleanable⟩
  · intro loc target hlink
    exact not_link_of_entries hlinks loc target (hpruned loc _ hlink)
  · intro loc hloc
    by_cases hnil : loc = []
    · subst hnil
      rfl
    · have hnot : ¬ List.isPrefixOf ["t", name, "out"] loc = true := by
        rw [List.isPrefixOf_iff_prefix]
        intro hin
        refine hloc name ?_
        rwa [hout]
      rw [outputless, get?_prune hnil, if_neg hnot]

/-- The case whose old output is what is expected misses its result, as it does without the old
output. -/
theorem stale_result_missed :
    let done := Step.perform (run (prebuilt (idling 0) built) silentReporter cleanConfig)
      (startOn staleCase)
    let done' := Step.perform (run (prebuilt (idling 0) built) silentReporter cleanConfig)
      (startOn (outputless staleCase "a"))
    done.1.map Summary.cases = done'.1.map Summary.cases ∧
      done.1 = .error
        (ComparisonError.missing cleanConfig.resultArtifact .actual
          ((TestCase.named cleanConfig "a").output.join
            (.ofText cleanConfig.resultArtifact))).diagnostic := by
  intro done done'
  have hlinks : ∀ loc target, (loc, Entry.link target) ∉ staleCase.entries := by
    simp [staleCase]
  have hnames : staleCase.children ["t"] = ["a"] := by decide +kernel
  have hlog : IsPlainName cleanConfig.logArtifact := isPlainName_log
  have hresult : IsPlainName cleanConfig.resultArtifact := isPlainName_result
  have hold : OldOutput (idling 0) cleanConfig staleCase (outputless staleCase "a") :=
    oldOutput_outputless cleanConfig_accepted rfl hlog hresult (by decide +kernel)
      (eq_ok_of_toOption (by decide +kernel)) hlinks hnames (sheltered_idling ..)
      (by decide +kernel)
  have hlist : (Workspace.mk staleCase []).list cleanConfig.testsRoot = .ok (["t"], ["a"]) :=
    eq_ok_of_toOption (by decide +kernel)
  have hsteady := steady_cleanConfig (t := staleCase) (by decide) hold.unlinked
  have hsteady' := steady_cleanConfig (t := outputless staleCase "a") (by decide) hold.unlinked'
  have hlinkless : LeavesNoLink (idling 0) cleanConfig ["t"] ["a"]
      (Steady cleanConfig ⟨[], ["t"], true⟩) := by
    intro before ws name ended h _ hended inner target
    rw [workspace_of_staged hended]
    exact h.not_link _ target
  have halike : AlikeButOutputs cleanConfig ⟨staleCase, []⟩ ⟨outputless staleCase "a", []⟩ := by
    refine ⟨by decide +kernel, fun inner hinner => ?_⟩
    rw [Workspace.seen_apply hsteady.root_eq, Workspace.seen_apply hsteady'.root_eq]
    refine hold.get?_eq _ fun name hunder => hinner name ?_
    rwa [List.prefix_append_right_inj] at hunder
  have hprepared : ∀ root names,
      (Workspace.mk staleCase []).list cleanConfig.testsRoot = .ok (root, names) →
        ∃ here started, Prepared (idling 0) cleanConfig ⟨here, root, started⟩ names
          ⟨staleCase, []⟩ ⟨outputless staleCase "a", []⟩ := by
    intro root names hfound
    obtain ⟨rfl, rfl⟩ := Prod.mk.inj (Except.ok.inj (hlist.symm.trans hfound))
    refine ⟨[], true, sheltered_idling .., hlinkless, hsteady, hsteady', fun name hname _ => ?_⟩
    exact hold.cleanable name (hnames ▸ hname)
  have hexecute : (prebuilt (idling 0) built).execute cleanConfig =
      (Toolchain.external (idling 0)).execute cleanConfig := rfl
  obtain ⟨hsame, hmissed⟩ := run_ignores_old_output hexecute cleanConfig_accepted rfl hlog
    hresult silentReporter silentReporter (startOn staleCase) (startOn (outputless staleCase "a"))
    halike ⟨rfl, fun _ => rfl⟩ ⟨rfl, fun _ => rfl⟩ rfl hprepared
  have hcases : Discovery.cases cleanConfig ⟨staleCase, []⟩ = .ok [.named cleanConfig "a"] :=
    Discovery.cases_of_sorted hlist (eq_ok_of_toOption (by decide +kernel)) (by decide +kernel)
  have hunwritten : Unwritten cleanConfig ⟨staleCase, []⟩
      (trialOn (prebuilt (idling 0) built) cleanConfig ⟨staleCase, []⟩ []
        (.named cleanConfig "a")) := by
    refine ⟨⟨⟨.exited 0, ""⟩, eq_ok_of_toOption (by decide +kernel), rfl⟩, by decide +kernel,
      ⟨⟨.neither, none⟩, eq_ok_of_toOption (by decide +kernel), rfl⟩, ?_, by decide +kernel⟩
    exact ⟨by decide +kernel, by decide +kernel, by decide +kernel⟩
  have hsplit : trials (prebuilt (idling 0) built) cleanConfig [.named cleanConfig "a"]
      ⟨staleCase, []⟩ [] =
        [] ++ [trialOn (prebuilt (idling 0) built) cleanConfig ⟨staleCase, []⟩ []
          (.named cleanConfig "a")] := rfl
  have hmiss := hmissed _ _ rfl hcases [] _ [] hsplit (by simp) hunwritten
  exact ⟨hsame, hmiss⟩

/-! ### Where old output shows -/

def outcome (launcher : Child.Launcher) (answer : Workspace → Except (Halt Diagnostic) BuildReport)
    (c : Config) (t : FileTree) : Except (Halt Diagnostic) (List CaseReport) :=
  (Step.perform (run (prebuilt launcher answer) silentReporter c) (startOn t)).1.map Summary.cases

theorem outcome_of_two {t : FileTree} (hv : c.validate = .ok ())
    (hlist : (Workspace.mk t []).list c.testsRoot = .ok (["t"], ["a", "b"]))
    (hfound : Discovery.casesAmong c ⟨t, []⟩ ["a", "b"] = .ok [.named c "a", .named c "b"]) :
    outcome launcher built c t = reports c (trials (Toolchain.external launcher) c
      [.named c "a", .named c "b"] ⟨t, []⟩ []) := by
  have hsorted : [TestCase.named c "a", .named c "b"].Pairwise fun a b => a.name ≤ b.name := by
    refine List.pairwise_pair.mpr ?_
    show "a" ≤ "b"
    decide
  have hcases := Discovery.cases_of_sorted hlist hfound hsorted
  refine (map_cases_run (prebuilt launcher built) silentReporter hv (startOn t)).trans ?_
  show ((Discovery.cases c ⟨t, []⟩).mapError fun e => Halt.error e.diagnostic).bind
    (fun cases => reports c (trials (prebuilt launcher built) c cases ⟨t, []⟩ [])) = _
  rw [hcases]
  have hexecute : (prebuilt launcher built).execute c = (Toolchain.external launcher).execute c :=
    rfl
  exact congrArg (reports c) (trials_congr hexecute _ _ _)

def sharedCases : FileTree where
  entries :=
    [(["t"], .directory), (["t", "a"], .directory), (["t", "a", "exp"], .directory),
      (["t", "a", "exp", "result.txt"], .file [1]), (["t", "b"], .directory),
      (["t", "b", "out"], .directory), (["t", "b", "out", "result.txt"], .file [1])]
  distinct := by decide
  rooted := by decide
  parented := by decide
  named := by decide

def onA (command : Child.Command) : Bool :=
  command.arguments.contains "./t/a/src/"

/-- The case `a` takes the output of the case `b` for its own. -/
def borrow (command : Child.Command) (t : FileTree) : FileTree :=
  if onA command then deliver (.link ⟨"../../b/out/result.txt"⟩) "a" t else t

def borrowing : Child.Launcher :=
  stagedLauncher borrow fun command => if onA command then 0 else 1

theorem sheltered_borrowing (files : Workspace → Prop) :
    Sheltered borrowing cleanConfig ["t"] ["a", "b"] files := by
  have hout : proper cleanConfig.caseOutputDir.names = ["out"] := by decide +kernel
  have honA : ∀ name ∈ ["a", "b"],
      onA (Execution.simulatorCommand cleanConfig (.named cleanConfig name)) = true →
      name = "a" := by
    decide +kernel
  refine sheltered_staged (fun name hname t loc hloc => ?_) (fun name hname t t' hsame inner => ?_)
    files
  · rw [hout] at hloc
    unfold borrow
    split
    · next ha =>
      obtain rfl := honA name hname ha
      exact get?_deliver_outside hloc
    · rfl
  · unfold borrow
    split
    · next ha =>
      obtain rfl := honA name hname ha
      exact get?_deliver_congr _ hsame inner
    · exact hsame inner

def making : Child.Launcher :=
  stagedLauncher (fun _ t => t.add ["t", "a"] "out" .directory) fun _ => 0

theorem sheltered_making {c : Config} (hout : proper c.caseOutputDir.names = ["out"])
    (files : Workspace → Prop) : Sheltered making c ["t"] ["a"] files := by
  refine sheltered_staged (fun name hname t loc hloc => ?_) (fun name hname t t' hsame inner => ?_)
    files
  · obtain rfl := List.mem_singleton.mp hname
    rw [hout] at hloc
    refine get?_add_of_ne ?_
    rintro rfl
    exact hloc List.prefix_rfl
  · obtain rfl := List.mem_singleton.mp hname
    exact get?_add_congr .directory (hsame []) (hsame ["out"]) (hsame inner)

/-- The tests are found by way of the output of a case. -/
def detouringConfig : Config :=
  { cleanConfig with testsDir := ⟨"t/a/out/../.."⟩ }

/-- Simulators start in the output of a case. -/
def innerConfig : Config :=
  { cleanConfig with root := ⟨"/t/b/out"⟩, testsDir := ⟨"/t"⟩ }

/-- Results have a name that no file can have. -/
def namelessConfig : Config :=
  { cleanConfig with resultArtifact := "\x00" }

/-- A build that fails when there is old output. -/
def builtAfresh (ws : Workspace) : Except (Halt Diagnostic) BuildReport :=
  if ws.tree.get? ["t", "a", "out"] = none then built ws
  else .error (.error ⟨.system, "", ""⟩)

theorem borrowed_output_shows :
    outcome borrowing built cleanConfig sharedCases ≠
      outcome borrowing built cleanConfig (outputless sharedCases "b") := by
  rw [outcome_of_two cleanConfig_accepted (eq_ok_of_toOption (by decide +kernel))
      (eq_ok_of_toOption (by decide +kernel)),
    outcome_of_two cleanConfig_accepted (eq_ok_of_toOption (by decide +kernel))
      (eq_ok_of_toOption (by decide +kernel))]
  decide +kernel

theorem inner_start_shows :
    outcome (idling 0) built innerConfig sharedCases ≠
      outcome (idling 0) built innerConfig (outputless sharedCases "b") := by
  have hvalid : innerConfig.validate = .ok () := eq_ok_of_toOption (by decide +kernel)
  rw [outcome_of_two hvalid (eq_ok_of_toOption (by decide +kernel))
      (eq_ok_of_toOption (by decide +kernel)),
    outcome_of_two hvalid (eq_ok_of_toOption (by decide +kernel))
      (eq_ok_of_toOption (by decide +kernel))]
  decide +kernel

/-- Runs to which old output matters: a simulator links to it, the way to the tests or the
directory that simulators start in goes through it, or the build looks at it. And a result that
was not written is not always missed, since its path may be one that cannot be followed. -/
theorem old_output_shows :
    (OldOutput borrowing cleanConfig sharedCases (outputless sharedCases "b") ∧
      outcome borrowing built cleanConfig sharedCases ≠
        outcome borrowing built cleanConfig (outputless sharedCases "b")) ∧
    (OldOutput (idling 1) detouringConfig staleCase (outputless staleCase "a") ∧
      outcome (idling 1) built detouringConfig staleCase ≠
        outcome (idling 1) built detouringConfig (outputless staleCase "a")) ∧
    (OldOutput (idling 0) innerConfig sharedCases (outputless sharedCases "b") ∧
      outcome (idling 0) built innerConfig sharedCases ≠
        outcome (idling 0) built innerConfig (outputless sharedCases "b")) ∧
    (OldOutput (idling 1) cleanConfig staleCase (outputless staleCase "a") ∧
      outcome (idling 1) builtAfresh cleanConfig staleCase ≠
        outcome (idling 1) builtAfresh cleanConfig (outputless staleCase "a")) ∧
    (OldOutput making namelessConfig staleCase (outputless staleCase "a") ∧
      (let t := trialOn (Toolchain.external making) namelessConfig ⟨staleCase, []⟩ []
          (.named namelessConfig "a")
      t.Succeeded ∧ t.reply.workspace.tree.children ["t", "a", "out"] = [] ∧
        ∃ logs, (Comparator.ofConfig namelessConfig).checkLogs t.reply.workspace t.case = .ok logs ∧
          logs.failure? namelessConfig.logPolicy = none) ∧
      (outcome making built namelessConfig staleCase).mapError (Halt.map Diagnostic.code) =
        .error (.error "IO.ARTIFACT_READ")) := by
  have hpair : sharedCases.children ["t"] = ["a", "b"] := by decide +kernel
  have hone : staleCase.children ["t"] = ["a"] := by decide +kernel
  have hplace : proper cleanConfig.caseOutputDir.names = ["out"] := by decide +kernel
  have hlinks : ∀ loc target, (loc, Entry.link target) ∉ sharedCases.entries := by
    simp [sharedCases]
  have hlinks' : ∀ loc target, (loc, Entry.link target) ∉ staleCase.entries := by
    simp [staleCase]
  refine ⟨⟨?_, borrowed_output_shows⟩, ⟨?_, by decide +kernel⟩, ⟨?_, inner_start_shows⟩,
    ⟨?_, by decide +kernel⟩, ?_, ⟨?_, by decide +kernel, ?_⟩, by decide +kernel⟩
  · exact oldOutput_outputless (eq_ok_of_toOption (by decide +kernel)) rfl isPlainName_log
      isPlainName_result hplace
      (eq_ok_of_toOption (by decide +kernel)) hlinks hpair (sheltered_borrowing _)
      (by decide +kernel)
  · exact oldOutput_outputless (eq_ok_of_toOption (by decide +kernel)) rfl isPlainName_log
      isPlainName_result hplace
      (eq_ok_of_toOption (by decide +kernel)) hlinks' hone (sheltered_idling ..) (by decide +kernel)
  · exact oldOutput_outputless (eq_ok_of_toOption (by decide +kernel)) rfl isPlainName_log
      isPlainName_result hplace
      (eq_ok_of_toOption (by decide +kernel)) hlinks hpair (sheltered_idling ..) (by decide +kernel)
  · exact oldOutput_outputless (eq_ok_of_toOption (by decide +kernel)) rfl isPlainName_log
      isPlainName_result hplace
      (eq_ok_of_toOption (by decide +kernel)) hlinks' hone (sheltered_idling ..) (by decide +kernel)
  · have hplace' : proper namelessConfig.caseOutputDir.names = ["out"] := by decide +kernel
    have hresult : IsPlainName namelessConfig.resultArtifact :=
      ⟨"\x00", by decide +kernel⟩
    exact oldOutput_outputless (eq_ok_of_toOption (by decide +kernel)) rfl isPlainName_log hresult
      hplace'
      (eq_ok_of_toOption (by decide +kernel)) hlinks' hone (sheltered_making hplace' _)
      (by decide +kernel)
  · exact ⟨⟨.exited 0, ""⟩, eq_ok_of_toOption (by decide +kernel), rfl⟩
  · exact ⟨⟨.neither, none⟩, eq_ok_of_toOption (by decide +kernel), rfl⟩

end GoldenSuite.Suite
