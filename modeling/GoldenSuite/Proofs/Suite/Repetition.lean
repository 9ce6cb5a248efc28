import GoldenSuite.Proofs.Case.Listing
import GoldenSuite.Proofs.FileTree.Laid
import GoldenSuite.Proofs.Suite.Independence

/-!
# Running a suite again

With a toolchain that follows a script, a second run on the files that the first one left finds
the same cases, says the same about them and leaves the files alone: a case that was executed
has its files in place, so executing it again writes what is there. What the second build does
to other files is its own.
-/

namespace GoldenSuite.Suite

open FileTree

variable {σ ρ : Type} {toolchain : Toolchain σ} {c : Config}
  {answers : String → Except (Halt Diagnostic) Child.Outcome}
  {files : String → List (Location × Bytes)} {ws w : Workspace} {root : Location}
  {name other : String}

/-! ### Toolchains that follow a script -/

/-- An execution of a case finds the directory of the case and room for its files. -/
structure Ready (c : Config) (files : List (Location × Bytes)) (ws : Workspace) (root : Location)
    (name : String) : Prop where
  find_root : ws.find true c.testsRoot = .ok (root, .directory)
  unlinked : ws.Unlinked c.testsRoot
  isName : IsName name
  directory : ws.tree.IsDirectory (root ++ [name])
  room : ws.tree.Room (root ++ name :: proper c.caseOutputDir.names) files

/-- A build has always the same answer, and so has the execution of a case, which writes always
the same files below the output place of the case. -/
structure Scripted (toolchain : Toolchain σ) (c : Config)
    (answers : String → Except (Halt Diagnostic) Child.Outcome)
    (files : String → List (Location × Bytes)) : Prop where
  build_eq : ∀ ws ws' tools tools',
    (toolchain.build c ws tools).answer = (toolchain.build c ws' tools').answer
  answer_eq : ∀ ws tools name,
    (toolchain.execute c (.named c name) ws tools).answer = answers name
  here_eq : ∀ ws tools name, (toolchain.execute c (.named c name) ws tools).workspace.here = ws.here
  laid_eq : ∀ ws tools root name, Ready c (files name) ws root name → ∀ loc,
    (toolchain.execute c (.named c name) ws tools).workspace.tree.get? loc =
      laid (root ++ name :: proper c.caseOutputDir.names) (files name) loc (ws.tree.get? loc)
  /-- What is listed outside the directory of the case is listed as before. -/
  children_eq : ∀ ws tools root name, Ready c (files name) ws root name → ∀ loc,
    ¬ root ++ [name] <+: loc →
    (toolchain.execute c (.named c name) ws tools).workspace.tree.children loc =
      ws.tree.children loc

/-! ### One execution -/

theorem laid_outside (hdir : ws.tree.IsDirectory root) {place : List String}
    {files : List (Location × Bytes)} {loc : Location} (hout : ¬ root ++ [name] <+: loc) :
    laid (root ++ name :: place) files loc (ws.tree.get? loc) = ws.tree.get? loc := by
  have hunder : ∀ file ∈ files, root ++ [name] <+: root ++ name :: place ++ file.1 := by
    intro file _
    rw [List.append_assoc, List.prefix_append_right_inj]
    exact ⟨place ++ file.1, rfl⟩
  have hne : ∀ file ∈ files, root ++ name :: place ++ file.1 ≠ loc := by
    rintro file hmem rfl
    exact hout (hunder file hmem)
  by_cases hway : ∃ file ∈ files, loc <+: root ++ name :: place ++ file.1
  · -- On the way to a file there are directories already, down to the one of all cases.
    obtain ⟨file, hmem, hon⟩ := hway
    have habove : loc <+: root := by
      rcases List.prefix_or_prefix_of_prefix hon (hunder file hmem) with hup | hdown
      · rcases List.prefix_concat_iff.mp hup with heq | hup
        · exact absurd (heq ▸ List.prefix_rfl) hout
        · exact hup
      · exact absurd hdown hout
    have hthere : ws.tree.get? loc = some .directory := isDirectory_of_isPrefix hdir habove
    rcases laid_of_ne (ws.tree.get? loc) hne with hlaid | hlaid
    · rw [hlaid, hthere]
    · exact hlaid
  · exact laid_of_apart fun file hmem hon => hway ⟨file, hmem, hon⟩

/-- From one state to another nothing changed but inside the directories of these cases, and the
directory of all cases is found where it was. -/
structure Aside (c : Config) (root : Location) (names : List String) (ws left : Workspace) :
    Prop where
  here_eq : left.here = ws.here
  kept : ws.tree.Kept left.tree
  find_root : left.find true c.testsRoot = .ok (root, .directory)
  unlinked : left.Unlinked c.testsRoot
  get?_eq : ∀ loc, (∀ name ∈ names, ¬ root ++ [name] <+: loc) →
    left.tree.get? loc = ws.tree.get? loc
  children_eq : ∀ loc, (∀ name ∈ names, ¬ root ++ [name] <+: loc) →
    left.tree.children loc = ws.tree.children loc

theorem Aside.refl (hroot : ws.find true c.testsRoot = .ok (root, .directory))
    (hlinks : ws.Unlinked c.testsRoot) (names : List String) : Aside c root names ws ws :=
  ⟨rfl, Kept.refl ws.tree, hroot, hlinks, fun _ _ => rfl, fun _ _ => rfl⟩

theorem Aside.cons {names : List String} {mid left : Workspace}
    (hfirst : Aside c root [name] ws mid) (hothers : Aside c root names mid left) :
    Aside c root (name :: names) ws left where
  here_eq := hothers.here_eq.trans hfirst.here_eq
  kept := hfirst.kept.trans hothers.kept
  find_root := hothers.find_root
  unlinked := hothers.unlinked
  get?_eq := by
    intro loc hout
    rw [List.forall_mem_cons] at hout
    rw [hothers.get?_eq loc hout.2, hfirst.get?_eq loc (by simpa using hout.1)]
  children_eq := by
    intro loc hout
    rw [List.forall_mem_cons] at hout
    rw [hothers.children_eq loc hout.2, hfirst.children_eq loc (by simpa using hout.1)]

section
variable (h : Scripted toolchain c answers files) (hready : Ready c (files name) ws root name)
  (tools : σ)
include h hready

theorem Scripted.find_root :
    (toolchain.execute c (.named c name) ws tools).workspace.find true c.testsRoot =
      .ok (root, .directory) := by
  have hkept := kept_of_laid hready.room (h.laid_eq ws tools root name hready)
  have hdir : ws.tree.IsDirectory root := Workspace.get?_of_find hready.find_root
  obtain ⟨⟨husable, hfollow⟩, -⟩ := Workspace.find_eq_ok_iff.mp hready.find_root
  obtain ⟨n, hroute⟩ := route_of_follow hfollow
  refine Workspace.find_eq_ok_iff.mpr ⟨⟨husable, ?_⟩, hkept _ _ hdir (by simp)⟩
  rw [h.here_eq]
  exact (hroute.of_kept hkept hdir).follow_eq

theorem Scripted.aside :
    Aside c root [name] ws (toolchain.execute c (.named c name) ws tools).workspace where
  here_eq := h.here_eq ws tools name
  kept := kept_of_laid hready.room (h.laid_eq ws tools root name hready)
  find_root := h.find_root hready tools
  unlinked := by
    intro inner target hlink
    rw [Workspace.seen_eq (h.find_root hready tools)] at hlink
    have hbefore := hready.unlinked inner target
    rw [Workspace.seen_eq hready.find_root] at hbefore
    dsimp only at hlink hbefore
    rw [h.laid_eq ws tools root name hready] at hlink
    -- What is laid out are files and directories.
    unfold laid at hlink
    split at hlink
    · cases hlink
    · split at hlink
      · cases hlink
      · exact hbefore hlink
  get?_eq := by
    intro loc hout
    rw [h.laid_eq ws tools root name hready]
    exact laid_outside (Workspace.get?_of_find hready.find_root) (by simpa using hout)
  children_eq := fun loc hout =>
    h.children_eq ws tools root name hready loc (by simpa using hout)

theorem Scripted.written :
    (toolchain.execute c (.named c name) ws tools).workspace.tree.Written
      (root ++ name :: proper c.caseOutputDir.names) (files name) :=
  written_of_laid (h.laid_eq ws tools root name hready)

theorem Scripted.ready_other (hother : Ready c (files other) ws root other) (hne : other ≠ name) :
    Ready c (files other) (toolchain.execute c (.named c name) ws tools).workspace root other := by
  have haside := h.aside hready tools
  -- The directories of two cases have nothing in common, so what is written leaves the other one.
  have hapart : ∀ loc, root ++ [other] <+: loc → ¬ root ++ [name] <+: loc := by
    intro loc hloc hloc'
    have hcompare := List.prefix_or_prefix_of_prefix hloc hloc'
    rw [List.prefix_append_right_inj, List.prefix_append_right_inj, List.cons_prefix_cons,
      List.cons_prefix_cons] at hcompare
    rcases hcompare with heq | heq
    · exact hne heq.1
    · exact hne heq.1.symm
  have hsame : ∀ loc, root ++ [other] <+: loc →
      (toolchain.execute c (.named c name) ws tools).workspace.tree.get? loc =
        ws.tree.get? loc :=
    fun loc hloc => haside.get?_eq loc (by simpa using hapart loc hloc)
  refine ⟨haside.find_root, haside.unlinked, hother.isName, ?_, ?_, ?_⟩
  · rw [IsDirectory, hsame _ List.prefix_rfl]
    exact hother.directory
  · intro file hmem e he
    rw [hsame] at he
    · exact hother.room.target file hmem e he
    · rw [List.append_assoc, List.prefix_append_right_inj]
      exact ⟨proper c.caseOutputDir.names ++ file.1, rfl⟩
  · intro file hmem loc e hway hend he
    rw [h.laid_eq ws tools root name hready] at he
    by_cases hlocs : ∀ mine ∈ files name,
        root ++ name :: proper c.caseOutputDir.names ++ mine.1 ≠ loc
    · -- Only a directory can have come onto the way.
      rcases laid_of_ne (ws.tree.get? loc) hlocs with hlaid | hlaid
      · rw [hlaid] at he
        exact (Option.some.inj he).symm
      · rw [hlaid] at he
        exact hother.room.way file hmem loc e hway hend he
    · exfalso
      push Not at hlocs
      obtain ⟨mine, -, rfl⟩ := hlocs
      refine hapart (root ++ other :: proper c.caseOutputDir.names ++ file.1) ?_ ?_
      · rw [List.append_assoc, List.prefix_append_right_inj]
        exact ⟨proper c.caseOutputDir.names ++ file.1, rfl⟩
      · refine List.IsPrefix.trans ?_ hway
        rw [List.append_assoc, List.prefix_append_right_inj]
        exact ⟨proper c.caseOutputDir.names ++ mine.1, rfl⟩

omit hready

/-- Where the directory of a case is as its execution left it, the case is ready once more, and
executing it again changes nothing. -/
theorem Scripted.again (hready : Ready c (files name) ws root name)
    (hroot : w.find true c.testsRoot = .ok (root, .directory)) (hlinks : w.Unlinked c.testsRoot)
    (hsame : ∀ inner, w.tree.get? (root ++ name :: inner) =
      (toolchain.execute c (.named c name) ws tools).workspace.tree.get? (root ++ name :: inner))
    (tools' : σ) :
    Ready c (files name) w root name ∧ ∀ loc,
      (toolchain.execute c (.named c name) w tools').workspace.tree.get? loc = w.tree.get? loc := by
  have hwritten : w.tree.Written (root ++ name :: proper c.caseOutputDir.names) (files name) := by
    intro loc
    by_cases hin : root ++ [name] <+: loc
    · obtain ⟨inner, rfl⟩ := hin
      rw [List.append_assoc, List.singleton_append, hsame]
      exact h.written hready tools (root ++ name :: inner)
    · exact laid_outside (Workspace.get?_of_find hroot) hin
  have hagain : Ready c (files name) w root name := by
    refine ⟨hroot, hlinks, hready.isName, ?_, hwritten.room⟩
    have hkept := kept_of_laid hready.room (h.laid_eq ws tools root name hready)
    rw [IsDirectory, hsame []]
    exact hkept _ _ hready.directory (by simp)
  refine ⟨hagain, fun loc => ?_⟩
  rw [h.laid_eq w tools' root name hagain, hwritten]

end

/-! ### What trials leave -/

/-- The files that the last of some trials leaves. -/
def ending (ws : Workspace) (ts : List (Trial σ)) : Workspace :=
  ts.foldl (fun _ t => t.reply.workspace) ws

theorem reached_cons_ok {t : Trial σ} {verdict : Verdict} (hj : t.judgement c = .ok verdict)
    (others : List (Trial σ)) : reached c (t :: others) = t :: reached c others := by
  simp only [reached, hj]

theorem reached_cons_error {t : Trial σ} {d : Halt Diagnostic} (hj : t.judgement c = .error d)
    (others : List (Trial σ)) : reached c (t :: others) = [t] := by
  simp only [reached, hj]

theorem trials_named_cons (name : String) (names : List String) (ws : Workspace) (tools : σ) :
    trials toolchain c ((name :: names).map (.named c)) ws tools =
      trialOn toolchain c ws tools (.named c name) ::
        trials toolchain c (names.map (.named c))
          (toolchain.execute c (.named c name) ws tools).workspace
          (toolchain.execute c (.named c name) ws tools).state := rfl

theorem mem_reached_cons (t : Trial σ) (others : List (Trial σ)) :
    t ∈ reached c (t :: others) := by
  unfold reached
  split <;> simp

theorem map_entry_trials {names : List String} (hnames : ∀ name ∈ names, IsName name)
    (toolchain : Toolchain σ) (ws : Workspace) (tools : σ) :
    (trials toolchain c (names.map (.named c)) ws tools).map (·.case.entry) = names := by
  have hcases := congrArg (List.map TestCase.entry)
    (map_case_trials toolchain c (names.map (.named c)) ws tools)
  have hsame : ∀ name ∈ names, (TestCase.entry ∘ TestCase.named c) name = id name :=
    fun name hmem => TestCase.entry_named (hnames name hmem)
  rw [List.map_map, List.map_map, List.map_congr_left hsame, List.map_id] at hcases
  exact hcases

theorem entry_mem_of_reached {names : List String} (hnames : ∀ name ∈ names, IsName name)
    {tools : σ} {t : Trial σ}
    (h : t ∈ reached c (trials toolchain c (names.map (.named c)) ws tools)) :
    t.case.entry ∈ names := by
  have hmem := List.mem_map_of_mem (f := fun t : Trial σ => t.case.entry) (mem_of_mem_reached h)
  rwa [map_entry_trials hnames] at hmem

/-- The first of some cases is reached, and so it is ready when all are that are reached. -/
theorem ready_first {names : List String} {tools : σ} (hname : IsName name)
    (hready : ∀ t ∈ reached c (trials toolchain c ((name :: names).map (.named c)) ws tools),
      Ready c (files t.case.entry) ws root t.case.entry) :
    Ready c (files name) ws root name := by
  have hfirst := hready (trialOn toolchain c ws tools (.named c name)) (by
    rw [trials_named_cons]
    exact mem_reached_cons _ _)
  have hentry : (trialOn toolchain c ws tools (.named c name)).case.entry = name :=
    TestCase.entry_named hname
  rwa [hentry] at hfirst

theorem workspace_foldl_calls (toolchain : Toolchain σ) (reporter : Reporter ρ) (c : Config)
    (cases : List TestCase) (p : Parties σ ρ) :
    let ts := reached c (trials toolchain c cases p.workspace p.tools)
    ((ts.flatMap (Trial.calls c)).foldl (Call.act toolchain reporter c) p).workspace =
      ending p.workspace ts := by
  induction cases generalizing p with
  | nil => rfl
  | cons case others ih =>
    intro ts
    obtain ⟨hworkspace, htools⟩ := foldl_act_calls toolchain reporter c case p
    simp only [ts, trials_cons]
    cases hj : Trial.judgement c ⟨case, toolchain.execute c case p.workspace p.tools⟩ with
    | error d =>
      rw [reached_cons_error hj, List.flatMap_cons, List.flatMap_nil, List.append_nil, hworkspace]
      rfl
    | ok verdict =>
      have hrest := ih ((Trial.calls c ⟨case, toolchain.execute c case p.workspace p.tools⟩).foldl
        (Call.act toolchain reporter c) p)
      rw [hworkspace, htools] at hrest
      rw [reached_cons_ok hj, List.flatMap_cons, List.foldl_append, hrest]
      rfl

section
variable (h : Scripted toolchain c answers files) {names : List String} {tools : σ}
  {ws : Workspace}
include h

theorem Scripted.ready_rest (hnodup : (name :: names).Nodup)
    (hnames : ∀ mine ∈ name :: names, IsName mine) {verdict : Verdict}
    (hj : (trialOn toolchain c ws tools (.named c name)).judgement c = .ok verdict)
    (hready : ∀ t ∈ reached c (trials toolchain c ((name :: names).map (.named c)) ws tools),
      Ready c (files t.case.entry) ws root t.case.entry) :
    let reply := toolchain.execute c (.named c name) ws tools
    ∀ t ∈ reached c (trials toolchain c (names.map (.named c)) reply.workspace reply.state),
      Ready c (files t.case.entry) reply.workspace root t.case.entry := by
  intro reply t ht
  rw [List.forall_mem_cons] at hnames
  have hfirst := ready_first hnames.1 hready
  have hlater := hready t (by
    rw [trials_named_cons, reached_cons_ok hj]
    exact List.mem_cons_of_mem _ ht)
  refine h.ready_other hfirst tools hlater fun heq => ?_
  exact (List.nodup_cons.mp hnodup).1 (heq ▸ entry_mem_of_reached hnames.2 ht)

theorem Scripted.aside_ending (hnodup : names.Nodup) (hnames : ∀ name ∈ names, IsName name)
    (hready : ∀ t ∈ reached c (trials toolchain c (names.map (.named c)) ws tools),
      Ready c (files t.case.entry) ws root t.case.entry)
    (hroot : ws.find true c.testsRoot = .ok (root, .directory))
    (hlinks : ws.Unlinked c.testsRoot) :
    Aside c root names ws
      (ending ws (reached c (trials toolchain c (names.map (.named c)) ws tools))) := by
  induction names generalizing ws tools with
  | nil => exact Aside.refl hroot hlinks []
  | cons name others ih =>
    have hrestNames := (List.forall_mem_cons.mp hnames).2
    have hfirst := ready_first (List.forall_mem_cons.mp hnames).1 hready
    have haside := h.aside hfirst tools
    cases hj : (trialOn toolchain c ws tools (.named c name)).judgement c with
    | error d =>
      rw [trials_named_cons, reached_cons_error hj]
      exact haside.cons (Aside.refl haside.find_root haside.unlinked others)
    | ok verdict =>
      have hrest := ih (List.nodup_cons.mp hnodup).2 hrestNames
        (h.ready_rest hnodup hnames hj hready)
        haside.find_root haside.unlinked
      rw [trials_named_cons, reached_cons_ok hj]
      exact haside.cons hrest

theorem Scripted.trial_again (hv : c.validate = .ok ()) (hlog : IsPlainName c.logArtifact)
    (hresult : IsPlainName c.resultArtifact) (hready : Ready c (files name) ws root name)
    (hroot : w.find true c.testsRoot = .ok (root, .directory)) (hlinks : w.Unlinked c.testsRoot)
    (hsame : ∀ inner, w.tree.get? (root ++ name :: inner) =
      (toolchain.execute c (.named c name) ws tools).workspace.tree.get? (root ++ name :: inner))
    (tools' : σ) :
    let t := trialOn toolchain c ws tools (.named c name)
    let t' := trialOn toolchain c w tools' (.named c name)
    (t'.judgement c = t.judgement c ∧ t'.calls c = t.calls c) ∧
      Aside c root [name] w t'.reply.workspace ∧
      ∀ loc, t'.reply.workspace.tree.get? loc = w.tree.get? loc := by
  intro t t'
  obtain ⟨hagain, hstays⟩ := h.again tools hready hroot hlinks hsame tools'
  have haside := h.aside hready tools
  have haside' := h.aside hagain tools'
  have hanswer : t'.reply.answer = t.reply.answer :=
    (h.answer_eq w tools' name).trans (h.answer_eq ws tools name).symm
  have hlook : Workspace.SameIn c.testsRoot name t'.reply.workspace t.reply.workspace := by
    intro inner
    simp only [t, t', trialOn]
    rw [Workspace.seen_eq haside'.find_root, Workspace.seen_eq haside.find_root]
    exact (hstays _).trans (hsame inner)
  have hcompare : (Comparator.ofConfig c).compareCase t'.reply.workspace (.named c name) =
      (Comparator.ofConfig c).compareCase t.reply.workspace (.named c name) :=
    compareCase_eq_of_sameIn hv hlog hresult hready.isName haside'.find_root haside.find_root
      haside'.unlinked haside.unlinked hlook
  have hjudged : t'.judgement c = t.judgement c := by
    simp only [t, t', Trial.judgement, trialOn] at hanswer hcompare ⊢
    rw [hanswer, hcompare]
  exact ⟨⟨hjudged, Trial.calls_congr rfl hanswer hjudged⟩, haside', hstays⟩

/-- On files where the directories of all cases are as they were left, each case has the judgement
and the calls that it had, and nothing changes: by induction on the cases, since what one of them
left is neither touched by the others nor by executing it again. -/
theorem Scripted.trials_again (hv : c.validate = .ok ()) (hlog : IsPlainName c.logArtifact)
    (hresult : IsPlainName c.resultArtifact) (hnodup : names.Nodup)
    (hnames : ∀ name ∈ names, IsName name)
    (hready : ∀ t ∈ reached c (trials toolchain c (names.map (.named c)) ws tools),
      Ready c (files t.case.entry) ws root t.case.entry)
    (hroot : w.find true c.testsRoot = .ok (root, .directory)) (hlinks : w.Unlinked c.testsRoot)
    (hsame : ∀ inner, w.tree.get? (root ++ inner) =
      (ending ws (reached c (trials toolchain c (names.map (.named c)) ws tools))).tree.get?
        (root ++ inner)) (tools' : σ) :
    let ts := trials toolchain c (names.map (.named c)) ws tools
    let ts' := trials toolchain c (names.map (.named c)) w tools'
    reports c ts' = reports c ts ∧
      (reached c ts').flatMap (Trial.calls c) = (reached c ts).flatMap (Trial.calls c) ∧
      (ending w (reached c ts')).here = w.here ∧
      ∀ loc, (ending w (reached c ts')).tree.get? loc = w.tree.get? loc := by
  induction names generalizing ws tools w tools' with
  | nil => exact ⟨rfl, rfl, rfl, fun _ => rfl⟩
  | cons name others ih =>
    intro ts ts'
    simp only [ts, ts', trials_named_cons]
    rw [trials_named_cons] at hsame
    have hrestNames := (List.forall_mem_cons.mp hnames).2
    have hfirst := ready_first (List.forall_mem_cons.mp hnames).1 hready
    obtain ⟨hname, hothers⟩ := List.nodup_cons.mp hnodup
    have haside := h.aside hfirst tools
    cases hj : (trialOn toolchain c ws tools (.named c name)).judgement c with
    | error d =>
      -- No case is reached after this one, in neither run.
      rw [reached_cons_error hj] at hsame ⊢
      obtain ⟨⟨hjudged, hcalls⟩, haside', hstays⟩ := h.trial_again hv hlog hresult hfirst hroot
        hlinks (fun inner => hsame (name :: inner)) tools'
      rw [hj] at hjudged
      rw [reached_cons_error hjudged]
      simp only [reports, hj, hjudged, List.flatMap_cons, List.flatMap_nil, hcalls, true_and]
      exact ⟨haside'.here_eq, hstays⟩
    | ok verdict =>
      have hready' := h.ready_rest hnodup hnames hj hready
      rw [reached_cons_ok hj] at hsame ⊢
      -- The cases that are reached later leave the directory of this one.
      have hlast := h.aside_ending hothers hrestNames hready' haside.find_root haside.unlinked
      obtain ⟨⟨hjudged, hcalls⟩, haside', hstays⟩ := h.trial_again hv hlog hresult hfirst hroot
        hlinks (fun inner => (hsame (name :: inner)).trans (hlast.get?_eq _ (by
          intro other hother hunder
          rw [List.prefix_append_right_inj, List.cons_prefix_cons] at hunder
          exact hname (hunder.1 ▸ hother)))) tools'
      rw [hj] at hjudged
      obtain ⟨hreports, hreached, hhere, htree⟩ := ih hothers hrestNames hready' haside'.find_root
        haside'.unlinked (fun inner => (hstays _).trans (hsame inner))
        (trialOn toolchain c w tools' (.named c name)).reply.state
      rw [reached_cons_ok hjudged]
      refine ⟨?_, ?_, hhere.trans haside'.here_eq, fun loc => (htree loc).trans (hstays loc)⟩
      · simp only [reports, hj, hjudged]
        rw [show reports c (trials toolchain c (others.map (.named c))
          (toolchain.execute c (.named c name) w tools').workspace
          (toolchain.execute c (.named c name) w tools').state) = _ from hreports]
        rfl
      · rw [List.flatMap_cons, List.flatMap_cons, hcalls]
        exact congrArg _ hreached

end

/-! ### Two runs -/

theorem run_of_discovered (reporter : Reporter ρ) {report : BuildReport} {cases : List TestCase}
    (hv : c.validate = .ok ()) (s : State σ ρ)
    (hb : (toolchain.build c s.workspace s.tools).answer = .ok report)
    (hd : Discovery.cases c (toolchain.build c s.workspace s.tools).workspace = .ok cases) :
    let built := toolchain.build c s.workspace s.tools
    let ts := trials toolchain c cases built.workspace built.state
    let done := Step.perform (run toolchain reporter c) s
    done.1 = (reports c ts).map (Summary.mk report) ∧
      Made toolchain reporter c (.build :: (reached c ts).flatMap (Trial.calls c) ++
        match reports c ts with
        | .ok rs => [.runFinished ⟨report, rs⟩]
        | .error _ => []) s done.2 ∧
      done.2.workspace = ending built.workspace (reached c ts) := by
  intro built ts done
  have hrun := perform_run_of_discovered reporter hv s hb hd
  have hfiles : ∀ p : Parties σ ρ, p.workspace = built.workspace → p.tools = built.state →
      (((reached c ts).flatMap (Trial.calls c)).foldl (Call.act toolchain reporter c) p).workspace =
        ending built.workspace (reached c ts) := by
    intro p hworkspace htools
    have hcalls := workspace_foldl_calls toolchain reporter c cases p
    rwa [hworkspace, htools] at hcalls
  dsimp only at hrun
  cases hr : reports c ts with
  | error d =>
    rw [hr] at hrun
    refine ⟨hrun.1, by simpa using hrun.2, ?_⟩
    have hparties := congrArg Parties.workspace hrun.2.parties
    exact hparties.trans (hfiles _ rfl rfl)
  | ok rs =>
    rw [hr] at hrun
    rw [reached_of_reports_ok hr] at hfiles ⊢
    refine ⟨hrun.1, hrun.2, ?_⟩
    have hparties := congrArg Parties.workspace hrun.2.parties
    rw [List.foldl_append] at hparties
    exact hparties.trans (hfiles _ rfl rfl)

theorem workspace_of_unbuilt (reporter : Reporter ρ) {s left : State σ ρ}
    (h : Made toolchain reporter c [.build] s left) :
    left.workspace = (toolchain.build c s.workspace s.tools).workspace :=
  congrArg Parties.workspace h.parties

theorem ready_of_discovered {root : Location}
    (hroot : ws.find true c.testsRoot = .ok (root, .directory)) (hlinks : ws.Unlinked c.testsRoot)
    {names : List String}
    (hnames : ∀ name ∈ names, IsName name ∧ ws.tree.IsDirectory (root ++ [name]))
    {ts : List (Trial σ)}
    (hts : ∀ t ∈ ts, t.case.entry ∈ names)
    (hroom : ∀ t ∈ ts, ws.tree.Room (root ++ t.case.entry :: proper c.caseOutputDir.names)
      (files t.case.entry)) :
    ∀ t ∈ ts, Ready c (files t.case.entry) ws root t.case.entry := fun t ht =>
  ⟨hroot, hlinks, (hnames _ (hts t ht)).1, (hnames _ (hts t ht)).2, hroom t ht⟩

section
variable (h : Scripted toolchain c answers files) (hv : c.validate = .ok ())
  (reporter : Reporter ρ) (s : State σ ρ)
  (hlinks : (toolchain.build c s.workspace s.tools).workspace.Unlinked c.testsRoot)
  (hroom : let built := toolchain.build c s.workspace s.tools
    ∀ cases root, Discovery.cases c built.workspace = .ok cases →
      built.workspace.find true c.testsRoot = .ok (root, .directory) →
      ∀ t ∈ reached c (trials toolchain c cases built.workspace built.state),
        built.workspace.tree.Room (root ++ t.case.entry :: proper c.caseOutputDir.names)
          (files t.case.entry))
include h hv hlinks hroom

theorem Scripted.found_again :
    let built := (toolchain.build c s.workspace s.tools).workspace
    let left := (Step.perform (run toolchain reporter c) s).2.workspace
    left.list c.testsRoot = built.list c.testsRoot ∧ left.Unlinked c.testsRoot ∧
      ∀ name, left.seen c.testsRoot [name] = built.seen c.testsRoot [name] := by
  intro built left
  -- Without any case the files are left as they were built.
  have hbuilt : left = built → left.list c.testsRoot = built.list c.testsRoot ∧
      left.Unlinked c.testsRoot ∧
      ∀ name, left.seen c.testsRoot [name] = built.seen c.testsRoot [name] :=
    fun heq => by
      rw [heq]
      exact ⟨rfl, hlinks, fun _ => rfl⟩
  cases hb : (toolchain.build c s.workspace s.tools).answer with
  | error d =>
    exact hbuilt (workspace_of_unbuilt reporter (perform_run_of_unbuilt reporter hv s hb).2)
  | ok report =>
    cases hd : Discovery.cases c built with
    | error e =>
      exact hbuilt (workspace_of_unbuilt reporter
        (perform_run_of_undiscovered reporter hv s hb hd).2)
    | ok cases =>
      obtain ⟨-, -, hleft⟩ := run_of_discovered reporter hv s hb hd
      obtain ⟨root, hroot, names, rfl, hnodup, hnames⟩ := Discovery.exists_entries hlinks hd
      have hproper : ∀ name ∈ names, IsName name := fun name hmem => (hnames name hmem).1
      have haside := h.aside_ending hnodup hproper (ready_of_discovered hroot hlinks hnames
        (fun t ht => entry_mem_of_reached hproper ht) (hroom _ root hd hroot)) hroot hlinks
      rw [← hleft] at haside
      refine ⟨?_, haside.unlinked, fun name => ?_⟩
      · rw [Workspace.list_eq_ok_iff.mpr ⟨haside.find_root, rfl⟩,
          Workspace.list_eq_ok_iff.mpr ⟨hroot, rfl⟩, haside.children_eq]
        intro name _ hunder
        have hlength := hunder.length_le
        rw [List.length_append, List.length_singleton] at hlength
        omega
      · rw [Workspace.seen_eq haside.find_root, Workspace.seen_eq hroot]
        dsimp only
        by_cases hname : name ∈ names
        · have hdir := (hnames name hname).2
          rw [hdir]
          exact haside.kept _ _ hdir (by simp)
        · refine haside.get?_eq _ fun other hother hunder => hname ?_
          rw [List.prefix_append_right_inj, List.cons_prefix_cons] at hunder
          exact hunder.1 ▸ hother

/-- A second run on the files that the first one left discovers the same cases, makes the same
calls and answers the same, whether the runs come to a summary or stop. It leaves the files as
its build has left them, and what is below the directory of all cases as the first run has. -/
theorem run_repeats (hlog : IsPlainName c.logArtifact) (hresult : IsPlainName c.resultArtifact)
    (again : State σ ρ)
    (hagain : again.workspace = (Step.perform (run toolchain reporter c) s).2.workspace)
    (hlist : (toolchain.build c again.workspace again.tools).workspace.list c.testsRoot =
      again.workspace.list c.testsRoot)
    (hseen : ∀ inner, (toolchain.build c again.workspace again.tools).workspace.seen c.testsRoot
      inner = again.workspace.seen c.testsRoot inner) :
    let built := (toolchain.build c s.workspace s.tools).workspace
    let rebuilt := (toolchain.build c again.workspace again.tools).workspace
    let first := Step.perform (run toolchain reporter c) s
    let second := Step.perform (run toolchain reporter c) again
    Discovery.cases c rebuilt = Discovery.cases c built ∧
      second.1 = first.1 ∧
      (∃ calls, Made toolchain reporter c calls s first.2 ∧
        Made toolchain reporter c calls again second.2) ∧
      (second.2.workspace.here = rebuilt.here ∧
        ∀ loc, second.2.workspace.tree.get? loc = rebuilt.tree.get? loc) ∧
      ∀ inner, second.2.workspace.seen c.testsRoot inner =
        first.2.workspace.seen c.testsRoot inner := by
  intro built rebuilt first second
  obtain ⟨hlist₁, hlinks₁, hseen₁⟩ := h.found_again hv reporter s hlinks hroom
  rw [← hagain] at hlist₁ hlinks₁ hseen₁
  have hlinks₂ : rebuilt.Unlinked c.testsRoot := fun inner target hlink =>
    hlinks₁ inner target ((hseen inner).symm.trans hlink)
  have hcases : Discovery.cases c rebuilt = Discovery.cases c built :=
    Discovery.cases_congr (hlist.trans hlist₁) hlinks₂ hlinks
      fun name => (hseen [name]).trans (hseen₁ name)
  have hanswer := h.build_eq again.workspace s.workspace again.tools s.tools
  -- Once the second run leaves what was built, the rest follows.
  have hsettled : second.2.workspace.here = rebuilt.here →
      (∀ loc, second.2.workspace.tree.get? loc = rebuilt.tree.get? loc) →
      ∀ inner, second.2.workspace.seen c.testsRoot inner =
        first.2.workspace.seen c.testsRoot inner := by
    intro hhere htree inner
    rw [← hagain, ← hseen inner]
    exact Workspace.seen_congr hhere htree c.testsRoot inner
  -- Without trials the second run leaves what was built.
  have hidle : second.2.workspace = rebuilt →
      (second.2.workspace.here = rebuilt.here ∧
        ∀ loc, second.2.workspace.tree.get? loc = rebuilt.tree.get? loc) ∧
      ∀ inner, second.2.workspace.seen c.testsRoot inner =
        first.2.workspace.seen c.testsRoot inner := by
    intro hleft
    have htree : ∀ loc, second.2.workspace.tree.get? loc = rebuilt.tree.get? loc := fun loc => by
      rw [hleft]
    have hhere : second.2.workspace.here = rebuilt.here := by rw [hleft]
    exact ⟨⟨hhere, htree⟩, hsettled hhere htree⟩
  refine ⟨hcases, ?_⟩
  cases hb : (toolchain.build c s.workspace s.tools).answer with
  | error d =>
    obtain ⟨hfirst, hmade⟩ := perform_run_of_unbuilt reporter hv s hb
    obtain ⟨hsecond, hmade'⟩ := perform_run_of_unbuilt reporter hv again (hanswer.trans hb)
    exact ⟨hsecond.trans hfirst.symm, ⟨_, hmade, hmade'⟩,
      hidle (workspace_of_unbuilt reporter hmade')⟩
  | ok report =>
    cases hd : Discovery.cases c built with
    | error e =>
      obtain ⟨hfirst, hmade⟩ := perform_run_of_undiscovered reporter hv s hb hd
      obtain ⟨hsecond, hmade'⟩ := perform_run_of_undiscovered reporter hv again
        (hanswer.trans hb) (hcases.trans hd)
      exact ⟨hsecond.trans hfirst.symm, ⟨_, hmade, hmade'⟩,
        hidle (workspace_of_unbuilt reporter hmade')⟩
    | ok cases =>
      obtain ⟨hfirst, hmade, hleft⟩ := run_of_discovered reporter hv s hb hd
      obtain ⟨hsecond, hmade', hleft'⟩ := run_of_discovered reporter hv again (hanswer.trans hb)
        (hcases.trans hd)
      obtain ⟨root, hroot, names, rfl, hnodup, hnames⟩ := Discovery.exists_entries hlinks hd
      have hproper : ∀ name ∈ names, IsName name := fun name hmem => (hnames name hmem).1
      have hready := ready_of_discovered hroot hlinks hnames
        (fun t ht => entry_mem_of_reached hproper ht) (hroom _ root hd hroot)
      have haside := h.aside_ending hnodup hproper hready hroot hlinks
      have hroot₂ : rebuilt.find true c.testsRoot = .ok (root, .directory) := by
        have hfound := Workspace.list_eq_ok_iff.mpr ⟨hroot, rfl⟩
        exact (Workspace.list_eq_ok_iff.mp ((hlist.trans hlist₁).trans hfound)).1
      have hsame : ∀ inner, rebuilt.tree.get? (root ++ inner) =
          (ending built (reached c (trials toolchain c (names.map (.named c)) built
            (toolchain.build c s.workspace s.tools).state))).tree.get? (root ++ inner) := by
        intro inner
        have hinner : rebuilt.seen c.testsRoot inner = _ := hseen inner
        rwa [hagain, hleft, Workspace.seen_eq hroot₂, Workspace.seen_eq haside.find_root] at hinner
      obtain ⟨hreports, hcalls, hhere, htree⟩ := h.trials_again hv hlog hresult hnodup hproper
        hready hroot₂ hlinks₂ hsame (toolchain.build c again.workspace again.tools).state
      rw [← hleft'] at hhere htree
      refine ⟨?_, ⟨_, hmade, ?_⟩, ⟨hhere, htree⟩, hsettled hhere htree⟩
      · rw [hsecond, hfirst, hreports]
      · rw [← hreports, ← hcalls]
        exact hmade'

end

/-! ### A toolchain that writes one result -/

/-- Builds as it is told, and has every case end with exit code zero and this result. -/
def resultWriter (build : FileTree → FileTree) (contents : Bytes) : Toolchain Unit where
  build c ws tools := ⟨.ok ⟨0, c.buildRoot⟩, ws.withTree (build ws.tree), tools, []⟩
  execute c case ws tools :=
    let left := match ws.find true c.testsRoot with
      | .ok (root, .directory) => ws.withTree (put
          (ws.tree.add (root ++ [case.entry]) "out" .directory)
          (root ++ [case.entry, "out"]) "result.txt" contents)
      | _ => ws
    ⟨.ok ⟨.exited 0, ""⟩, left, tools, []⟩

theorem scripted_resultWriter (build : FileTree → FileTree) (contents : Bytes) {c : Config}
    (hout : proper c.caseOutputDir.names = ["out"]) :
    Scripted (resultWriter build contents) c (fun _ => .ok ⟨.exited 0, ""⟩)
      (fun _ => [(["result.txt"], contents)]) where
  build_eq := fun _ _ _ _ => rfl
  answer_eq := fun _ _ _ => rfl
  here_eq := by
    intro ws tools name
    simp only [resultWriter]
    split <;> rfl
  laid_eq := by
    intro ws tools root name hready loc
    have hroom := hready.room
    rw [hout] at hroom ⊢
    simp only [resultWriter, hready.find_root, Workspace.withTree]
    have hplace : root ++ [name, "out"] = root ++ [name] ++ ["out"] := by simp
    rw [TestCase.entry_named hready.isName]
    rw [hplace] at hroom ⊢
    exact get?_put_add hready.directory (by decide) (by decide) hroom loc
  children_eq := by
    intro ws tools root name hready loc hloc
    simp only [resultWriter, hready.find_root, Workspace.withTree]
    have hcase : loc ≠ root ++ [name] := by
      rintro rfl
      exact hloc List.prefix_rfl
    have hplace : loc ≠ root ++ [name, "out"] := by
      rintro rfl
      exact hloc ⟨["out"], by simp⟩
    rw [TestCase.entry_named hready.isName]
    exact (children_put_of_ne hplace).trans (children_add_of_ne hcase)

theorem reports_twoStart :
    reports plainConfig (trials (resultWriter id [1]) plainConfig
      [.named plainConfig "a", .named plainConfig "b"] twoStart.workspace ()) =
      .ok [⟨"a", .fail .resultMismatch⟩, ⟨"b", .pass⟩] :=
  eq_ok_of_toOption (by decide +kernel)

theorem twoCases_repeated :
    let toolchain := resultWriter id [1]
    let first := Step.perform (run toolchain silentReporter plainConfig) twoStart
    let second := Step.perform (run toolchain silentReporter plainConfig) first.2
    first.1 = .ok ⟨⟨0, plainConfig.buildRoot⟩, [⟨"a", .fail .resultMismatch⟩, ⟨"b", .pass⟩]⟩ ∧
      second.1 = first.1 ∧
      ∀ inner, second.2.workspace.seen plainConfig.testsRoot inner =
        first.2.workspace.seen plainConfig.testsRoot inner := by
  dsimp only
  have hbuild (ws : Workspace) :
      ((resultWriter id [1]).build plainConfig ws ()).workspace = ws := rfl
  have hbuilt : ((resultWriter id [1]).build plainConfig twoStart.workspace twoStart.tools).answer =
      .ok (⟨⟨0, plainConfig.buildRoot⟩, [⟨"a", .fail .resultMismatch⟩, ⟨"b", .pass⟩]⟩ :
        Summary).build := rfl
  have hlinks : twoStart.workspace.Unlinked plainConfig.testsRoot := by
    intro inner target
    rw [plainTests_twoStart.seen_testsRoot]
    exact plainTests_twoStart.2.2 inner target
  have hplace : proper plainConfig.caseOutputDir.names = ["out"] := by decide +kernel
  have hroom :
      let built := (resultWriter id [1]).build plainConfig twoStart.workspace twoStart.tools
      ∀ cases root, Discovery.cases plainConfig built.workspace = .ok cases →
        built.workspace.find true plainConfig.testsRoot = .ok (root, .directory) →
        ∀ t ∈ reached plainConfig
            (trials (resultWriter id [1]) plainConfig cases built.workspace built.state),
          built.workspace.tree.Room (root ++ t.case.entry :: proper plainConfig.caseOutputDir.names)
            [(["result.txt"], [1])] := by
    intro built cases root hd hroot t ht
    obtain rfl := Except.ok.inj (cases_twoStart.symm.trans hd)
    have hfound := plainTests_twoStart.find_testsRoot.symm.trans hroot
    obtain ⟨rfl, -⟩ := Prod.mk.inj (Except.ok.inj hfound)
    have hfree : ∀ name ∈ ["a", "b"],
        twoCases.IsDirectory ["t", name] ∧ twoCases.get? (["t", name] ++ ["out"]) = none := by
      decide
    have hproper : ∀ name ∈ ["a", "b"], IsName name := by decide
    obtain ⟨hdir, hnone⟩ := hfree t.case.entry (entry_mem_of_reached hproper ht)
    rw [hplace]
    exact room_of_free hdir hnone _
  have hfirst := (run_eq_ok_iff silentReporter twoStart).mpr
    ⟨plainConfig_accepted, hbuilt, _, cases_twoStart, reports_twoStart⟩
  obtain ⟨-, hanswer, -, -, hseen⟩ := run_repeats (scripted_resultWriter id [1] hplace)
    plainConfig_accepted silentReporter twoStart hlinks hroom isPlainName_log isPlainName_result
    (Step.perform (run (resultWriter id [1]) silentReporter plainConfig) twoStart).2 rfl
    (by rw [hbuild]) fun inner => by rw [hbuild]
  exact ⟨hfirst, hanswer, hseen⟩

/-! ### A build that goes on -/

/-- Leaves a mark, and makes a directory when there is one. -/
def mark (t : FileTree) : FileTree :=
  if t.get? ["mark"] = none then t.add [] "mark" (.file []) else t.add [] "more" .directory

/-- The tests are found by way of what the second build makes. -/
def detourConfig : Config :=
  { plainConfig with testsDir := ⟨"more/../t"⟩ }

def oneCase : FileTree where
  entries :=
    [(["t"], .directory), (["t", "a"], .directory), (["t", "a", "exp"], .directory),
      (["t", "a", "exp", "result.txt"], .file [1])]
  distinct := by decide
  rooted := by decide
  parented := by decide
  named := by decide

def oneStart : State Unit Unit :=
  { workspace := ⟨oneCase, []⟩, tools := (), audience := () }

/-- A run that is not repeated: the build changes nothing in the directory of all cases, but the
second one makes a directory elsewhere. It stays there, and where the way to the cases goes
through it, cases are found that were not. -/
theorem second_build_shows :
    (∀ (t : FileTree) inner, (mark t).get? ("t" :: inner) = t.get? ("t" :: inner)) ∧
    (∀ loc target, oneCase.get? loc ≠ some (.link target)) ∧
    (∀ c ∈ [plainConfig, detourConfig], c.validate = .ok () ∧
      IsPlainName c.logArtifact ∧ IsPlainName c.resultArtifact ∧
      Scripted (resultWriter mark [1]) c (fun _ => .ok ⟨.exited 0, ""⟩)
        (fun _ => [(["result.txt"], [1])])) ∧
    (let first := Step.perform (run (resultWriter mark [1]) silentReporter plainConfig) oneStart
      let second := Step.perform (run (resultWriter mark [1]) silentReporter plainConfig) first.2
      first.2.workspace.tree.get? ["more"] = none ∧
        second.2.workspace.tree.get? ["more"] = some .directory) ∧
    (let first := Step.perform (run (resultWriter mark [1]) silentReporter detourConfig) oneStart
      let second := Step.perform (run (resultWriter mark [1]) silentReporter detourConfig) first.2
      (∃ d, first.1 = .error d) ∧
        second.1 = .ok ⟨⟨0, detourConfig.buildRoot⟩, [⟨"a", .pass⟩]⟩) := by
  have hplace : proper plainConfig.caseOutputDir.names = ["out"] := by decide +kernel
  have haccepted : detourConfig.validate = .ok () := eq_ok_of_toOption (by decide +kernel)
  refine ⟨?_, ?_, ?_, ⟨by decide +kernel, by decide +kernel⟩,
    exists_error_of_toOption (by decide +kernel), eq_ok_of_toOption (by decide +kernel)⟩
  · intro t inner
    unfold mark
    split
    · exact get?_add_of_ne (by simp)
    · exact get?_add_of_ne (by simp)
  · exact not_link_of_entries (by simp [oneCase])
  · intro c hc
    simp only [List.mem_cons, List.not_mem_nil, or_false] at hc
    rcases hc with rfl | rfl
    · exact ⟨plainConfig_accepted, isPlainName_log, isPlainName_result,
        scripted_resultWriter mark [1] hplace⟩
    · exact ⟨haccepted, isPlainName_log, isPlainName_result,
        scripted_resultWriter mark [1] hplace⟩

end GoldenSuite.Suite
