import GoldenSuite.Proofs.Case.Isolation
import GoldenSuite.Proofs.Suite.Order
import GoldenSuite.Proofs.Workspace.Growing

/-!
# Cases judged alone

A toolchain is confined when executing a case touches nothing but the output place of the case,
makes no links, and does what the directory of the case tells it to. The run of a suite with a
confined toolchain goes as if each case were executed and compared alone on the first files:
by induction on the cases, what is still to be run looks as it did at the start.
-/

namespace GoldenSuite.Suite

open FileTree

variable {σ ρ : Type} {toolchain : Toolchain σ} {c : Config} {trees : Workspace → Prop}
  {ws ws' : Workspace} {tools tools' : σ} {name : String}

/-- The trial of a case on some files. -/
def trialOn (toolchain : Toolchain σ) (c : Config) (ws : Workspace) (tools : σ)
    (case : TestCase) : Trial σ :=
  ⟨case, toolchain.execute c case ws tools⟩

/-- On certain files, which it does not lead away from, a toolchain builds without changing what
is seen below the directory of all cases, and executes a case by its directory alone. -/
structure Confined (toolchain : Toolchain σ) (c : Config) (trees : Workspace → Prop) : Prop where
  /-- There are no links below the directory of all cases. -/
  unlinked : ∀ ws, trees ws → ws.Unlinked c.testsRoot
  trees_build : ∀ ws tools, trees ws → trees (toolchain.build c ws tools).workspace
  trees_execute : ∀ ws tools name, trees ws →
    ws.seen c.testsRoot [name] = some .directory →
    trees (toolchain.execute c (.named c name) ws tools).workspace
  /-- A build changes nothing below the directory of all cases. -/
  seen_build : ∀ ws tools inner, trees ws → inner ≠ [] →
    (toolchain.build c ws tools).workspace.seen c.testsRoot inner = ws.seen c.testsRoot inner
  /-- An execution changes nothing there but at or below the output place of its case. -/
  seen_execute : ∀ ws tools name inner, trees ws →
    ws.seen c.testsRoot [name] = some .directory →
    ¬ name :: proper c.caseOutputDir.names <+: inner →
    (toolchain.execute c (.named c name) ws tools).workspace.seen c.testsRoot inner =
      ws.seen c.testsRoot inner
  /-- What an execution answers and leaves in the directory of its case depends on nothing but
  that directory. -/
  fixed : ∀ ws ws' tools tools' name, trees ws → trees ws' →
    ws.seen c.testsRoot [name] = some .directory → Workspace.SameIn c.testsRoot name ws ws' →
    let reply := toolchain.execute c (.named c name) ws tools
    let reply' := toolchain.execute c (.named c name) ws' tools'
    reply.answer = reply'.answer ∧
      Workspace.SameIn c.testsRoot name reply.workspace reply'.workspace

/-! ### One case -/

theorem Trial.calls_congr {t t' : Trial σ} (hcase : t.case = t'.case)
    (hanswer : t.reply.answer = t'.reply.answer) (hjudged : t.judgement c = t'.judgement c) :
    t.calls c = t'.calls c := by
  have hsucceeded : t.Succeeded ↔ t'.Succeeded := by rw [Succeeded, Succeeded, hanswer]
  have hbegun : t.begun = t'.begun := by
    unfold begun
    rw [hcase]
    by_cases hs : t.Succeeded
    · rw [if_pos hs, if_pos (hsucceeded.mp hs)]
    · rw [if_neg hs, if_neg (mt hsucceeded.mpr hs)]
  unfold calls
  rw [hjudged, hbegun, hcase]

theorem Confined.exists_root (h : Confined toolchain c trees) (htrees : trees ws)
    (hdir : ws.seen c.testsRoot [name] = some .directory) (tools : σ) :
    ∃ root, (toolchain.execute c (.named c name) ws tools).workspace.find true c.testsRoot =
      .ok (root, .directory) := by
  obtain ⟨root, hroot⟩ := Workspace.exists_root_of_seen hdir
  have hleft := h.seen_execute ws tools name [] htrees hdir (by simp)
  rw [Workspace.seen_root hroot] at hleft
  exact Workspace.exists_root_of_seen hleft

/-- On files where its directory looks alike, a case has the same judgement and the same calls. -/
theorem Confined.trial_eq (h : Confined toolchain c trees) (hv : c.validate = .ok ())
    (hlog : IsPlainName c.logArtifact) (hresult : IsPlainName c.resultArtifact)
    (htrees : trees ws) (htrees' : trees ws') (hname : IsName name)
    (hdir : ws.seen c.testsRoot [name] = some .directory)
    (hsame : Workspace.SameIn c.testsRoot name ws ws') (tools tools' : σ) :
    let t := trialOn toolchain c ws tools (.named c name)
    let t' := trialOn toolchain c ws' tools' (.named c name)
    t.judgement c = t'.judgement c ∧ t.calls c = t'.calls c := by
  intro t t'
  have hdir' : ws'.seen c.testsRoot [name] = some .directory := by rw [← hsame [], hdir]
  obtain ⟨hanswer, hleft⟩ := h.fixed ws ws' tools tools' name htrees htrees' hdir hsame
  -- The roots need not be one place: a comparison goes by what is seen from them.
  obtain ⟨root, hroot⟩ := h.exists_root htrees hdir tools
  obtain ⟨root', hroot'⟩ := h.exists_root htrees' hdir' tools'
  have hcompare := compareCase_eq_of_sameIn hv hlog hresult hname hroot hroot'
    (h.unlinked _ (h.trees_execute ws tools name htrees hdir))
    (h.unlinked _ (h.trees_execute ws' tools' name htrees' hdir')) hleft
  have hjudged : t.judgement c = t'.judgement c := by
    simp only [t, t', Trial.judgement, trialOn, hanswer, hcompare]
  exact ⟨hjudged, Trial.calls_congr rfl hanswer hjudged⟩

/-! ### All cases -/

/-- The directory of one case looks as before when another case has been executed. -/
theorem Confined.sameIn_execute (h : Confined toolchain c trees) (htrees : trees ws)
    (hdir : ws.seen c.testsRoot [name] = some .directory) {other : String} (hne : other ≠ name)
    (tools : σ) :
    Workspace.SameIn c.testsRoot other
      (toolchain.execute c (.named c name) ws tools).workspace ws := by
  intro inner
  refine h.seen_execute ws tools name _ htrees hdir fun hprefix => ?_
  rw [List.cons_prefix_cons] at hprefix
  exact hne hprefix.1.symm

theorem Confined.trials_eq (h : Confined toolchain c trees) (hv : c.validate = .ok ())
    (hlog : IsPlainName c.logArtifact) (hresult : IsPlainName c.resultArtifact)
    {first : Workspace} (hfirst : trees first) (begin : σ) {names : List String}
    (hnodup : names.Nodup) (hnames : ∀ name ∈ names, IsName name)
    (hdirs : ∀ name ∈ names, ws.seen c.testsRoot [name] = some .directory)
    (hsame : ∀ name ∈ names, Workspace.SameIn c.testsRoot name ws first) (htrees : trees ws)
    (tools : σ) :
    let ts := trials toolchain c (names.map (.named c)) ws tools
    let alone := (names.map (.named c)).map (trialOn toolchain c first begin)
    reports c ts = reports c alone ∧
      (reached c ts).flatMap (Trial.calls c) = (reached c alone).flatMap (Trial.calls c) := by
  -- What the induction carries: the cases that are left look as they do on the first files.
  induction names generalizing ws tools with
  | nil => exact ⟨rfl, rfl⟩
  | cons name others ih =>
    rw [List.nodup_cons] at hnodup
    rw [List.forall_mem_cons] at hnames hdirs hsame
    obtain ⟨hjudged, hcalls⟩ := h.trial_eq hv hlog hresult htrees hfirst hnames.1 hdirs.1 hsame.1
      tools begin
    have hother : ∀ other ∈ others, Workspace.SameIn c.testsRoot other
        (toolchain.execute c (.named c name) ws tools).workspace ws := by
      intro other hmem
      refine h.sameIn_execute htrees hdirs.1 (fun heq => ?_) tools
      exact hnodup.1 (heq ▸ hmem)
    obtain ⟨hreports, hreached⟩ := ih hnodup.2 hnames.2
      (fun other hmem => (hother other hmem []).trans (hdirs.2 other hmem))
      (fun other hmem inner => (hother other hmem inner).trans (hsame.2 other hmem inner))
      (h.trees_execute ws tools name htrees hdirs.1)
      (toolchain.execute c (.named c name) ws tools).state
    simp only [List.map_cons, trials_cons, reports, reached]
    change Trial.judgement c ⟨.named c name, toolchain.execute c (.named c name) ws tools⟩ = _
      at hjudged
    change Trial.calls c ⟨.named c name, toolchain.execute c (.named c name) ws tools⟩ = _
      at hcalls
    rw [hjudged, hreports]
    refine ⟨rfl, ?_⟩
    cases (trialOn toolchain c first begin (.named c name)).judgement c with
    | error d => simp only [List.flatMap_cons, List.flatMap_nil, hcalls]
    | ok verdict => simp only [List.flatMap_cons, hcalls, hreached]

/-- With a confined toolchain a run goes, and answers, as if each of its cases were executed and
compared alone on the first files. What is said of a case alone is said of it on any files where
its directory looks the same, whatever else there is. -/
theorem run_judges_alone (hconfined : Confined toolchain c trees) (hv : c.validate = .ok ())
    (hlog : IsPlainName c.logArtifact) (hresult : IsPlainName c.resultArtifact)
    (reporter : Reporter ρ) (s : State σ ρ) (hs : trees s.workspace) :
    let built := toolchain.build c s.workspace s.tools
    let done := Step.perform (run toolchain reporter c) s
    ∀ report cases, built.answer = .ok report → Discovery.cases c built.workspace = .ok cases →
      (∃ calls, Made toolchain reporter c calls s done.2 ∧
        Course c (cases.map (trialOn toolchain c s.workspace s.tools)) report calls done.1) ∧
      ∀ case ∈ cases, ∀ ws tools, trees ws →
        Workspace.SameIn c.testsRoot case.entry ws s.workspace →
        (trialOn toolchain c ws tools case).judgement c =
          (trialOn toolchain c s.workspace s.tools case).judgement c := by
  intro built done report cases hb hd
  have htrees : trees built.workspace := hconfined.trees_build _ _ hs
  have hcase : ∀ case ∈ cases, case = .named c case.entry ∧ IsName case.entry ∧
      built.workspace.seen c.testsRoot [case.entry] = some .directory := by
    intro case hmem
    obtain ⟨hentry, hnamed⟩ := Discovery.eq_named_entry hd hmem
    exact ⟨hnamed, Discovery.isName_of_isCase hentry,
      Discovery.seen_of_isCase (hconfined.unlinked _ htrees) hentry⟩
  have hsame : ∀ name, Workspace.SameIn c.testsRoot name built.workspace s.workspace :=
    fun name inner => hconfined.seen_build _ _ _ hs (by simp)
  constructor
  · have hentries : ∀ entry ∈ cases.map TestCase.entry, IsName entry ∧
        built.workspace.seen c.testsRoot [entry] = some .directory := by
      intro entry hmem
      obtain ⟨case, hin, rfl⟩ := List.mem_map.mp hmem
      exact (hcase case hin).2
    obtain ⟨hreports, hreached⟩ := hconfined.trials_eq hv hlog hresult hs s.tools
      (Discovery.nodup_entries hd) (fun entry hmem => (hentries entry hmem).1)
      (fun entry hmem => (hentries entry hmem).2) (fun entry _ => hsame entry) htrees built.state
    rw [Discovery.map_named_entry hd] at hreports hreached
    have hrun := perform_run_of_discovered reporter hv s hb hd
    refine exists_course_of_reports ?_ ?_
    · rw [List.map_map]
      show (cases.map id).Nodup
      rw [List.map_id]
      exact Discovery.nodup_cases hd
    · dsimp only at hrun
      rw [← hreports, ← hreached]
      cases hr : reports c (trials toolchain c cases built.workspace built.state) with
      | error d =>
        rw [hr] at hrun
        exact hrun
      | ok rs =>
        rw [hr] at hrun
        rw [reached_of_reports_ok hr, reached_of_reports_ok (hreports ▸ hr)] at hreached
        rw [← hreached]
        exact hrun
  · intro case hmem ws tools hws hlook
    obtain ⟨hnamed, hname, hdir⟩ := hcase case hmem
    have hfirst : ws.seen c.testsRoot [case.entry] = some .directory := by
      rw [hlook [], ← hsame case.entry [], hdir]
    rw [hnamed]
    exact (hconfined.trial_eq hv hlog hresult hws hs hname hfirst hlook tools s.tools).1

/-! ### Toolchains that follow a script -/

/-- A toolchain that changes the tree and ends as the directory of the case says. -/
def scripted (script : String → FileTree → FileTree) (code : String → Int) : Toolchain Unit where
  build c ws tools := ⟨.ok ⟨0, c.buildRoot⟩, ws, tools, []⟩
  execute _ case ws tools :=
    ⟨.ok ⟨.exited (code case.entry), ""⟩, ws.withTree (script case.entry ws.tree), tools, []⟩

theorem execute_scripted (h : IsName name) (script : String → FileTree → FileTree)
    (code : String → Int) (c : Config) (ws : Workspace) :
    (scripted script code).execute c (.named c name) ws () =
      ⟨.ok ⟨.exited (code name), ""⟩, ws.withTree (script name ws.tree), (), []⟩ := by
  have hentry : (TestCase.named c name).entry = name := TestCase.entry_named h
  simp only [scripted, hentry]

/-- Puts an output directory with a result into the directory of a case. -/
def deliver (result : Entry) (name : String) (t : FileTree) : FileTree :=
  (t.add ["t", name] "out" .directory).add ["t", name, "out"] "result.txt" result

theorem get?_deliver_outside {result : Entry} {t : FileTree} {loc : Location}
    (h : ¬ ["t", name, "out"] <+: loc) : (deliver result name t).get? loc = t.get? loc := by
  have hresult : loc ≠ ["t", name, "out"] ++ ["result.txt"] := by
    rintro rfl
    exact h (List.prefix_append _ _)
  have hout : loc ≠ ["t", name] ++ ["out"] := by
    rintro rfl
    exact h List.prefix_rfl
  rw [deliver, get?_add_of_ne hresult, get?_add_of_ne hout]

theorem get?_deliver_congr (result : Entry) {t t' : FileTree}
    (h : ∀ inner, t.get? ("t" :: name :: inner) = t'.get? ("t" :: name :: inner))
    (inner : List String) :
    (deliver result name t).get? ("t" :: name :: inner) =
      (deliver result name t').get? ("t" :: name :: inner) := by
  have hout : ∀ inner, (t.add ["t", name] "out" .directory).get? ("t" :: name :: inner) =
      (t'.add ["t", name] "out" .directory).get? ("t" :: name :: inner) :=
    fun inner => get?_add_congr .directory (h []) (h ["out"]) (h inner)
  exact get?_add_congr result (hout ["out"]) (hout ["out", "result.txt"]) (hout inner)

/-- What is delivered is no link unless the result is one. -/
theorem get?_of_deliver_link {contents : Bytes} {t : FileTree} {loc : Location} {target : Path}
    (h : (deliver (.file contents) name t).get? loc = some (.link target)) :
    t.get? loc = some (.link target) := by
  have hadd : ∀ (t : FileTree) top name e, (∀ target, e ≠ .link target) →
      (t.add top name e).get? loc = some (.link target) → t.get? loc = some (.link target) := by
    intro t top name e hne hlink
    by_cases hloc : loc = top ++ [name]
    · subst hloc
      rcases get?_add_cases t top name e with hsame | ⟨-, hnew⟩
      · rw [← hsame, hlink]
      · rw [hnew] at hlink
        exact absurd (Option.some.inj hlink) (hne target)
    · rwa [get?_add_of_ne hloc] at hlink
  exact hadd _ _ _ _ (by simp) (hadd _ _ _ _ (by simp) h)

/-! ### Two cases that leave each other alone -/

/-- The cases are in `t`, where there are no links. -/
def PlainTests (ws : Workspace) : Prop :=
  ws.here = [] ∧ ws.tree.get? ["t"] = some .directory ∧
    ∀ inner target, ws.tree.get? ("t" :: inner) ≠ some (.link target)

def plainConfig : Config :=
  { testsDir := ⟨"t"⟩, caseOutputDir := ⟨"out"⟩, caseExpectedDir := ⟨"exp"⟩ }

theorem plainConfig_accepted : plainConfig.validate = .ok () :=
  eq_ok_of_toOption (by decide +kernel)

theorem isPlainName_log : IsPlainName plainConfig.logArtifact :=
  ⟨"log.txt", by decide +kernel⟩

theorem isPlainName_result : IsPlainName plainConfig.resultArtifact :=
  ⟨"result.txt", by decide +kernel⟩

theorem find_plainTests (hhere : ws.here = []) (hdir : ws.tree.IsDirectory ["t"]) :
    ws.find true plainConfig.testsRoot = .ok (["t"], .directory) := by
  have hlooks : ws.tree.Looks [] "t" := ⟨isDirectory_root _, by decide, by decide, by decide⟩
  have hsteps : plainConfig.testsRoot.steps = [".", "t"] := by decide +kernel
  have hstart : start ws.here plainConfig.testsRoot = [] := by
    rw [hhere, start]
    split <;> rfl
  refine Workspace.find_eq_ok_iff.mpr ⟨⟨⟨by decide, by decide, by decide⟩, ?_⟩, hdir⟩
  rw [hsteps, hstart, follow_current (isDirectory_root _), follow_name hlooks, List.nil_append,
    hdir]
  exact follow_nil ..

theorem PlainTests.find_testsRoot (h : PlainTests ws) :
    ws.find true plainConfig.testsRoot = .ok (["t"], .directory) :=
  find_plainTests h.1 h.2.1

theorem PlainTests.seen_testsRoot (h : PlainTests ws) (inner : List String) :
    ws.seen plainConfig.testsRoot inner = ws.tree.get? ("t" :: inner) := by
  rw [Workspace.seen_eq h.find_testsRoot]
  rfl

theorem confined_deliver (contents : Bytes) (code : String → Int) :
    Confined (scripted (deliver (.file contents)) code) plainConfig PlainTests := by
  have hexecute : ∀ ws tools name, PlainTests ws →
      PlainTests ((scripted (deliver (.file contents)) code).execute plainConfig
        (.named plainConfig name) ws tools).workspace := by
    intro ws tools name h
    refine ⟨h.1, ?_, fun inner target hlink => h.2.2 inner target (get?_of_deliver_link hlink)⟩
    exact (get?_deliver_outside (by simp)).trans h.2.1
  have hname : ∀ ws name, PlainTests ws → ws.seen plainConfig.testsRoot [name] = some .directory →
      IsName name := by
    intro ws name h hdir
    rw [h.seen_testsRoot] at hdir
    exact isName_of_mem hdir (by simp)
  refine ⟨?_, fun ws tools h => h, fun ws tools name h _ => hexecute ws tools name h,
    fun ws tools inner h _ => rfl, ?_, ?_⟩
  · intro ws h inner target
    rw [h.seen_testsRoot]
    exact h.2.2 inner target
  · intro ws tools name inner h hdir hnot
    rw [h.seen_testsRoot, (hexecute ws tools name h).seen_testsRoot,
      execute_scripted (hname ws name h hdir)]
    refine get?_deliver_outside fun hprefix => hnot ?_
    exact (List.cons_prefix_cons.mp hprefix).2
  · intro ws ws' tools tools' name h h' hdir hsame
    refine ⟨rfl, fun inner => ?_⟩
    rw [(hexecute ws tools name h).seen_testsRoot, (hexecute ws' tools' name h').seen_testsRoot,
      execute_scripted (hname ws name h hdir), execute_scripted (hname ws name h hdir)]
    refine get?_deliver_congr _ (fun inner => ?_) inner
    rw [← h.seen_testsRoot, ← h'.seen_testsRoot]
    exact hsame inner

def twoCases : FileTree where
  entries :=
    [(["t"], .directory), (["t", "a"], .directory), (["t", "a", "exp"], .directory),
      (["t", "a", "exp", "result.txt"], .file [2]), (["t", "b"], .directory),
      (["t", "b", "exp"], .directory), (["t", "b", "exp", "result.txt"], .file [1])]
  distinct := by decide
  rooted := by decide
  parented := by decide
  named := by decide

def twoStart : State Unit Unit :=
  { workspace := ⟨twoCases, []⟩, tools := (), audience := () }

theorem plainTests_twoStart : PlainTests twoStart.workspace := by
  refine ⟨rfl, rfl, fun inner target hlink => ?_⟩
  have hmem := (get?_eq_some_iff (by simp)).mp hlink
  simp [twoStart, twoCases] at hmem

theorem cases_twoStart : Discovery.cases plainConfig twoStart.workspace =
    .ok [.named plainConfig "a", .named plainConfig "b"] := by
  have hlist : twoStart.workspace.list plainConfig.testsRoot = .ok (["t"], ["a", "b"]) :=
    eq_ok_of_toOption (by decide +kernel)
  have hfound : Discovery.casesAmong plainConfig twoStart.workspace ["a", "b"] =
      .ok [.named plainConfig "a", .named plainConfig "b"] :=
    eq_ok_of_toOption (by decide +kernel)
  exact Discovery.cases_of_sorted hlist hfound (by decide +kernel)

/-- The one case fails and the other one passes, as each of them does alone. -/
theorem delivered_judged_alone :
    ∃ summary, (Step.perform (run (scripted (deliver (.file [1])) fun _ => 0) silentReporter
        plainConfig) twoStart).1 = .ok summary ∧
      summary.cases = [⟨"a", .fail .resultMismatch⟩, ⟨"b", .pass⟩] := by
  have ha : (trialOn (scripted (deliver (.file [1])) fun _ => 0) plainConfig twoStart.workspace ()
      (.named plainConfig "a")).judgement plainConfig = .ok (.fail .resultMismatch) :=
    eq_ok_of_toOption (by decide +kernel)
  have hb : (trialOn (scripted (deliver (.file [1])) fun _ => 0) plainConfig twoStart.workspace ()
      (.named plainConfig "b")).judgement plainConfig = .ok .pass :=
    eq_ok_of_toOption (by decide +kernel)
  obtain ⟨⟨calls, -, hcourse⟩, -⟩ := run_judges_alone (confined_deliver [1] fun _ => 0)
    plainConfig_accepted isPlainName_log isPlainName_result silentReporter twoStart
    plainTests_twoStart _ _ rfl cases_twoStart
  obtain ⟨summary, hanswer, -, hpairs, -⟩ := hcourse.completed (by simp [ha, hb])
  refine ⟨summary, hanswer, ?_⟩
  have hreports : reports plainConfig ([.named plainConfig "a", .named plainConfig "b"].map
      (trialOn (scripted (deliver (.file [1])) fun _ => 0) plainConfig twoStart.workspace ())) =
      .ok summary.cases := reports_eq_ok_iff.mpr hpairs
  simp only [List.map_cons, List.map_nil, reports, ha, hb] at hreports
  exact (Except.ok.inj hreports).symm

/-! ### Cases that meet at their outputs -/

/-- A suite without links whose cases have places of their own to read and to write. -/
structure Apart (toolchain : Toolchain σ) (c : Config) (top : Location) (s : State σ Unit) :
    Prop where
  accepted : c.validate = .ok ()
  log : IsPlainName c.logArtifact
  result : IsPlainName c.resultArtifact
  root : s.workspace.find true c.testsRoot = .ok (top, .directory)
  unlinked : ∀ inner target, s.workspace.tree.get? (top ++ inner) ≠ some (.link target)
  build : ∀ ws tools, (toolchain.build c ws tools).workspace = ws
  here : ∀ case ws tools, (toolchain.execute c case ws tools).workspace.here = ws.here
  /-- Nothing changes but what is at or below the output place of the case. -/
  writes : ∀ ws tools name loc, IsName name →
    ¬ top ++ name :: proper c.caseOutputDir.names <+: loc →
    (toolchain.execute c (.named c name) ws tools).workspace.tree.get? loc = ws.tree.get? loc
  /-- The answer and what is left in the directory of the case depend on that directory alone. -/
  reads : ∀ ws ws' tools tools' name, IsName name →
    (∀ inner, ws.tree.get? (top ++ name :: inner) = ws'.tree.get? (top ++ name :: inner)) →
    let reply := toolchain.execute c (.named c name) ws tools
    let reply' := toolchain.execute c (.named c name) ws' tools'
    reply.answer = reply'.answer ∧ ∀ inner,
      reply.workspace.tree.get? (top ++ name :: inner) =
        reply'.workspace.tree.get? (top ++ name :: inner)

theorem apart_scripted {script : String → FileTree → FileTree} {code : String → Int} {c : Config}
    {s : State Unit Unit} (hv : c.validate = .ok ()) (hlog : IsPlainName c.logArtifact)
    (hresult : IsPlainName c.resultArtifact)
    (hroot : s.workspace.find true c.testsRoot = .ok (["t"], .directory))
    (hlinks : ∀ inner target, s.workspace.tree.get? ("t" :: inner) ≠ some (.link target))
    (hout : c.caseOutputDir = ⟨"out"⟩)
    (hwrites : ∀ t name loc, ¬ ["t", name, "out"] <+: loc → (script name t).get? loc = t.get? loc)
    (hreads : ∀ (t t' : FileTree) name,
      (∀ inner, t.get? ("t" :: name :: inner) = t'.get? ("t" :: name :: inner)) → ∀ inner,
        (script name t).get? ("t" :: name :: inner) =
          (script name t').get? ("t" :: name :: inner)) :
    Apart (scripted script code) c ["t"] s where
  accepted := hv
  log := hlog
  result := hresult
  root := hroot
  unlinked := hlinks
  build := fun _ _ => rfl
  here := fun _ _ _ => rfl
  writes := by
    intro ws tools name loc hname hnot
    rw [execute_scripted hname]
    refine hwrites _ _ _ fun hprefix => hnot ?_
    rwa [hout]
  reads := by
    intro ws ws' tools tools' name hname hsame
    rw [execute_scripted hname, execute_scripted hname]
    exact ⟨rfl, hreads ws.tree ws'.tree name hsame⟩

/-- Delivers the result of the case `a` as a link for the case `b`. -/
def share (name : String) (t : FileTree) : FileTree :=
  deliver (if name = "b" then .link ⟨"../../a/out/result.txt"⟩ else .file [1]) name t

/-- Removes the output of the case `a`, and delivers a result for the others. -/
def clearOrDeliver (name : String) (t : FileTree) : FileTree :=
  if name = "a" then t.prune ["t", name, "out"] else deliver (.file [1]) name t

/-- The tests are found by way of the output of a case. -/
def roundaboutConfig : Config :=
  { plainConfig with testsDir := ⟨"t/a/out/../.."⟩ }

theorem roundaboutConfig_accepted : roundaboutConfig.validate = .ok () :=
  eq_ok_of_toOption (by decide +kernel)

def clutteredCases : FileTree where
  entries :=
    [(["t"], .directory), (["t", "a"], .directory), (["t", "a", "out"], .directory),
      (["t", "b"], .directory), (["t", "b", "exp"], .directory),
      (["t", "b", "exp", "result.txt"], .file [1])]
  distinct := by decide
  rooted := by decide
  parented := by decide
  named := by decide

def clutteredStart : State Unit Unit :=
  { workspace := ⟨clutteredCases, []⟩, tools := (), audience := () }

/-- Exit code one for the case `a`. -/
def failA (name : String) : Int :=
  if name = "a" then 1 else 0

theorem get?_clearOrDeliver_outside {t : FileTree} {loc : Location}
    (h : ¬ ["t", name, "out"] <+: loc) : (clearOrDeliver name t).get? loc = t.get? loc := by
  unfold clearOrDeliver
  split
  · by_cases hroot : loc = []
    · subst hroot
      rfl
    · rw [get?_prune hroot, if_neg (by rwa [List.isPrefixOf_iff_prefix])]
  · exact get?_deliver_outside h

theorem get?_clearOrDeliver_congr {t t' : FileTree}
    (h : ∀ inner, t.get? ("t" :: name :: inner) = t'.get? ("t" :: name :: inner))
    (inner : List String) :
    (clearOrDeliver name t).get? ("t" :: name :: inner) =
      (clearOrDeliver name t').get? ("t" :: name :: inner) := by
  unfold clearOrDeliver
  split
  · rw [get?_prune (by simp), get?_prune (by simp), h]
  · exact get?_deliver_congr _ h inner

theorem cluttered_unlinked (inner : List String) (target : Path) :
    clutteredStart.workspace.tree.get? ("t" :: inner) ≠ some (.link target) := by
  intro hlink
  have hmem := (get?_eq_some_iff (by simp)).mp hlink
  simp [clutteredStart, clutteredCases] at hmem

theorem apart_share : Apart (scripted share failA) plainConfig ["t"] clutteredStart :=
  apart_scripted plainConfig_accepted isPlainName_log isPlainName_result
    (eq_ok_of_toOption (by decide +kernel)) cluttered_unlinked rfl
    (fun _ _ _ hnot => get?_deliver_outside hnot)
    (fun _ _ _ hsame => get?_deliver_congr _ hsame)

theorem apart_clearOrDeliver :
    Apart (scripted clearOrDeliver failA) roundaboutConfig ["t"] clutteredStart :=
  apart_scripted roundaboutConfig_accepted isPlainName_log isPlainName_result
    (eq_ok_of_toOption (by decide +kernel)) cluttered_unlinked rfl
    (fun _ _ _ hnot => get?_clearOrDeliver_outside hnot)
    (fun _ _ _ hsame => get?_clearOrDeliver_congr hsame)

theorem cluttered_cases {c : Config}
    (hlist : clutteredStart.workspace.list c.testsRoot = .ok (["t"], ["a", "b"]))
    (hfound : Discovery.casesAmong c clutteredStart.workspace ["a", "b"] =
      .ok [.named c "a", .named c "b"]) :
    Discovery.cases c clutteredStart.workspace = .ok [.named c "a", .named c "b"] := by
  have hnames : Octets.toText "a" ≤ Octets.toText "b" := by decide +kernel
  exact Discovery.cases_of_sorted hlist hfound (List.pairwise_pair.mpr hnames)

/-- A case that is judged otherwise in a run than alone: its output is a link into the output of
the case before, or it is found by way of an output that the case before removes. -/
theorem cases_meet :
    (Apart (scripted share failA) plainConfig ["t"] clutteredStart ∧
      (∃ summary, (Step.perform (run (scripted share failA) silentReporter plainConfig)
          clutteredStart).1 = .ok summary ∧ ⟨"b", .pass⟩ ∈ summary.cases) ∧
      ∃ d, (trialOn (scripted share failA) plainConfig clutteredStart.workspace ()
        (.named plainConfig "b")).judgement plainConfig = .error d) ∧
    Apart (scripted clearOrDeliver failA) roundaboutConfig ["t"] clutteredStart ∧
      (∃ d left, Step.perform (run (scripted clearOrDeliver failA) silentReporter roundaboutConfig)
          clutteredStart = (.error d, left) ∧ left.events.getLast? = some (.compare "b")) ∧
      (trialOn (scripted clearOrDeliver failA) roundaboutConfig clutteredStart.workspace ()
        (.named roundaboutConfig "b")).judgement roundaboutConfig = .ok .pass := by
  refine ⟨⟨apart_share, ?_, exists_error_of_toOption (by decide +kernel)⟩,
    apart_clearOrDeliver, ?_, eq_ok_of_toOption (by decide +kernel)⟩
  · have hcases := cluttered_cases (c := plainConfig) (eq_ok_of_toOption (by decide +kernel))
      (eq_ok_of_toOption (by decide +kernel))
    have hreports : reports plainConfig (trials (scripted share failA) plainConfig
        [.named plainConfig "a", .named plainConfig "b"] clutteredStart.workspace ()) =
        .ok [⟨"a", .fail (.simulatorFailed (.exited 1) "")⟩, ⟨"b", .pass⟩] :=
      eq_ok_of_toOption (by decide +kernel)
    exact ⟨⟨⟨0, plainConfig.buildRoot⟩, _⟩,
      (run_eq_ok_iff silentReporter clutteredStart).mpr
        ⟨plainConfig_accepted, rfl, _, hcases, hreports⟩, by simp⟩
  · have hcases := cluttered_cases (c := roundaboutConfig) (eq_ok_of_toOption (by decide +kernel))
      (eq_ok_of_toOption (by decide +kernel))
    obtain ⟨d, hreports⟩ : ∃ d, reports roundaboutConfig (trials (scripted clearOrDeliver failA)
        roundaboutConfig [.named roundaboutConfig "a", .named roundaboutConfig "b"]
        clutteredStart.workspace ()) = .error d :=
      exists_error_of_toOption (by decide +kernel)
    have hstopped := perform_run_of_stopped silentReporter roundaboutConfig_accepted
      clutteredStart rfl hcases hreports
    generalize Step.perform (run (scripted clearOrDeliver failA) silentReporter roundaboutConfig)
      clutteredStart = done at hstopped ⊢
    obtain ⟨answer, left⟩ := done
    obtain ⟨rfl, hmade⟩ := hstopped
    refine ⟨d, left, rfl, ?_⟩
    rw [hmade.events]
    decide +kernel

end GoldenSuite.Suite
