import GoldenSuite.Proofs.Build.Collected
import GoldenSuite.Proofs.Case.Input
import GoldenSuite.Proofs.Child.Started
import GoldenSuite.Proofs.Workspace.Making

/-!
# The stages of a build

A build looks for its sources, makes its directory and runs the compiler once. A stage that fails
ends the build with an error of its own, and what is left are the effects of the stages before it.
Only the last stage starts a child, and the files that it finds differ from those of the first by
the build directory and the directories on the way to it.
-/

namespace GoldenSuite.Build

variable {launcher : Child.Launcher} {c : Config} {ws : Workspace} {s : Session}
  {found : List Path} {e : BuildError}

/-! ### Looking for sources -/

/-- Why a build has no sources: the pattern is none, a directory on the walk cannot be listed, or
no file that the walk comes to is accepted. -/
inductive Unsourced (c : Config) (ws : Workspace) : BuildError → Prop
  | pattern {error : ConfigError} : c.sourcePattern = .error (.error error) →
    Unsourced c ws (.config error)
  | unreadable {pattern : Glob.Pattern} {root : Location} {path : Path} {fault : Fault} :
    c.sourcePattern = .ok pattern → ws.find true c.sourceRoot = .ok (root, .directory) →
    ws.unlisted? root c.sourceRoot = some (path, fault) →
    Unsourced c ws (.unreadableSources path fault)
  | none {pattern : Glob.Pattern} : c.sourcePattern = .ok pattern → Readable c ws →
    (∀ names, ¬ IsSource c pattern ws names) →
    Unsourced c ws (.noSources c.sourceRoot c.sourceGlob)

theorem sources_of_unsourced (h : Unsourced c ws e) : sources c ws = .error (.error e) := by
  cases h with
  | pattern hpattern =>
    unfold sources
    rw [hpattern]
    rfl
  | unreadable hpattern hroot hunlisted =>
    refine sources_of_matching_error hpattern ?_
    unfold matching
    rw [hroot]
    dsimp only
    rw [hunlisted]
  | none hpattern hread hnone => exact sources_of_sourceless hpattern hread hnone

/-- With a pattern that compiles there is a reason why there are no sources, or the sources are
collected. -/
theorem unsourced_or_collected {pattern : Glob.Pattern} (hpattern : c.sourcePattern = .ok pattern)
    (ws : Workspace) :
    (∃ e, Unsourced c ws e) ∨
      ∃ found, sources c ws = .ok found ∧ Collected c pattern ws found ∧ found ≠ [] := by
  by_cases hread : Readable c ws
  · by_cases hsource : ∃ names, IsSource c pattern ws names
    · obtain ⟨names, hsource⟩ := hsource
      obtain ⟨found, hfound, hcollected⟩ := sources_of_source hpattern hread hsource
      exact .inr ⟨found, hfound, hcollected,
        List.ne_nil_of_mem ((hcollected.mem_iff _).mpr ⟨names, hsource, rfl⟩)⟩
    · exact .inl ⟨_, .none hpattern hread fun names h => hsource ⟨names, h⟩⟩
  · rw [Readable, not_forall] at hread
    obtain ⟨root, hread⟩ := hread
    obtain ⟨hroot, hwalk⟩ := not_forall.mp hread
    have hunlisted := mt
      (Workspace.unlisted?_eq_none_iff (Workspace.get?_of_find hroot)).mp hwalk
    obtain ⟨⟨path, fault⟩, hfault⟩ := Option.ne_none_iff_exists'.mp hunlisted
    exact .inl ⟨_, .unreadable hpattern hroot hfault⟩

/-! ### Running the stages -/

theorem perform_run_of_error {e : Halt BuildError} (h : sources c s.workspace = .error e) :
    (run launcher c).perform s =
      (.error e, { s with notes := s.notes ++ sourceRemarks c s.workspace }) := by
  have hremarks : (Act.remarkOn (sourceRemarks c) : Act (Halt BuildError) Unit).perform s =
      (.ok (), { s with notes := s.notes ++ sourceRemarks c s.workspace }) := rfl
  simp only [run, Act.perform_bind, hremarks, Act.perform_look, h]

section
variable (hfound : sources c s.workspace = .ok found)
include hfound

theorem perform_run_of_unmade {fault : Fault}
    (h : (s.workspace.createDirectories c.buildRoot).1 = .error fault) :
    (run launcher c).perform s =
      (.error (.error (.directory c.buildRoot fault)),
        { s with
          workspace := (s.workspace.createDirectories c.buildRoot).2
          notes := s.notes ++ sourceRemarks c s.workspace }) := by
  have hremarks : (Act.remarkOn (sourceRemarks c) : Act (Halt BuildError) Unit).perform s =
      (.ok (), { s with notes := s.notes ++ sourceRemarks c s.workspace }) := rfl
  simp only [run, Act.perform_bind, hremarks, Act.perform_look, hfound, makeDirectory,
    Act.perform_within, Act.perform_change, h, mapError_error]

/-- When the directory has been made, the compiler is run. -/
theorem perform_run_of_made (h : (s.workspace.createDirectories c.buildRoot).1 = .ok ()) :
    let compiled := (compile launcher c found).perform
      { s with
        workspace := (s.workspace.createDirectories c.buildRoot).2
        notes := s.notes ++ sourceRemarks c s.workspace }
    (run launcher c).perform s = (compiled.1.mapError Halt.error, compiled.2) := by
  intro compiled
  have hcompiled : compiled = (compile launcher c found).perform _ := rfl
  have hremarks : (Act.remarkOn (sourceRemarks c) : Act (Halt BuildError) Unit).perform s =
      (.ok (), { s with notes := s.notes ++ sourceRemarks c s.workspace }) := rfl
  simp only [run, Act.perform_bind, hremarks, Act.perform_look, hfound, makeDirectory,
    Act.perform_within, Act.perform_change, h, Except.mapError, ← hcompiled]
  obtain ⟨answer, left⟩ := compiled
  cases answer <;> rfl

end

/-- The compiler is supervised, and its end is judged. -/
theorem perform_compile (launcher : Child.Launcher) (c : Config) (found : List Path)
    (s : Session) :
    let command := compilerCommand c found c.buildRoot
    let compiled := Child.supervised launcher s.commands command c.buildLimit s.workspace
    let done := (compile launcher c found).perform s
    done.1 = (compiled.1.mapError BuildError.supervision).bind (judge c found.length) ∧
      done.2.workspace = compiled.2 ∧
      done.2.commands = Child.handedOver launcher s.commands command s.workspace := by
  intro command compiled done
  let noted : Session := { s with notes := s.notes ++ [compileRemark c found] }
  obtain ⟨hcompiled, hcommands⟩ :=
    Child.perform_supervise launcher command c.buildLimit noted
  have hdone : done = (compile launcher c found).perform s := rfl
  have hnoted : (Act.note (compileRemark c found) : Act BuildError Unit).perform s =
      (.ok (), noted) := rfl
  simp only [compile, Act.perform_bind, hnoted, Act.perform_within] at hdone
  -- Judging reads the outcome only, so what the supervision left is what the build leaves.
  generalize (Child.supervise launcher command c.buildLimit).perform noted = result
    at hcompiled hcommands hdone
  obtain ⟨answer, left⟩ := result
  have hend : compiled = (answer, left.workspace) := hcompiled.symm
  rw [hend, hdone]
  cases answer with
  | error e => exact ⟨rfl, rfl, hcommands⟩
  | ok outcome =>
    simp only [Act.perform_look, mapError_ok, Except.bind]
    cases judge c found.length outcome with
    | error e => exact ⟨rfl, rfl, hcommands⟩
    | ok report => exact ⟨rfl, rfl, hcommands⟩

/-- What running the compiler over the sources comes to, in a build that found these files when it
had made its directory. -/
structure Compiled (launcher : Child.Launcher) (c : Config) (found : List Path)
    (made : Workspace) (commands : List Child.Command)
    (done : Except BuildError BuildReport × Session) : Prop where
  /-- The compiler is handed over once, unless the directory it starts in is not there or no file
  can be made for its error stream. -/
  commands_eq :
    (Child.checkDirectory (compilerCommand c found c.buildRoot) made ≠ .ok () ∨
        launcher.spool commands made ≠ .ok ()) ∧ done.2.commands = commands ∨
      Child.checkDirectory (compilerCommand c found c.buildRoot) made = .ok () ∧
        launcher.spool commands made = .ok () ∧
        done.2.commands = commands ++ [compilerCommand c found c.buildRoot]
  /-- The files are left as they were found, or as the compiler leaves them. -/
  workspace_eq : done.2.workspace = made ∨
    ∃ running,
      Child.Started launcher commands (compilerCommand c found c.buildRoot) made running ∧
        done.2.workspace = (running.ended c.buildLimit).workspace
  ok_iff : ∀ report, done.1 = .ok report ↔
    report = ⟨found.length, c.buildRoot⟩ ∧ ∃ running stderr,
      Child.Started launcher commands (compilerCommand c found c.buildRoot) made running ∧
        running.schedule.Ends c.buildLimit (.exited 0) ∧
        (running.ended c.buildLimit).stderr = .ok stderr
  timedOut_iff : ∀ compiler limit, done.1 = .error (.timedOut compiler limit) ↔
    compiler = c.compiler ∧ ∃ running stderr,
      Child.Started launcher commands (compilerCommand c found c.buildRoot) made running ∧
        running.schedule.RunsOut c.buildLimit limit ∧
        (running.ended c.buildLimit).stderr = .ok stderr
  /-- The error quotes the last lines of what the compiler wrote that are not blank. -/
  compilerFailed_iff : ∀ compiler status report,
    done.1 = .error (.compilerFailed compiler status report) ↔
      compiler = c.compiler ∧ ∃ running stderr,
        Child.Started launcher commands (compilerCommand c found c.buildRoot) made running ∧
          (∃ exit, (running.schedule.Ends c.buildLimit exit ∧ exit ≠ .exited 0) ∧
            status = exit.status) ∧
          (running.ended c.buildLimit).stderr = .ok stderr ∧
          report = Child.tail (Text.decodeLossy stderr) reportLines
  /-- The compiler was not started, could not be waited for, or its error stream cannot be read
  back, however it ended. -/
  supervision_iff : ∀ e, done.1 = .error (.supervision e) ↔
    Child.Unstarted launcher commands (compilerCommand c found c.buildRoot) made e ∨
      ∃ running,
        Child.Started launcher commands (compilerCommand c found c.buildRoot) made running ∧
          running.Lost c.buildLimit (compilerCommand c found c.buildRoot).shownProgram e
  /-- No error of an earlier stage is returned. -/
  error_cases : ∀ e, done.1 = .error e →
    (∃ error, e = .supervision error) ∨ (∃ compiler limit, e = .timedOut compiler limit) ∨
      ∃ compiler status report, e = .compilerFailed compiler status report

/-! ### What the end of the compiler means -/

section
variable {count : Nat} {outcome : Child.Outcome}

theorem judge_eq_timedOut_iff {compiler : String} {limit : Duration} :
    judge c count outcome = .error (.timedOut compiler limit) ↔
      compiler = c.compiler ∧ outcome.status = .timedOut limit := by
  unfold judge
  split <;> simp_all [eq_comm]

theorem judge_of_exit {exit : Child.Exit} (hexit : exit ≠ .exited 0)
    (h : outcome.status = exit.status) :
    judge c count outcome =
      .error (.compilerFailed c.compiler exit.status (outcome.stderrTail reportLines)) := by
  rw [judge, h]
  split
  · next hzero =>
    have hstatus : exit.status = (Child.Exit.exited 0).status := hzero
    exact absurd (Child.Exit.status_injective hstatus) hexit
  · next limit hlimit => exact absurd hlimit (exit.status_ne_timedOut limit)
  · rfl

/-- Every end of the compiler is judged in one of three ways. -/
theorem judge_cases (c : Config) (count : Nat) (outcome : Child.Outcome) :
    judge c count outcome = .ok ⟨count, c.buildRoot⟩ ∨
      (∃ limit, judge c count outcome = .error (.timedOut c.compiler limit)) ∨
      ∃ exit : Child.Exit, (exit ≠ .exited 0 ∧ outcome.status = exit.status) ∧
        judge c count outcome =
          .error (.compilerFailed c.compiler exit.status (outcome.stderrTail reportLines)) := by
  obtain ⟨exit, hexit⟩ | ⟨limit, hlimit⟩ := outcome.status.cases
  · by_cases hzero : exit = .exited 0
    · exact .inl (judge_eq_ok_iff.mpr ⟨by rw [hexit, hzero]; rfl, rfl⟩)
    · exact .inr (.inr ⟨exit, ⟨hzero, hexit⟩, judge_of_exit hzero hexit⟩)
  · exact .inr (.inl ⟨limit, judge_eq_timedOut_iff.mpr ⟨rfl, hlimit⟩⟩)

end

/-! ### What running the compiler comes to -/

section
variable {running : Child.Running} (h : Child.Started launcher s.commands
  (compilerCommand c found c.buildRoot) s.workspace running)
include h

theorem answer_compile :
    let program := (compilerCommand c found c.buildRoot).shownProgram
    ((compile launcher c found).perform s).1 =
      match (running.schedule.watch c.buildLimit).answer,
          (running.ended c.buildLimit).stderr with
      | .error fault, _ => .error (.supervision (.wait program fault))
      | .ok _, .error fault => .error (.supervision (.capture program fault))
      | .ok status, .ok stderr => judge c found.length ⟨status, Text.decodeLossy stderr⟩ := by
  intro program
  have hended : (running.ended c.buildLimit).answer =
      (running.schedule.watch c.buildLimit).answer := rfl
  rw [(perform_compile launcher c found s).1, h.supervised_eq]
  dsimp only [Child.Ended.outcome]
  rw [hended]
  cases (running.schedule.watch c.buildLimit).answer with
  | error fault => rfl
  | ok status => cases (running.ended c.buildLimit).stderr <;> rfl

theorem compile_eq_ok_iff {report : BuildReport} :
    ((compile launcher c found).perform s).1 = .ok report ↔
      report = ⟨found.length, c.buildRoot⟩ ∧ ∃ stderr,
        running.schedule.Ends c.buildLimit (.exited 0) ∧
          (running.ended c.buildLimit).stderr = .ok stderr := by
  rw [answer_compile h, ← Child.Schedule.answer_ended_iff]
  cases (running.schedule.watch c.buildLimit).answer with
  | error fault => simp
  | ok status =>
    cases (running.ended c.buildLimit).stderr with
    | error fault => simp
    | ok stderr => simp [judge_eq_ok_iff, and_comm, Child.Exit.status]

theorem compile_eq_timedOut_iff {compiler : String} {limit : Duration} :
    ((compile launcher c found).perform s).1 = .error (.timedOut compiler limit) ↔
      compiler = c.compiler ∧ ∃ stderr, running.schedule.RunsOut c.buildLimit limit ∧
        (running.ended c.buildLimit).stderr = .ok stderr := by
  rw [answer_compile h, ← Child.Schedule.answer_timedOut_iff]
  cases (running.schedule.watch c.buildLimit).answer with
  | error fault => simp
  | ok status =>
    cases (running.ended c.buildLimit).stderr with
    | error fault => simp
    | ok stderr => simp [judge_eq_timedOut_iff]

theorem compile_eq_compilerFailed_iff {compiler : String} {status : Child.Status}
    {report : String} :
    ((compile launcher c found).perform s).1 = .error (.compilerFailed compiler status report) ↔
      compiler = c.compiler ∧ ∃ stderr,
        (∃ exit, (running.schedule.Ends c.buildLimit exit ∧ exit ≠ .exited 0) ∧
          status = exit.status) ∧
        (running.ended c.buildLimit).stderr = .ok stderr ∧
        report = Child.tail (Text.decodeLossy stderr) reportLines := by
  rw [answer_compile h]
  simp only [← Child.Schedule.answer_ended_iff]
  cases (running.schedule.watch c.buildLimit).answer with
  | error fault => simp
  | ok ended =>
    cases (running.ended c.buildLimit).stderr with
    | error fault => simp
    | ok stderr =>
      dsimp only
      rcases judge_cases c found.length ⟨ended, Text.decodeLossy stderr⟩ with
        hok | ⟨limit, hlimit⟩ | ⟨exit, ⟨hexit, hended⟩, hjudged⟩
      · have hzero : ended = .exited 0 := (judge_eq_ok_iff.mp hok).1
        simp only [hok, reduceCtorEq, false_iff, not_and, not_exists]
        rintro - _ ⟨exit, ⟨hends, hexit⟩, -⟩
        exact absurd (Child.Exit.status_injective (hzero.symm.trans (Except.ok.inj hends)).symm)
          hexit
      · have hlate : ended = .timedOut limit := (judge_eq_timedOut_iff.mp hlimit).2
        simp only [hlimit, Except.error.injEq, reduceCtorEq, false_iff, not_and, not_exists]
        rintro - _ ⟨exit, ⟨hends, -⟩, -⟩
        exact absurd ((Except.ok.inj hends).symm.trans hlate) (exit.status_ne_timedOut limit)
      · rw [hjudged]
        have hstatus : ended = exit.status := hended
        constructor
        · intro hfailed
          cases hfailed
          exact ⟨rfl, stderr, ⟨exit, ⟨congrArg Except.ok hstatus, hexit⟩, rfl⟩, rfl,
            rfl⟩
        · rintro ⟨rfl, other, ⟨exit', ⟨hends, -⟩, rfl⟩, hother, rfl⟩
          cases hother
          rw [← hstatus, Except.ok.inj hends]
          rfl

theorem compile_eq_supervision_iff {error : Child.SupervisionError} :
    ((compile launcher c found).perform s).1 = .error (.supervision error) ↔
      running.Lost c.buildLimit (compilerCommand c found c.buildRoot).shownProgram error := by
  rw [(perform_compile launcher c found s).1, h.supervised_eq, Child.Running.lost_iff]
  cases (running.ended c.buildLimit).outcome (compilerCommand c found c.buildRoot).shownProgram with
  | error e => simp [Except.bind]
  | ok outcome =>
    rcases judge_cases c found.length outcome with hok | ⟨limit, hlimit⟩ | ⟨exit, -, hexit⟩
    · simp [Except.bind, hok]
    · simp [Except.bind, hlimit]
    · simp [Except.bind, hexit]

end

/-- The compiler is handed over when it has a directory to start in and a file for its errors. -/
theorem handedOver_cases (launcher : Child.Launcher) (commands : List Child.Command)
    (command : Child.Command) (ws : Workspace) :
    (Child.checkDirectory command ws ≠ .ok () ∨ launcher.spool commands ws ≠ .ok ()) ∧
        Child.handedOver launcher commands command ws = commands ∨
      Child.checkDirectory command ws = .ok () ∧ launcher.spool commands ws = .ok () ∧
        Child.handedOver launcher commands command ws = commands ++ [command] := by
  unfold Child.handedOver
  cases Child.checkDirectory command ws with
  | error e => simp
  | ok _ => cases launcher.spool commands ws <;> simp

theorem compiled_of_started {running : Child.Running}
    (h : Child.Started launcher s.commands (compilerCommand c found c.buildRoot) s.workspace
      running) :
    Compiled launcher c found s.workspace s.commands ((compile launcher c found).perform s) := by
  obtain ⟨-, hworkspace, hcommands⟩ := perform_compile launcher c found s
  -- A command starts at most one child, so what holds of some started child holds of this one.
  have honly : ∀ {P : Child.Running → Prop},
      (∃ other, Child.Started launcher s.commands (compilerCommand c found c.buildRoot)
        s.workspace other ∧ P other) ↔ P running := by
    refine ⟨fun ⟨other, hother, hp⟩ => ?_, fun hp => ⟨running, h, hp⟩⟩
    rwa [h.unique hother]
  constructor
  case commands_eq =>
    rw [hcommands]
    exact handedOver_cases ..
  case workspace_eq =>
    rw [h.supervised_eq] at hworkspace
    exact .inr ⟨running, h, hworkspace⟩
  case ok_iff =>
    intro report
    simp only [compile_eq_ok_iff h, exists_and_left, honly]
  case timedOut_iff =>
    intro compiler limit
    simp only [compile_eq_timedOut_iff h, exists_and_left, honly]
  case compilerFailed_iff =>
    intro compiler status report
    simp only [compile_eq_compilerFailed_iff h, exists_and_left, honly]
  case supervision_iff =>
    intro e
    rw [compile_eq_supervision_iff h, honly, or_iff_right h.not_unstarted]
  case error_cases =>
    intro e he
    rw [answer_compile h] at he
    cases hanswer : (running.schedule.watch c.buildLimit).answer with
    | error fault =>
      rw [hanswer] at he
      exact .inl ⟨_, (Except.error.inj he).symm⟩
    | ok status =>
      cases hstderr : (running.ended c.buildLimit).stderr with
      | error fault =>
        rw [hanswer, hstderr] at he
        exact .inl ⟨_, (Except.error.inj he).symm⟩
      | ok stderr =>
        rw [hanswer, hstderr] at he
        rcases judge_cases c found.length ⟨status, Text.decodeLossy stderr⟩ with
          hok | ⟨limit, hlimit⟩ | ⟨exit, -, hexit⟩
        · cases hok.symm.trans he
        · exact .inr (.inl ⟨_, _, Except.error.inj (he.symm.trans hlimit)⟩)
        · exact .inr (.inr ⟨_, _, _, Except.error.inj (he.symm.trans hexit)⟩)

theorem compiled_of_unstarted {error : Child.SupervisionError}
    (h : Child.Unstarted launcher s.commands (compilerCommand c found c.buildRoot) s.workspace
      error) :
    Compiled launcher c found s.workspace s.commands ((compile launcher c found).perform s) := by
  obtain ⟨hanswer, hworkspace, hcommands⟩ := perform_compile launcher c found s
  rw [h.supervised_eq] at hanswer hworkspace
  have hdone : ((compile launcher c found).perform s).1 = .error (.supervision error) := hanswer
  have hnone : ∀ running, ¬ Child.Started launcher s.commands
      (compilerCommand c found c.buildRoot) s.workspace running :=
    fun running hstarted => hstarted.not_unstarted h
  constructor
  case commands_eq =>
    rw [hcommands]
    exact handedOver_cases ..
  case workspace_eq => exact .inl hworkspace
  case ok_iff => simp [hdone, hnone]
  case timedOut_iff => simp [hdone, hnone]
  case compilerFailed_iff => simp [hdone, hnone]
  case supervision_iff =>
    intro e
    rw [hdone]
    refine ⟨fun heq => ?_, ?_⟩
    · cases heq
      exact .inl h
    · rintro (hother | ⟨running, hstarted, -⟩)
      · rw [h.unique hother]
      · exact absurd hstarted (hnone running)
  case error_cases =>
    intro e he
    exact .inl ⟨error, Except.error.inj (he.symm.trans hdone)⟩

theorem compiled_compile (launcher : Child.Launcher) (c : Config) (found : List Path)
    (s : Session) :
    Compiled launcher c found s.workspace s.commands ((compile launcher c found).perform s) := by
  obtain ⟨running, h⟩ | ⟨e, h⟩ := Child.started_or_unstarted launcher s.commands
    (compilerCommand c found c.buildRoot) s.workspace
  · exact compiled_of_started h
  · exact compiled_of_unstarted h

/-! ### All stages -/

/-- A build with a compiler that was started but is lost. -/
theorem run_eq_of_lost {running : Child.Running} {error : Child.SupervisionError}
    (hfound : sources c s.workspace = .ok found)
    (hmade : (s.workspace.createDirectories c.buildRoot).1 = .ok ())
    (hstarted : Child.Started launcher s.commands (compilerCommand c found c.buildRoot)
      (s.workspace.createDirectories c.buildRoot).2 running)
    (hlost : running.Lost c.buildLimit (compilerCommand c found c.buildRoot).shownProgram error) :
    ((run launcher c).perform s).1 = .error (.error (.supervision error)) := by
  rw [perform_run_of_made hfound hmade]
  exact congrArg (Except.mapError Halt.error) ((compile_eq_supervision_iff hstarted).mpr hlost)

/-- A build goes through its stages in their order. When there is a reason why there are no
sources, the build returns it, with all files as they were and without a command. Otherwise, with a
pattern that compiles, the sources are collected, and then the build directory is made, with those
on the way to it, which is all that a build changes itself. When it cannot be made, the build
returns that fault without a command. When it has been made it is there, and the compiler is run on
the sources as they were collected before. -/
theorem run_in_stages (launcher : Child.Launcher) (c : Config) (s : Session) :
    let made := s.workspace.createDirectories c.buildRoot
    let done := (run launcher c).perform s
    (∀ e, Unsourced c s.workspace e →
      done = (.error (.error e), { s with notes := s.notes ++ sourceRemarks c s.workspace })) ∧
    (∀ pattern, c.sourcePattern = .ok pattern → (∀ e, ¬ Unsourced c s.workspace e) →
      ∃ found, (Collected c pattern s.workspace found ∧ found ≠ []) ∧
        (∀ fault, made.1 = .error fault →
          done.1 = .error (.error (.directory c.buildRoot fault)) ∧ done.2.workspace = made.2 ∧
            done.2.commands = s.commands) ∧
        (made.1 = .ok () → made.2.HoldsDirectory c.buildRoot ∧
          ∃ answer, done.1 = answer.mapError Halt.error ∧
            Compiled launcher c found made.2 s.commands (answer, done.2))) ∧
    Workspace.Grown (c.buildRoot :: c.buildRoot.ancestors) s.workspace made.2 ∧
    (launcher.Idle → Workspace.Grown (c.buildRoot :: c.buildRoot.ancestors) s.workspace
      done.2.workspace) := by
  intro made done
  refine ⟨fun e he => perform_run_of_error (sources_of_unsourced he),
    fun pattern hpattern hsourced => ?_, Workspace.grown_createDirectories s.workspace c.buildRoot,
    fun hidle => keeps_run hidle c s⟩
  obtain ⟨e, he⟩ | ⟨found, hfound, hcollected, hne⟩ :=
    unsourced_or_collected hpattern s.workspace
  · exact absurd he (hsourced e)
  · refine ⟨found, ⟨hcollected, hne⟩, fun fault hfault => ?_, fun hmade => ?_⟩
    · have hdone : done = _ := perform_run_of_unmade hfound hfault
      rw [hdone]
      exact ⟨rfl, rfl, rfl⟩
    · have hdone : done = _ := perform_run_of_made hfound hmade
      refine ⟨Workspace.holdsDirectory_of_createDirectories (Prod.ext hmade rfl), ?_⟩
      rw [hdone]
      exact ⟨_, rfl, compiled_compile launcher c found
        { s with workspace := made.2, notes := s.notes ++ sourceRemarks c s.workspace }⟩

/-! ### An error stream that is lost -/

/-- Children that end at once with exit code zero, and whose error stream cannot be read back. -/
def unheardLauncher : Child.Launcher where
  launch _ _ ws := .ok
    { schedule := .instant (.exited 0), remains := fun _ => ⟨.error (.system 5), ws⟩ }

def oneSource : Workspace where
  tree :=
    { entries := [(["src"], .directory), (["src", "A.java"], .file [])]
      distinct := by decide
      rooted := by decide
      parented := by decide
      named := by decide }
  here := []

/-- A compiler that is started and ends with exit code zero is not enough: when its error stream
cannot be read back the build fails, and not because the compiler could not be run. -/
theorem unheard_compiler_fails :
    let made := (oneSource.createDirectories ({} : Config).buildRoot).2
    let command := compilerCommand {} [⟨"./src/A.java"⟩] ({} : Config).buildRoot
    (∃ running, Child.Started unheardLauncher [] command made running ∧
      running.schedule.Ends ({} : Config).buildLimit (.exited 0)) ∧
    ((run unheardLauncher {}).perform ⟨oneSource, [], []⟩).1 =
      .error (.error (.supervision (.capture "javac" (.system 5)))) := by
  intro made command
  have hfound : sources {} oneSource = .ok [⟨"./src/A.java"⟩] :=
    eq_ok_of_toOption (by decide +kernel)
  have hmade : (oneSource.createDirectories ({} : Config).buildRoot).1 = .ok () :=
    eq_ok_of_toOption (by decide +kernel)
  have hstarted : Child.Started unheardLauncher [] command made
      ⟨.instant (.exited 0), fun _ => ⟨.error (.system 5), made⟩⟩ := by
    refine ⟨eq_ok_of_toOption (by decide +kernel), rfl, ?_⟩
    rw [Child.Command.start, if_neg (by decide +kernel)]
    rfl
  have hends := Child.Schedule.ends_instant (.exited 0) ({} : Config).buildLimit
  refine ⟨⟨_, hstarted, hends⟩, ?_⟩
  exact run_eq_of_lost (s := ⟨oneSource, [], []⟩) hfound hmade hstarted
    (.capture (fun fault => hends.not_unwaited) rfl)

end GoldenSuite.Build
