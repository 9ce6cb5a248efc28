import GoldenSuite.Proofs.Case.Executed
import GoldenSuite.Proofs.Child.Deadline

/-!
# Children that are started

A command is started or there is one reason why it is not. A child that was started ends within
its limit, is killed at the limit, or cannot be waited for; one of the three holds, and it tells
the answer of the supervision.
-/

namespace GoldenSuite.Child

/-! ### How a child ends -/

namespace Schedule

variable {s : Schedule} {limit : Duration} {n : Nat} {limit? : Option Duration} {exit : Exit}
  {fault : Fault}

/-- The child is found to have ended like this, within the limit when there is one. -/
def Ends (s : Schedule) : Option Duration → Exit → Prop
  | none, exit => s.ending = .ok exit
  | some limit, exit => ∃ n, s.LastPoll limit n ∧ s.poll n = .ended exit

/-- The child is killed at the limit and then waited for. -/
def RunsOut (s : Schedule) : Option Duration → Duration → Prop
  | none, _ => False
  | some limit, time =>
    time = limit ∧ (s.watch (some limit)).killed ≠ none ∧ s.reaped = .ok ()

/-- The child cannot be polled, or cannot be waited for at its end or after a kill. -/
def Unwaited (s : Schedule) : Option Duration → Fault → Prop
  | none, fault => s.ending = .error fault
  | some limit, fault =>
    ∃ n, s.LastPoll limit n ∧
      (s.poll n = .failed fault ∨ s.Late limit n ∧ s.reaped = .error fault)

theorem LastPoll.killed_iff (h : s.LastPoll limit n) :
    (s.watch (some limit)).killed ≠ none ↔ s.Late limit n := by
  rcases h.cases with ⟨exit, hn⟩ | ⟨fault, hn⟩ | hn
  · simp [h.watch_of_ended hn, Watch.killed, Call.killed?, Late, hn]
  · simp [h.watch_of_failed hn, Watch.killed, Call.killed?, Late, hn]
  · simp [h.watch_of_late hn, Watch.killed, Call.killed?, hn]

theorem answer_ended_iff : (s.watch limit?).answer = .ok exit.status ↔ s.Ends limit? exit := by
  cases limit? with
  | none =>
    cases hending : s.ending with
    | error fault => simp [watch, Ends, hending, Except.map]
    | ok other => simp [watch, Ends, hending, Except.map, Exit.status_injective.eq_iff]
  | some limit =>
    constructor
    · intro hanswer
      obtain ⟨n, hlast⟩ := s.exists_lastPoll limit
      exact ⟨n, hlast, hlast.answer_ended_iff.mp hanswer⟩
    · rintro ⟨n, hlast, hn⟩
      exact hlast.answer_ended_iff.mpr hn

theorem answer_timedOut_iff {time : Duration} :
    (s.watch limit?).answer = .ok (.timedOut time) ↔ s.RunsOut limit? time := by
  cases limit? with
  | none =>
    cases hending : s.ending with
    | error fault => simp [watch, RunsOut, hending, Except.map]
    | ok other => simp [watch, RunsOut, hending, Except.map, other.status_ne_timedOut time]
  | some limit =>
    obtain ⟨n, hlast⟩ := s.exists_lastPoll limit
    rw [hlast.answer_timedOut_iff, RunsOut, hlast.killed_iff]

theorem answer_error_iff : (s.watch limit?).answer = .error fault ↔ s.Unwaited limit? fault := by
  cases limit? with
  | none => cases hending : s.ending <;> simp [watch, Unwaited, hending, Except.map]
  | some limit =>
    constructor
    · intro hanswer
      obtain ⟨n, hlast⟩ := s.exists_lastPoll limit
      exact ⟨n, hlast, hlast.answer_error_iff.mp hanswer⟩
    · rintro ⟨n, hlast, hn⟩
      exact hlast.answer_error_iff.mpr hn

/-- A child that ends in time is not killed. -/
theorem Ends.killed_eq (h : s.Ends limit? exit) : (s.watch limit?).killed = none := by
  cases limit? with
  | none => rfl
  | some limit =>
    obtain ⟨n, hlast, hn⟩ := h
    by_contra hkilled
    have hlate := hlast.killed_iff.mp hkilled
    rw [hlate.1] at hn
    cases hn

theorem Ends.not_unwaited (h : s.Ends limit? exit) : ¬ s.Unwaited limit? fault := by
  intro hunwaited
  cases (answer_ended_iff.mpr h).symm.trans (answer_error_iff.mpr hunwaited)

theorem ends_instant (exit : Exit) (limit? : Option Duration) :
    (instant exit).Ends limit? exit := by
  cases limit? with
  | none => rfl
  | some limit =>
    obtain ⟨n, hlast⟩ := (instant exit).exists_lastPoll limit
    exact ⟨n, hlast, rfl⟩

end Schedule

/-! ### Starting -/

variable {launcher : Launcher} {before : List Command} {command : Command}
  {limit : Option Duration} {ws : Workspace} {running : Running}

/-- A command is started in a directory that is there, with a file for its error stream. -/
structure Started (launcher : Launcher) (before : List Command) (command : Command)
    (ws : Workspace) (running : Running) : Prop where
  directory : checkDirectory command ws = .ok ()
  spool : launcher.spool before ws = .ok ()
  start : command.start launcher before ws = .ok running

/-- Why a command is not started: its directory is not there, no file can be made for its error
stream, or the system refuses it. -/
inductive Unstarted (launcher : Launcher) (before : List Command) (command : Command)
    (ws : Workspace) : SupervisionError → Prop
  | directory {e : SupervisionError} : checkDirectory command ws = .error e →
      Unstarted launcher before command ws e
  | spool {fault : Fault} : checkDirectory command ws = .ok () →
      launcher.spool before ws = .error fault →
      Unstarted launcher before command ws (.capture command.shownProgram fault)
  | start {fault : Fault} : checkDirectory command ws = .ok () →
      launcher.spool before ws = .ok () → command.start launcher before ws = .error fault →
      Unstarted launcher before command ws (.spawn command.shownProgram fault)

theorem started_or_unstarted (launcher : Launcher) (before : List Command) (command : Command)
    (ws : Workspace) :
    (∃ running, Started launcher before command ws running) ∨
      ∃ e, Unstarted launcher before command ws e := by
  cases hdir : checkDirectory command ws with
  | error e => exact .inr ⟨e, .directory hdir⟩
  | ok _ =>
    cases hspool : launcher.spool before ws with
    | error fault => exact .inr ⟨_, .spool hdir hspool⟩
    | ok _ =>
      cases hstart : command.start launcher before ws with
      | error fault => exact .inr ⟨_, .start hdir hspool hstart⟩
      | ok running => exact .inl ⟨running, hdir, hspool, hstart⟩

theorem Unstarted.supervised_eq {e : SupervisionError}
    (h : Unstarted launcher before command ws e) :
    supervised launcher before command limit ws = (.error e, ws) := by
  unfold supervised Launcher.ended
  cases h with
  | directory hdir => rw [hdir]
  | spool hdir hspool =>
    rw [hdir, hspool]
    rfl
  | start hdir hspool hstart =>
    rw [hdir, hspool, hstart]
    rfl

theorem Unstarted.unique {e e' : SupervisionError} (h : Unstarted launcher before command ws e)
    (h' : Unstarted launcher before command ws e') : e = e' := by
  have hsupervised : supervised launcher before command none ws = (.error e, ws) := h.supervised_eq
  rw [h'.supervised_eq] at hsupervised
  exact (Except.error.inj (congrArg Prod.fst hsupervised)).symm

theorem Started.supervised_eq (h : Started launcher before command ws running) :
    supervised launcher before command limit ws =
      ((running.ended limit).outcome command.shownProgram, (running.ended limit).workspace) := by
  unfold supervised Launcher.ended
  rw [h.directory, h.spool, h.start]
  rfl

theorem Started.handedOver_eq (h : Started launcher before command ws running) :
    handedOver launcher before command ws = before ++ [command] := by
  rw [handedOver, h.directory, h.spool]

theorem Started.unique {running' : Running} (h : Started launcher before command ws running)
    (h' : Started launcher before command ws running') : running = running' :=
  Except.ok.inj (h.start.symm.trans h'.start)

theorem Started.not_unstarted {e : SupervisionError}
    (h : Started launcher before command ws running) :
    ¬ Unstarted launcher before command ws e := by
  intro hunstarted
  cases hunstarted with
  | directory hdir => cases h.directory.symm.trans hdir
  | spool _ hspool => cases h.spool.symm.trans hspool
  | start _ _ hstart => cases h.start.symm.trans hstart

/-- What goes wrong with a child that was started: it cannot be waited for, or what it wrote as
errors cannot be read back. -/
inductive Running.Lost (running : Running) (limit : Option Duration) (program : String) :
    SupervisionError → Prop
  | wait {fault : Fault} : running.schedule.Unwaited limit fault →
      Lost running limit program (.wait program fault)
  | capture {fault : Fault} : (∀ other, ¬ running.schedule.Unwaited limit other) →
      (running.ended limit).stderr = .error fault →
      Lost running limit program (.capture program fault)

theorem Running.lost_iff {program : String} {e : SupervisionError} :
    running.Lost limit program e ↔ (running.ended limit).outcome program = .error e := by
  have hended : (running.ended limit).answer = (running.schedule.watch limit).answer := rfl
  unfold Ended.outcome
  constructor
  · intro hlost
    cases hlost with
    | wait hfault => rw [hended, Schedule.answer_error_iff.mpr hfault]
    | capture hwaited hfault =>
      cases hanswer : (running.schedule.watch limit).answer with
      | error other => exact absurd (Schedule.answer_error_iff.mp hanswer) (hwaited other)
      | ok status => rw [hended, hanswer, hfault]
  · intro heq
    cases hanswer : (running.schedule.watch limit).answer with
    | error fault =>
      rw [hended, hanswer] at heq
      cases heq
      exact .wait (Schedule.answer_error_iff.mp hanswer)
    | ok status =>
      cases hstderr : (running.ended limit).stderr with
      | error fault =>
        rw [hended, hanswer, hstderr] at heq
        cases heq
        refine .capture (fun other hother => ?_) hstderr
        cases hanswer.symm.trans (Schedule.answer_error_iff.mpr hother)
      | ok stderr =>
        rw [hended, hanswer, hstderr] at heq
        cases heq

end GoldenSuite.Child
