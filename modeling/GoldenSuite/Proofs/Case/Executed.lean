import GoldenSuite.Proofs.Case.Isolation
import GoldenSuite.Proofs.Session.Effects
import GoldenSuite.Proofs.Workspace.Cleaning
import GoldenSuite.Suite.Toolchain

/-!
# What an execution comes to

An execution that has old output removed first comes down to two functions of the files: what is
left when the output is gone, and what the child makes of that. The commands and the notes that
it hands on have no part in its answer.
-/

namespace GoldenSuite

open FileTree

/-! ### Children -/

namespace Child

/-- How the waiting for a child ended, and what the child left. -/
structure Ended where
  answer : Except Fault Status
  stderr : Except Fault Bytes
  workspace : Workspace

namespace Ended

def outcome (program : String) (ended : Ended) : Except SupervisionError Outcome :=
  match ended.answer, ended.stderr with
  | .error fault, _ => .error (.wait program fault)
  | .ok _, .error fault => .error (.capture program fault)
  | .ok status, .ok stderr => .ok ⟨status, Text.decodeLossy stderr⟩

/-- All that a child leaves but the files. -/
def told (ended : Ended) : Except Fault Status × Except Fault Bytes :=
  (ended.answer, ended.stderr)

theorem outcome_congr {ended ended' : Ended} (h : ended.told = ended'.told) (program : String) :
    ended.outcome program = ended'.outcome program := by
  obtain ⟨hanswer, hstderr⟩ := Prod.mk.inj h
  rw [outcome, outcome, hanswer, hstderr]

end Ended

/-- What a running child comes to under a limit. -/
def Running.ended (running : Running) (limit : Option Duration) : Ended :=
  let watch := running.schedule.watch limit
  let remains := running.remains watch.killed
  ⟨watch.answer, remains.stderr, remains.workspace⟩

/-- Starts a command, with a file for its error stream, and waits for the child, no longer than
the limit when there is one. -/
def Launcher.ended (launcher : Launcher) (before : List Command) (command : Command)
    (limit : Option Duration) (ws : Workspace) : Except SupervisionError Ended := do
  (launcher.spool before ws).mapError (SupervisionError.capture command.shownProgram)
  let running ← (command.start launcher before ws).mapError
    (SupervisionError.spawn command.shownProgram)
  pure (running.ended limit)

/-- The answer of a supervision and the files that it leaves. -/
def supervised (launcher : Launcher) (before : List Command) (command : Command)
    (limit : Option Duration) (ws : Workspace) : Except SupervisionError Outcome × Workspace :=
  match checkDirectory command ws, launcher.ended before command limit ws with
  | .error e, _ => (.error e, ws)
  | .ok _, .error e => (.error e, ws)
  | .ok _, .ok ended => (ended.outcome command.shownProgram, ended.workspace)

/-- The commands that have been handed over after a supervision. -/
def handedOver (launcher : Launcher) (before : List Command) (command : Command)
    (ws : Workspace) : List Command :=
  match checkDirectory command ws, launcher.spool before ws with
  | .ok _, .ok _ => before ++ [command]
  | _, _ => before

theorem perform_attend (running : Running) (program : String) (limit : Option Duration)
    (s : Session) :
    let done := (attend program limit running).perform s
    done.1 = (running.ended limit).outcome program ∧
      done.2.workspace = (running.ended limit).workspace ∧ done.2.commands = s.commands := by
  intro done
  have hdone : done = (attend program limit running).perform s := rfl
  simp only [attend, Act.perform_bind, Act.perform_change, Act.perform_look,
    Act.perform_remark] at hdone
  rw [hdone]
  simp only [Running.ended, Ended.outcome]
  cases (running.schedule.watch limit).answer with
  | error fault => exact ⟨rfl, rfl, rfl⟩
  | ok status =>
    cases (running.remains (running.schedule.watch limit).killed).stderr <;> exact ⟨rfl, rfl, rfl⟩

theorem perform_supervise (launcher : Launcher) (command : Command) (limit : Option Duration)
    (s : Session) :
    let done := (supervise launcher command limit).perform s
    (done.1, done.2.workspace) = supervised launcher s.commands command limit s.workspace ∧
      done.2.commands = handedOver launcher s.commands command s.workspace := by
  intro done
  have hdone : done = (supervise launcher command limit).perform s := rfl
  simp only [supervise, Act.perform_bind, Act.perform_look, Act.perform_handed, Act.note,
    Act.perform_remark, Act.perform_record] at hdone
  rw [hdone, supervised, handedOver, Launcher.ended]
  cases checkDirectory command s.workspace with
  | error e => exact ⟨rfl, rfl⟩
  | ok _ =>
    dsimp only
    cases launcher.spool s.commands s.workspace with
    | error fault => exact ⟨rfl, rfl⟩
    | ok _ =>
      dsimp only [mapError_ok]
      cases command.start launcher s.commands s.workspace with
      | error fault => exact ⟨rfl, rfl⟩
      | ok running =>
        obtain ⟨hanswer, hworkspace, hcommands⟩ :=
          perform_attend running command.shownProgram limit
            ⟨s.workspace, s.commands ++ [command], _⟩
        exact ⟨Prod.ext hanswer hworkspace, hcommands⟩

section
variable {launcher : Launcher} {before before' : List Command} {command : Command}
  {limit : Option Duration} {ws ws' : Workspace}

theorem supervised_cases (launcher : Launcher) (before : List Command) (command : Command)
    (limit : Option Duration) (ws : Workspace) :
    (supervised launcher before command limit ws).2 = ws ∨
      ∃ ended, launcher.ended before command limit ws = .ok ended ∧
        (supervised launcher before command limit ws).2 = ended.workspace := by
  unfold supervised
  split
  · exact .inl rfl
  · exact .inl rfl
  · next ended _ hended => exact .inr ⟨ended, hended, rfl⟩

/-- When children tell the same and leave related files, so do their supervisions. -/
theorem supervised_congr (related : Workspace → Workspace → Prop)
    (hdir : checkDirectory command ws = checkDirectory command ws')
    (htold : (launcher.ended before command limit ws).map Ended.told =
      (launcher.ended before' command limit ws').map Ended.told)
    (hfound : related ws ws')
    (hleft : ∀ ended ended', launcher.ended before command limit ws = .ok ended →
      launcher.ended before' command limit ws' = .ok ended' →
        related ended.workspace ended'.workspace) :
    (supervised launcher before command limit ws).1 =
        (supervised launcher before' command limit ws').1 ∧
      related (supervised launcher before command limit ws).2
        (supervised launcher before' command limit ws').2 := by
  unfold supervised
  rw [hdir]
  cases checkDirectory command ws' with
  | error e => exact ⟨rfl, hfound⟩
  | ok _ =>
    cases hended : launcher.ended before command limit ws with
    | error e =>
      cases hended' : launcher.ended before' command limit ws' with
      | error e' =>
        rw [hended, hended'] at htold
        cases htold
        exact ⟨rfl, hfound⟩
      | ok ended' =>
        rw [hended, hended'] at htold
        cases htold
    | ok ended =>
      cases hended' : launcher.ended before' command limit ws' with
      | error e' =>
        rw [hended, hended'] at htold
        cases htold
      | ok ended' =>
        rw [hended, hended'] at htold
        exact ⟨Ended.outcome_congr (Except.ok.inj htold) _, hleft ended ended' hended hended'⟩

end

end Child

/-! ### Executions after a cleaning -/

namespace Execution

variable {launcher : Child.Launcher} {c : Config} {case : TestCase} {ws : Workspace} {there : Bool}

theorem perform_clean (h : (removeOutput case.output ws).1 = .ok there) (s : Session)
    (hs : s.workspace = ws) :
    ∃ left, (clean case).perform s = (.ok (), left) ∧
      left.workspace = (removeOutput case.output ws).2 ∧ left.commands = s.commands := by
  subst hs
  rw [clean, Act.perform_bind, Act.perform_change, h]
  cases there with
  | false => exact ⟨_, rfl, rfl, rfl⟩
  | true => exact ⟨_, rfl, rfl, rfl⟩

theorem execute_of_cleaned (hclean : c.cleanOutputs = true)
    (hcleaned : (removeOutput case.output ws).1 = .ok there) (tools : List Child.Command) :
    let reply := (Toolchain.external launcher).execute c case ws tools
    let left := (removeOutput case.output ws).2
    let done := Child.supervised launcher tools (simulatorCommand c case) c.testLimit left
    reply.answer = (done.1.mapError ExecutionError.supervision).mapError
        (fun e => .error e.diagnostic) ∧
      reply.workspace = done.2 := by
  intro reply left done
  obtain ⟨mid, hmid, hleft, hcommands⟩ := perform_clean hcleaned ⟨ws, tools, []⟩ rfl
  obtain ⟨hdone, -⟩ :=
    Child.perform_supervise launcher (simulatorCommand c case) c.testLimit mid
  rw [hleft, hcommands] at hdone
  have hrun : (run launcher c case).perform ⟨ws, tools, []⟩ =
      ((Child.supervise launcher (simulatorCommand c case) c.testLimit).within
        ExecutionError.supervision >>= fun outcome => do
          Act.note (endRemark case outcome)
          pure outcome).perform mid := by
    rw [run, if_pos hclean, Act.perform_bind, hmid]
  rw [Act.perform_bind, Act.perform_within] at hrun
  generalize (Child.supervise launcher (simulatorCommand c case) c.testLimit).perform mid =
    supervised at hdone hrun
  obtain ⟨answer, after⟩ := supervised
  have hend : done = (answer, after.workspace) := hdone.symm
  simp only [hend, reply, Toolchain.external, Toolchain.reply, hrun]
  cases answer <;> exact ⟨rfl, rfl⟩

end Execution

end GoldenSuite
