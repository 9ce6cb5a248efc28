import GoldenSuite.Build.Basic
import GoldenSuite.Case.Execution
import GoldenSuite.Proofs.Workspace.Growing
import GoldenSuite.Proofs.Workspace.Shrinking

/-!
# What steps do to the files

A step is built from smaller ones, and most of those leave the files as they are. What a build
does to the files is to make its directory, and what an execution does is to remove the output
directory of its case; the rest is up to the child processes.
-/

namespace GoldenSuite

namespace Act

variable {ε ε' α β : Type} {P : Workspace → Workspace → Prop}

/-! ### Performing -/

theorem perform_pure (a : α) (s : Session) :
    (pure a : Act ε α).perform s = (.ok a, s) := rfl

theorem perform_bind (act : Act ε α) (next : α → Act ε β) (s : Session) :
    (act >>= next).perform s =
      match act.perform s with
      | (.ok a, left) => (next a).perform left
      | (.error e, left) => (.error e, left) := by
  simp only [perform, EStateM.run, bind, EStateM.bind]
  cases act s <;> rfl

theorem perform_remark (notes : List Note) (s : Session) :
    (remark notes : Act ε Unit).perform s = (.ok (), { s with notes := s.notes ++ notes }) := rfl

theorem perform_handed (s : Session) :
    (handed : Act ε (List Child.Command)).perform s = (.ok s.commands, s) := rfl

theorem perform_record (command : Child.Command) (s : Session) :
    (record command : Act ε Unit).perform s =
      (.ok (), { s with commands := s.commands ++ [command] }) := rfl

theorem perform_within (wrap : ε → ε') (act : Act ε α) (s : Session) :
    (act.within wrap).perform s =
      match act.perform s with
      | (.ok a, left) => (.ok a, left)
      | (.error e, left) => (.error (wrap e), left) := by
  simp only [perform, EStateM.run, within, EStateM.adaptExcept]
  cases act s <;> rfl

/-! ### Keeping -/

/-- A relation between files before and after that does not care how many steps lie between. -/
structure Lasting (P : Workspace → Workspace → Prop) : Prop where
  refl : ∀ ws, P ws ws
  trans : ∀ {a b c}, P a b → P b c → P a c

/-- Whatever its answer, a step relates the files it finds to those it leaves. -/
def Keeps (P : Workspace → Workspace → Prop) (act : Act ε α) : Prop :=
  ∀ s, P s.workspace (act.perform s).2.workspace

theorem keeps_within {wrap : ε → ε'} {act : Act ε α} (h : Keeps P act) :
    Keeps P (act.within wrap) := by
  intro s
  have hact := h s
  rw [perform_within]
  generalize act.perform s = result at hact
  obtain ⟨answer, left⟩ := result
  cases answer <;> exact hact

theorem keeps_change {f : Workspace → Except ε α × Workspace} (h : ∀ ws, P ws (f ws).2) :
    Keeps P (change f) := by
  intro s
  rw [perform_change]
  exact h s.workspace

section
variable (hP : Lasting P)
include hP

theorem keeps_bind {act : Act ε α} {next : α → Act ε β} (hact : Keeps P act)
    (hnext : ∀ a, Keeps P (next a)) : Keeps P (act >>= next) := by
  intro s
  have hfirst := hact s
  rw [perform_bind]
  generalize act.perform s = result at hfirst
  obtain ⟨answer, left⟩ := result
  cases answer with
  | error e => exact hfirst
  | ok a => exact hP.trans hfirst (hnext a left)

theorem keeps_pure (a : α) : Keeps P (pure a : Act ε α) :=
  fun s => hP.refl s.workspace

theorem keeps_remark (notes : List Note) : Keeps P (remark notes : Act ε Unit) :=
  fun s => hP.refl s.workspace

theorem keeps_remarkOn (remarks : Workspace → List Note) :
    Keeps P (remarkOn remarks : Act ε Unit) :=
  fun s => hP.refl s.workspace

theorem keeps_look (question : Workspace → Except ε α) : Keeps P (look question) := by
  intro s
  rw [perform_look]
  exact hP.refl s.workspace

end

end Act

/-! ### Children that change nothing -/

namespace Child

/-- A child that has ended when it is first looked at. -/
def Schedule.instant (exit : Exit) : Schedule where
  poll := fun _ => .ended exit
  clock := fun n => ⟨n * interval⟩
  ending := .ok exit
  reaped := .ok ()
  clock_advances := fun n => Nat.le_of_eq (Nat.succ_mul n interval).symm

/-- Children that leave the files as they found them, however they end. -/
def Launcher.Idle (launcher : Launcher) : Prop :=
  ∀ before command ws running, launcher.launch before command ws = .ok running →
    ∀ killed, (running.remains killed).workspace = ws

theorem workspace_attend {running : Running} {s : Session} (program : String)
    (limit : Option Duration) (h : ∀ killed, (running.remains killed).workspace = s.workspace) :
    ((attend program limit running).perform s).2.workspace = s.workspace := by
  simp only [attend, Act.perform_bind, Act.perform_change, Act.perform_look, Act.perform_remark, h]
  cases (running.schedule.watch limit).answer with
  | error fault => rfl
  | ok status => cases (running.remains (running.schedule.watch limit).killed).stderr <;> rfl

theorem workspace_supervise {launcher : Launcher} (hidle : launcher.Idle) (command : Command)
    (limit : Option Duration) (s : Session) :
    ((supervise launcher command limit).perform s).2.workspace = s.workspace := by
  simp only [supervise, Act.perform_bind, Act.perform_look, Act.perform_handed, Act.note,
    Act.perform_remark, Act.perform_record]
  cases checkDirectory command s.workspace with
  | error e => rfl
  | ok _ =>
    dsimp only
    cases launcher.spool s.commands s.workspace with
    | error fault => rfl
    | ok _ =>
      simp only [mapError_ok]
      cases hstart : command.start launcher s.commands s.workspace with
      | error fault => rfl
      | ok running =>
        have hstays : ∀ killed, (running.remains killed).workspace = s.workspace := by
          intro killed
          unfold Command.start at hstart
          split at hstart
          · cases hstart
          · exact hidle _ _ _ _ hstart killed
        exact workspace_attend (s := ⟨s.workspace, _, _⟩) command.shownProgram limit hstays

end Child

/-! ### Builds and executions -/

/-- Removing what lies under a path, when it is asked for, as a change that can last. -/
theorem lasting_shrunk (asked : Prop) (p : Path) :
    Act.Lasting fun ws left =>
      Workspace.Shrunk (fun loc => asked ∧ ws.Under p loc) ws left := by
  refine ⟨fun ws => .refl _ ws, fun h₁ h₂ => h₁.trans (h₂.mono ?_)⟩
  exact fun loc h => ⟨h.1, h.2.of_part h₁.here h₁.partOf⟩

theorem Execution.workspace_removeOutput (output : Path) (ws : Workspace) :
    (removeOutput output ws).2 = (ws.removeAll output).2 := by
  unfold removeOutput
  split <;> next heq => rw [heq]

theorem Execution.keeps_clean {asked : Prop} (hasked : asked) (case : TestCase) :
    Act.Keeps (fun ws left =>
      Workspace.Shrunk (fun loc => asked ∧ ws.Under case.output loc) ws left) (clean case) := by
  have hP := lasting_shrunk asked case.output
  have hremoved : ∀ ws : Workspace,
      Workspace.Shrunk (fun loc => asked ∧ ws.Under case.output loc) ws
        (removeOutput case.output ws).2 := by
    intro ws
    rw [workspace_removeOutput]
    exact (Workspace.shrunk_removeAll ws case.output).mono fun loc h => ⟨hasked, h⟩
  unfold clean
  refine Act.keeps_bind hP (Act.keeps_change hremoved) fun there => ?_
  split
  · exact Act.keeps_remark hP _
  · exact Act.keeps_pure hP ()

section
variable {launcher : Child.Launcher} (hidle : launcher.Idle)
include hidle

theorem keeps_supervise {P : Workspace → Workspace → Prop} (hP : Act.Lasting P)
    (command : Child.Command) (limit : Option Duration) :
    Act.Keeps P (Child.supervise launcher command limit) := by
  intro s
  rw [Child.workspace_supervise hidle]
  exact hP.refl s.workspace

theorem Build.keeps_compile {P : Workspace → Workspace → Prop} (hP : Act.Lasting P) (c : Config)
    (found : List Path) : Act.Keeps P (compile launcher c found) := by
  unfold compile
  refine Act.keeps_bind hP (Act.keeps_remark hP _) fun _ => ?_
  refine Act.keeps_bind hP (Act.keeps_within (keeps_supervise hidle hP _ _)) fun outcome => ?_
  refine Act.keeps_bind hP (Act.keeps_look hP _) fun report => ?_
  exact Act.keeps_bind hP (Act.keeps_remark hP _) fun _ => Act.keeps_pure hP report

/-- All that a build changes is that it makes its directory, with those on the way to it. -/
theorem Build.keeps_run (c : Config) :
    Act.Keeps (Workspace.Grown (c.buildRoot :: c.buildRoot.ancestors)) (run launcher c) := by
  have hP : Act.Lasting (Workspace.Grown (c.buildRoot :: c.buildRoot.ancestors)) :=
    ⟨Workspace.Grown.refl _, Workspace.Grown.trans⟩
  have hmade : Act.Keeps (Workspace.Grown (c.buildRoot :: c.buildRoot.ancestors))
      (makeDirectory c) :=
    Act.keeps_change fun ws => Workspace.grown_createDirectories ws c.buildRoot
  unfold run
  refine Act.keeps_bind hP (Act.keeps_remarkOn hP _) fun _ => ?_
  refine Act.keeps_bind hP (Act.keeps_look hP _) fun found => ?_
  refine Act.keeps_bind hP (Act.keeps_within hmade) fun _ => ?_
  exact Act.keeps_within (keeps_compile hidle hP c found)

/-- All that an execution changes is that it removes, when it is asked to, what lies at or below
the place where the output path of its case leads. -/
theorem Execution.keeps_run (c : Config) (case : TestCase) :
    Act.Keeps (fun ws left =>
      Workspace.Shrunk (fun loc => c.cleanOutputs = true ∧ ws.Under case.output loc) ws left)
      (run launcher c case) := by
  have hP := lasting_shrunk (c.cleanOutputs = true) case.output
  have hrest : Act.Keeps (fun ws left =>
      Workspace.Shrunk (fun loc => c.cleanOutputs = true ∧ ws.Under case.output loc) ws left)
      (do
        let outcome ← (Child.supervise launcher (simulatorCommand c case) c.testLimit).within
          ExecutionError.supervision
        Act.note (endRemark case outcome)
        pure outcome) := by
    refine Act.keeps_bind hP (Act.keeps_within (keeps_supervise hidle hP _ _)) fun outcome => ?_
    exact Act.keeps_bind hP (Act.keeps_remark hP _) fun _ => Act.keeps_pure hP outcome
  unfold run
  by_cases hclean : c.cleanOutputs = true
  · rw [if_pos hclean]
    exact Act.keeps_bind hP (keeps_clean hclean case) fun _ => hrest
  · rw [if_neg hclean]
    exact hrest

end

end GoldenSuite
