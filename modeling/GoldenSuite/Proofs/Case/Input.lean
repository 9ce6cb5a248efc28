import GoldenSuite.Proofs.Case.Entries
import GoldenSuite.Proofs.Case.Executed
import GoldenSuite.Proofs.Path.Normal

/-!
# The input of a case

Cleaning a case removes what lies at or below its output. The input of the case stays where
it is and as it was, apart from that, as long as its path does not lead through the output. A
configuration is accepted whatever its input directory is, so the input itself can lie at or below
the output, and then it is removed before the simulator is started on it.
-/

namespace GoldenSuite

open FileTree

/-! ### Ways without links -/

namespace FileTree

variable {t : FileTree} {n : Nat} {here place : Location} {names : List String}

/-- Without links, a place on the way of names is where the first of them lead. -/
theorem Passes.eq_foldl (hlinks : t.Linkless) (h : Passes t n here names place) :
    ∃ first, first <+: names ∧ place = first.foldl (Path.goOn true) here := by
  induction h with
  | here n here names => exact ⟨[], List.nil_prefix, rfl⟩
  | current _ _ ih =>
    obtain ⟨first, hfirst, hplace⟩ := ih
    exact ⟨"." :: first, by simpa using hfirst, by rw [hplace, List.foldl_cons, Path.goOn_current]⟩
  | parent _ _ ih =>
    obtain ⟨first, hfirst, hplace⟩ := ih
    exact ⟨".." :: first, by simpa using hfirst, by rw [hplace, List.foldl_cons, Path.goOn_parent]⟩
  | @name n here name rest hlooks =>
    refine ⟨[name], by simp, ?_⟩
    rw [List.foldl_cons, Path.goOn_name hlooks.ne_current hlooks.ne_parent, List.foldl_nil]
  | @down n here loc name rest e hlooks _ _ _ ih =>
    obtain ⟨first, hfirst, hplace⟩ := ih
    refine ⟨name :: first, by simpa using hfirst, ?_⟩
    rw [hplace, List.foldl_cons, Path.goOn_name hlooks.ne_current hlooks.ne_parent]
  | jump _ he => exact absurd he (hlinks _ _)

/-- Where no name leads up either, it lies on the way straight down. -/
theorem Passes.eq_append (hlinks : t.Linkless) (hup : ".." ∉ names)
    (h : Passes t n here names place) :
    ∃ inner, inner <+: proper names ∧ place = here ++ inner := by
  obtain ⟨first, ⟨more, hmore⟩, hplace⟩ := h.eq_foldl hlinks
  subst hmore
  have hfirst : ".." ∉ first := fun hmem => hup (List.mem_append_left _ hmem)
  refine ⟨proper first, ?_, by rw [hplace, Path.foldl_goOn hfirst]⟩
  rw [proper_append]
  exact List.prefix_append _ _

end FileTree

/-! ### Paths below a directory -/

namespace Workspace

variable {ws : Workspace} {directory p : Path} {top loc place : Location} {e : Entry} {last : Bool}

section
variable (hlinks : ws.tree.Linkless)
  (hdirectory : ws.find true directory = .ok (top, .directory))
include hlinks hdirectory

/-- Without links, a path that leads down from a directory leads to the place that its names
say. -/
theorem loc_of_find_down (hrelative : p.isAbsolute = false) (hup : ".." ∉ p.names)
    (h : ws.find last (directory.join p) = .ok (loc, e)) : loc = top ++ proper p.names := by
  obtain ⟨n, hroute⟩ := route_of_find h
  have htop := eq_foldl_of_find hlinks hdirectory
  have hloc := hroute.eq_foldl hlinks
  obtain ⟨stay, hsteps, hstay⟩ := (directory.join p).steps_eq
  rw [hsteps, Path.names_join hrelative, start_eq (Path.isAbsolute_join hrelative),
    List.append_assoc, List.foldl_append, ← htop,
    Path.foldl_goOn (parent_not_mem_append_stay hstay hup), proper_append_stay hstay] at hloc
  exact hloc

/-- A path that leads down from a directory leads through the way to that directory and straight
down from there. -/
theorem passes_down (hrelative : p.isAbsolute = false) (hup : ".." ∉ p.names)
    (h : ws.Passes (directory.join p) place) :
    ws.Passes directory place ∨ ∃ inner, inner <+: proper p.names ∧ place = top ++ inner := by
  obtain ⟨husable, hpass⟩ := h
  obtain ⟨n, hroute⟩ := route_names_of_find hdirectory
  obtain ⟨stay, hsteps, hstay⟩ := (directory.join p).steps_eq
  rw [hsteps, Path.names_join hrelative, start_eq (Path.isAbsolute_join hrelative),
    List.append_assoc] at hpass
  rcases hroute.passes_append hpass with hway | hdown
  · obtain ⟨stay', hsteps', -⟩ := directory.steps_eq
    refine .inl ⟨(find_eq_ok_iff.mp hdirectory).1.1, ?_⟩
    rw [hsteps']
    exact hway.append stay'
  · obtain ⟨inner, hinner, hplace⟩ :=
      hdown.eq_append hlinks (parent_not_mem_append_stay hstay hup)
    rw [proper_append_stay hstay] at hinner
    exact .inr ⟨inner, hinner, hplace⟩

end

/-- Without links, the way to a directory whose path does not lead up ends at the directory. -/
theorem prefix_of_passes (hlinks : ws.tree.Linkless) (hup : ".." ∉ directory.names)
    (hdirectory : ws.find true directory = .ok (top, .directory)) (h : ws.Passes directory place) :
    place <+: top := by
  obtain ⟨stay, hsteps, hstay⟩ := directory.steps_eq
  have hpass := h.2
  rw [hsteps] at hpass
  obtain ⟨inner, hinner, rfl⟩ :=
    hpass.eq_append hlinks (parent_not_mem_append_stay hstay hup)
  rw [proper_append_stay hstay] at hinner
  have htop := eq_foldl_of_find hlinks hdirectory
  rw [Path.foldl_goOn hup] at htop
  rw [htop]
  exact (List.prefix_append_right_inj _).mpr hinner

end Workspace

/-! ### Cleaning -/

namespace Execution

variable {c : Config} {case : TestCase} {s : Session} {loc : Location}

/-- What is done for a case after its cleaning. -/
def launch (launcher : Child.Launcher) (c : Config) (case : TestCase) :
    Act ExecutionError Child.Outcome := do
  let outcome ← (Child.supervise launcher (simulatorCommand c case) c.testLimit).within
    ExecutionError.supervision
  Act.note (endRemark case outcome)
  pure outcome

theorem perform_run (launcher : Child.Launcher) (hclean : c.cleanOutputs = true) (s : Session) :
    (run launcher c case).perform s =
      match (clean case).perform s with
      | (.ok _, mid) => (launch launcher c case).perform mid
      | (.error e, mid) => (.error e, mid) := by
  rw [run, if_pos hclean, Act.perform_bind]
  cases (clean case).perform s with
  | mk answer mid => cases answer <;> rfl

/-- The files that a cleaning leaves. -/
def cleaned (case : TestCase) (s : Session) : Workspace :=
  ((clean case).perform s).2.workspace

theorem shrunk_cleaned (case : TestCase) (s : Session) :
    Workspace.Shrunk (s.workspace.Under case.output) s.workspace (cleaned case s) :=
  (keeps_clean trivial case s).mono fun _ h => h.2

theorem get?_cleaned_of_not_under {place : Location}
    (h : ¬ s.workspace.Under case.output place) :
    (cleaned case s).tree.get? place = s.workspace.tree.get? place := by
  rcases (shrunk_cleaned case s).tree place with hsame | ⟨hunder, -⟩
  · exact hsame
  · exact absurd hunder h

/-- A path that does not lead through the output of a case leads where it led before the
cleaning. -/
theorem find_cleaned {p : Path}
    (h : ∀ place, s.workspace.Passes p place → ¬ s.workspace.Under case.output place) :
    (cleaned case s).find true p = s.workspace.find true p :=
  Workspace.find_congr (shrunk_cleaned case s).here fun place hplace =>
    get?_cleaned_of_not_under (h place hplace)

theorem workspace_cleaned (case : TestCase) (s : Session) :
    cleaned case s = (s.workspace.removeAll case.output).2 := by
  rw [← workspace_removeOutput, cleaned, clean, Act.perform_bind, Act.perform_change]
  cases (removeOutput case.output s.workspace).1 with
  | error e => rfl
  | ok there => cases there <;> rfl

/-- When a cleaning succeeds, the output was removed or there was none. -/
theorem removeAll_of_clean (h : ((clean case).perform s).1 = .ok ()) :
    (s.workspace.removeAll case.output).1 = .ok () ∨
      (s.workspace.removeAll case.output).1 = .error .notFound := by
  have hanswer : ∃ there, (removeOutput case.output s.workspace).1 = .ok there := by
    rw [clean, Act.perform_bind, Act.perform_change] at h
    cases hremove : (removeOutput case.output s.workspace).1 with
    | ok there => exact ⟨there, rfl⟩
    | error e =>
      rw [hremove] at h
      cases h
  obtain ⟨there, hthere⟩ := hanswer
  unfold removeOutput at hthere
  split at hthere
  · next heq => exact .inl (by rw [heq])
  · next heq => exact .inr (by rw [heq])
  · cases hthere

section
variable {name : String} {directory : Path} {top : Location} (hlinks : s.workspace.tree.Linkless)
  (hout : c.caseOutputDir.LeadsDown) (hup : ".." ∉ directory.names)
  (hdirectory : s.workspace.find true directory = .ok (top, .directory))
include hlinks hout hup hdirectory

/-- Nothing on the way to the directory of a case lies at or below the output of the case. -/
theorem not_under_of_passes {place : Location} (h : s.workspace.Passes directory place) :
    ¬ s.workspace.Under (TestCase.ofDirectory c name directory).output place := by
  rintro ⟨output, e, hfind, habove⟩
  have houtput := Workspace.loc_of_find_down hlinks hdirectory hout.isAbsolute_eq
    hout.parent_not_mem hfind
  have hlength := (habove.trans (Workspace.prefix_of_passes hlinks hup hdirectory h)).length_le
  have hpositive := List.length_pos_of_ne_nil hout.proper_ne_nil
  rw [houtput, List.length_append] at hlength
  omega

/-- After a cleaning that succeeds nothing is left at or below the output of a case. -/
theorem get?_cleaned_of_output
    (hok : ((clean (.ofDirectory c name directory)).perform s).1 = .ok ())
    {place : Location} (hplace : top ++ proper c.caseOutputDir.names <+: place) :
    (cleaned (.ofDirectory c name directory) s).tree.get? place = none := by
  have hne : c.caseOutputDir.names ≠ [] := by
    intro hnil
    exact hout.proper_ne_nil (by rw [hnil]; rfl)
  have hunlinked : s.workspace.Unlinked directory := by
    intro inner target
    rw [Workspace.seen_apply hdirectory]
    exact hlinks _ target
  have hnames : (TestCase.ofDirectory c name directory).output.names =
      directory.names ++ c.caseOutputDir.names := Path.names_join hout.isAbsolute_eq
  have hstart : (TestCase.ofDirectory c name directory).output.isAbsolute =
      directory.isAbsolute := Path.isAbsolute_join hout.isAbsolute_eq
  have hcleared : ∀ loc, s.workspace.find false (TestCase.ofDirectory c name directory).output =
      .ok (loc, .directory) →
      (s.workspace.withTree (s.workspace.tree.clear loc)).find true directory =
        .ok (top, .directory) := by
    intro loc hfind
    rw [← hdirectory]
    refine Workspace.find_congr rfl fun other hpass => ?_
    rcases (Workspace.shrunk_clear s.workspace loc).tree other with hsame | ⟨hgone, -⟩
    · exact hsame
    · exact absurd ⟨loc, _, hfind, hgone⟩
        (not_under_of_passes hlinks hout hup hdirectory hpass)
  have hremovable : Workspace.Removable c.caseOutputDir.names
      ((s.workspace.find false (TestCase.ofDirectory c name directory).output).map Prod.snd) := by
    by_contra hnot
    obtain ⟨fault, hfault, hmissing⟩ := Workspace.removeAll_of_not_removable hdirectory hunlinked
      hstart hnames hne hout.parent_not_mem hcleared hnot
    rcases removeAll_of_clean hok with hdone | hnone
    · rw [hfault] at hdone
      cases hdone
    · rw [hfault] at hnone
      exact hmissing (Except.error.inj hnone)
  obtain ⟨-, -, hleft⟩ := Workspace.removeAll_of_removable hdirectory hunlinked hstart hnames hne
    hout.parent_not_mem hcleared hremovable
  rw [workspace_cleaned, hleft, if_pos hplace]

variable {p : Path} (hrelative : p.isAbsolute = false) (hdown : ".." ∉ p.names)
include hrelative hdown

/-- A path that leads down from the directory of a case, but not to or below the output, does not
lead through the output. -/
theorem not_under_of_passes_down (hnot : ¬ proper c.caseOutputDir.names <+: proper p.names)
    {place : Location} (h : s.workspace.Passes (directory.join p) place) :
    ¬ s.workspace.Under (TestCase.ofDirectory c name directory).output place := by
  rcases Workspace.passes_down hlinks hdirectory hrelative hdown h with
    hway | ⟨inner, hinner, rfl⟩
  · exact not_under_of_passes hlinks hout hup hdirectory hway
  · rintro ⟨output, e, hfind, habove⟩
    have houtput := Workspace.loc_of_find_down hlinks hdirectory hout.isAbsolute_eq
      hout.parent_not_mem hfind
    rw [houtput, List.prefix_append_right_inj] at habove
    exact hnot (habove.trans hinner)

/-- One that leads to the output or below leads nowhere after a cleaning that succeeds. -/
theorem exists_fault_of_cleaned (hinside : proper c.caseOutputDir.names <+: proper p.names)
    (hok : ((clean (.ofDirectory c name directory)).perform s).1 = .ok ()) :
    ∃ fault, (cleaned (.ofDirectory c name directory) s).find true (directory.join p) =
      .error fault := by
  cases hfind : (cleaned (.ofDirectory c name directory) s).find true (directory.join p) with
  | error fault => exact ⟨fault, rfl⟩
  | ok found =>
    exfalso
    obtain ⟨there, e⟩ := found
    have hshrunk := shrunk_cleaned (.ofDirectory c name directory) s
    have hbefore := Workspace.find_of_part hshrunk.here.symm hshrunk.partOf hfind
    have hplace := Workspace.loc_of_find_down hlinks hdirectory hrelative hdown hbefore
    have hwithin : top ++ proper c.caseOutputDir.names <+: there := by
      rw [hplace]
      exact (List.prefix_append_right_inj _).mpr hinside
    have hgone := get?_cleaned_of_output hlinks hout hup hdirectory hok hwithin
    rw [Workspace.get?_of_find hfind] at hgone
    cases hgone

end

/-- What a cleaning leaves of the input of a case. The simulator is started on these files. What
lies below the input and not below the output is as it was, and the input is found where it was
when its path does not lead through the output. For an input directory that is written straight
down from the case this is so exactly when it does not lie at or below the output directory. -/
theorem cleaning_keeps_input {c : Config} (hvalid : c.validate = .ok ())
    (hclean : c.cleanOutputs = true) {s : Session} (hlinks : s.workspace.tree.Linkless)
    (name : String) (directory : Path) {loc : Location}
    (hinput : s.workspace.find true (TestCase.ofDirectory c name directory).input =
      .ok (loc, .directory)) :
    let case := TestCase.ofDirectory c name directory
    (∀ launcher, (run launcher c case).perform s =
      match (clean case).perform s with
      | (.ok _, mid) => (launch launcher c case).perform mid
      | (.error e, mid) => (.error e, mid)) ∧
    (∀ inner, ¬ s.workspace.Under case.output (loc ++ inner) →
      (cleaned case s).tree.get? (loc ++ inner) = s.workspace.tree.get? (loc ++ inner)) ∧
    ((∀ place, s.workspace.Passes case.input place → ¬ s.workspace.Under case.output place) →
      (cleaned case s).find true case.input = .ok (loc, .directory)) ∧
    ∀ top, s.workspace.find true directory = .ok (top, .directory) → ".." ∉ directory.names →
      c.caseInputDir.isAbsolute = false → ".." ∉ c.caseInputDir.names →
      (¬ proper c.caseOutputDir.names <+: proper c.caseInputDir.names →
        (cleaned case s).find true case.input = .ok (loc, .directory)) ∧
      (proper c.caseOutputDir.names <+: proper c.caseInputDir.names →
        ((clean case).perform s).1 = .ok () →
          ∃ fault, (cleaned case s).find true case.input = .error fault) := by
  intro case
  have hout := (Config.separate_of_validate hvalid).output
  have hkept : (∀ place, s.workspace.Passes case.input place →
      ¬ s.workspace.Under case.output place) →
      (cleaned case s).find true case.input = .ok (loc, .directory) :=
    fun hapart => (find_cleaned hapart).trans hinput
  refine ⟨fun launcher => perform_run launcher hclean s,
    fun inner hnot => get?_cleaned_of_not_under hnot, hkept, ?_⟩
  intro top hdirectory hup hrelative hdown
  refine ⟨fun hnot => hkept fun place hpass => ?_, fun hinside hok => ?_⟩
  · exact not_under_of_passes_down hlinks hout hup hdirectory hrelative hdown hnot hpass
  · exact exists_fault_of_cleaned hlinks hout hup hdirectory hrelative hdown hinside hok

/-! ### Commands -/

/-- After a cleaning that succeeds the simulator is handed over, whatever is left of its input. -/
theorem commands_run {launcher : Child.Launcher} (hclean : c.cleanOutputs = true)
    (hok : ((clean case).perform s).1 = .ok ()) :
    ((run launcher c case).perform s).2.commands =
      Child.handedOver launcher ((clean case).perform s).2.commands (simulatorCommand c case)
        (cleaned case s) := by
  rw [perform_run launcher hclean, cleaned]
  generalize (clean case).perform s = result at hok
  obtain ⟨answer, mid⟩ := result
  cases hok
  rw [← (Child.perform_supervise launcher _ c.testLimit mid).2]
  show ((launch launcher c case).perform mid).2.commands = _
  rw [launch, Act.perform_bind, Act.perform_within]
  generalize (Child.supervise launcher (simulatorCommand c case) c.testLimit).perform mid = done
  obtain ⟨outcome, left⟩ := done
  cases outcome <;> rfl

/-! ### Cleaned inputs -/

/-- The usual places: the output lies within the input. -/
def usualConfig : Config :=
  { testsDir := ⟨"t"⟩, cleanOutputs := true }

def usualCase : Workspace where
  tree :=
    { entries :=
        [(["t"], .directory), (["t", "a"], .directory), (["t", "a", "src"], .directory),
          (["t", "a", "src", "in.txt"], .file [1]), (["t", "a", "src", "out"], .directory),
          (["t", "a", "src", "out", "log.txt"], .file [2])]
      distinct := by decide
      rooted := by decide
      parented := by decide
      named := by decide }
  here := []

theorem usual_input_kept :
    let case := TestCase.named usualConfig "a"
    let s : Session := { workspace := usualCase }
    (usualConfig.validate = .ok () ∧ usualCase.tree.Linkless ∧
      usualCase.find true case.input = .ok (["t", "a", "src"], .directory)) ∧
    (cleaned case s).find true case.input = .ok (["t", "a", "src"], .directory) ∧
      (cleaned case s).tree.get? ["t", "a", "src", "in.txt"] = some (.file [1]) := by
  intro case s
  have hvalid : usualConfig.validate = .ok () := eq_ok_of_toOption (by decide +kernel)
  have hlinks : usualCase.tree.Linkless := not_link_of_entries (by simp [usualCase])
  have hinput : usualCase.find true case.input = .ok (["t", "a", "src"], .directory) :=
    eq_ok_of_toOption (by decide +kernel)
  have hdirectory : usualCase.find true (usualConfig.testsRoot.join ⟨"a"⟩) =
      .ok (["t", "a"], .directory) := eq_ok_of_toOption (by decide +kernel)
  have houtput : usualCase.find false case.output = .ok (["t", "a", "src", "out"], .directory) :=
    eq_ok_of_toOption (by decide +kernel)
  obtain ⟨-, hkept, -, hplain⟩ := cleaning_keeps_input hvalid rfl (s := s) hlinks "a"
    (usualConfig.testsRoot.join ⟨"a"⟩) hinput
  have hfound := (hplain _ hdirectory (by decide +kernel) (by decide +kernel)
    (by decide +kernel)).1 (by decide +kernel)
  have hfile := hkept ["in.txt"] (by
    rintro ⟨top, e, hfind, habove⟩
    cases hfind.symm.trans houtput
    exact absurd habove (by decide))
  exact ⟨⟨hvalid, hlinks, hinput⟩, hfound, hfile⟩

/-- The input is a subdirectory of the output. -/
def nestedConfig : Config :=
  { testsDir := ⟨"t"⟩, caseInputDir := ⟨"io/in"⟩, caseOutputDir := ⟨"io"⟩,
    caseExpectedDir := ⟨"exp"⟩, cleanOutputs := true }

def nestedCase : Workspace where
  tree :=
    { entries :=
        [(["t"], .directory), (["t", "a"], .directory), (["t", "a", "io"], .directory),
          (["t", "a", "io", "in"], .directory)]
      distinct := by decide
      rooted := by decide
      parented := by decide
      named := by decide }
  here := []

/-- An accepted configuration under which the input of a case is removed by the cleaning, which
succeeds, and the simulator is started on it all the same. -/
theorem input_removed :
    let case := TestCase.named nestedConfig "a"
    let s : Session := { workspace := nestedCase }
    (nestedConfig.validate = .ok () ∧ nestedConfig.cleanOutputs = true ∧
      nestedCase.tree.Linkless ∧
      nestedCase.find true case.input = .ok (["t", "a", "io", "in"], .directory)) ∧
    ((clean case).perform s).1 = .ok () ∧
      (cleaned case s).isDirectory case.input = false ∧
      (cleaned case s).tree.get? ["t", "a", "io", "in"] = none ∧
      ∀ launcher : Child.Launcher, launcher.spool [] (cleaned case s) = .ok () →
        ((run launcher nestedConfig case).perform s).2.commands =
          [simulatorCommand nestedConfig case] := by
  intro case s
  have hcleaned : ((clean case).perform s).1 = .ok () := eq_ok_of_toOption (by decide +kernel)
  refine ⟨⟨eq_ok_of_toOption (by decide +kernel), rfl,
    not_link_of_entries (by simp [nestedCase]), eq_ok_of_toOption (by decide +kernel)⟩,
    hcleaned, by decide +kernel, by decide +kernel, fun launcher hspool => ?_⟩
  have hstart : Child.checkDirectory (simulatorCommand nestedConfig case) (cleaned case s) =
      .ok () :=
    eq_ok_of_toOption (by decide +kernel)
  have hbefore : ((clean case).perform s).2.commands = [] := by decide +kernel
  rw [commands_run rfl hcleaned, hbefore, Child.handedOver, hstart, hspool]
  rfl

end Execution

end GoldenSuite
