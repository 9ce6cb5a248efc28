import GoldenSuite.Proofs.Case.Places
import GoldenSuite.Proofs.Config.Conditions

/-!
# Paths inside a case

A setting for a directory of a case is judged by its own components, and used joined to the
directory of the case. The two readings agree: behind an absolute directory the joined path goes
on by exactly the names that were accepted, so it lies strictly inside, and one accepted path
leads to or above another one exactly when its names begin those of the other.
-/

namespace GoldenSuite

open FileTree

namespace Path

variable {d p : Path} {name : String}

/-! ### Joined components -/

theorem components_of_isAbsolute (h : p.isAbsolute = true) : p.components = .root :: p.inner := by
  simp [components_eq, leading, h]

theorem inner_join (h : p.isAbsolute = false) : (d.join p).inner = d.inner ++ p.inner := by
  simp only [inner_eq, names_join h, proper_append, List.map_append]

theorem components_join_of_isAbsolute (hd : d.isAbsolute = true) (hp : p.isAbsolute = false) :
    (d.join p).components = d.components ++ p.inner := by
  have habsolute : (d.join p).isAbsolute = true := (isAbsolute_join hp).trans hd
  rw [components_of_isAbsolute habsolute, components_of_isAbsolute hd, inner_join hp,
    List.cons_append]

theorem LeadsDown.inner_eq (h : p.LeadsDown) : p.inner = (proper p.names).map .normal := by
  rw [Path.inner_eq]
  refine List.map_congr_left fun name hname => ?_
  have hmem : name ∈ p.names := (List.mem_filter.mp hname).1
  have hup : name ≠ ".." := fun heq => h.parent_not_mem (heq ▸ hmem)
  rw [Component.ofName, if_neg hup]

/-- A name that leads one step down, to something else. -/
structure StepsDown (name : String) : Prop where
  ne_empty : name ≠ ""
  ne_current : name ≠ "."
  ne_parent : name ≠ ".."
  slash_not_mem : '/' ∉ name.toList

theorem LeadsDown.stepsDown (h : p.LeadsDown) (hname : name ∈ proper p.names) :
    StepsDown name := by
  obtain ⟨hmem, hcurrent⟩ := List.mem_filter.mp hname
  obtain ⟨piece, hpiece, rfl⟩ := List.mem_map.mp hmem
  obtain ⟨hsegment, hempty⟩ := List.mem_filter.mp hpiece
  refine ⟨?_, by simpa using hcurrent, fun heq => h.parent_not_mem (heq ▸ hmem), ?_⟩
  · simpa using hempty
  · rw [String.toList_ofList]
    exact slash_not_mem_of_mem_segments hsegment

/-! ### Refused texts -/

/-- A path that names no place strictly inside a directory: it starts with a separator, one of its
pieces is `..`, or all of them are empty or `.`. -/
def Unfit (p : Path) : Prop :=
  p.chars.head? = some '/' ∨ ['.', '.'] ∈ segments p.chars ∨
    ∀ piece ∈ segments p.chars, piece = [] ∨ piece = ['.']

theorem mem_names_iff {piece : List Char} (hne : piece ≠ []) :
    String.ofList piece ∈ p.names ↔ piece ∈ segments p.chars := by
  rw [names, List.mem_map]
  constructor
  · rintro ⟨other, hother, heq⟩
    obtain rfl := String.ofList_injective heq
    exact (List.mem_filter.mp hother).1
  · intro h
    exact ⟨piece, List.mem_filter.mpr ⟨h, decide_eq_true hne⟩, rfl⟩

theorem proper_names_eq_nil_iff :
    proper p.names = [] ↔ ∀ piece ∈ segments p.chars, piece = [] ∨ piece = ['.'] := by
  rw [proper, List.filter_eq_nil_iff]
  constructor
  · intro h piece hpiece
    by_cases hempty : piece = []
    · exact .inl hempty
    · have hcurrent := h _ ((mem_names_iff hempty).mpr hpiece)
      have heq : String.ofList piece = String.ofList ['.'] := by simpa using hcurrent
      exact .inr (String.ofList_injective heq)
  · intro h name hname
    obtain ⟨piece, hpiece, rfl⟩ := List.mem_map.mp hname
    obtain ⟨hsegment, hempty⟩ := List.mem_filter.mp hpiece
    have hne : piece ≠ [] := by simpa using hempty
    have hdot : piece = ['.'] := (h piece hsegment).resolve_left hne
    simp [hdot]

theorem unfit_iff : p.Unfit ↔ ¬ p.LeadsDown := by
  have hroot : p.chars.head? = some '/' ↔ ¬ p.isAbsolute = false := by simp [isAbsolute]
  have hup : ['.', '.'] ∈ segments p.chars ↔ ".." ∈ p.names :=
    (mem_names_iff (by decide)).symm
  rw [Unfit, hroot, hup, ← proper_names_eq_nil_iff]
  constructor
  · rintro (hone | hone | hone) h
    · exact hone h.isAbsolute_eq
    · exact h.parent_not_mem hone
    · exact h.proper_ne_nil hone
  · intro h
    by_contra hall
    simp only [not_or, not_not] at hall
    exact h ⟨hall.1, hall.2.1, hall.2.2⟩

end Path

/-! ### Accepted paths -/

namespace Config

open GoldenSuite.Path

variable {key : String} {d p : Path} {names : List String}

theorem caseNames_of_leadsDown (key : String) (h : p.LeadsDown) :
    caseNames key p = .ok (proper p.names) := by
  have hup : .parent ∉ p.components := by
    rw [parent_mem_components_iff_inner, h.inner_eq]
    simp
  rw [Config.caseNames_eq, if_neg (by simp [h.isAbsolute_eq, hup]),
    normals_of_parent_not_mem h.parent_not_mem, if_neg h.proper_ne_nil]

theorem exists_caseNames_error_iff : (∃ e, caseNames key p = .error e) ↔ p.Unfit := by
  rw [unfit_iff]
  constructor
  · rintro ⟨e, he⟩ h
    rw [caseNames_of_leadsDown key h] at he
    cases he
  · intro h
    cases hnames : caseNames key p with
    | error e => exact ⟨e, rfl⟩
    | ok names => exact absurd (caseNames_eq_ok hnames).1 h

/-- An accepted path, joined to the directory of a case. -/
structure Inside (d p : Path) (names : List String) : Prop where
  components_eq : (d.join p).components = d.components ++ names.map .normal
  ne_nil : names ≠ []
  stepsDown : ∀ name ∈ names, StepsDown name
  below : d.components <+: (d.join p).components
  components_ne : (d.join p).components ≠ d.components

theorem inside_of_caseNames (h : caseNames key p = .ok names) (hd : d.isAbsolute = true) :
    Inside d p names := by
  obtain ⟨hdown, rfl⟩ := caseNames_eq_ok h
  have hjoin : (d.join p).components = d.components ++ (proper p.names).map .normal := by
    rw [components_join_of_isAbsolute hd hdown.isAbsolute_eq, hdown.inner_eq]
  have hne := hdown.proper_ne_nil
  refine ⟨hjoin, hne, fun name hname => hdown.stepsDown hname, ?_, ?_⟩
  · rw [hjoin]
    exact List.prefix_append _ _
  · rw [hjoin]
    simpa using hne

theorem Inside.prefix_iff {p' : Path} {names' : List String} (h : Inside d p names)
    (h' : Inside d p' names') :
    (d.join p).components <+: (d.join p').components ↔ names <+: names' := by
  have hinjective : Function.Injective Component.normal := fun _ _ => Component.normal.inj
  rw [h.components_eq, h'.components_eq, List.prefix_append_right_inj,
    List.prefix_map_iff_of_injective hinjective]

/-- Whatever a path is written like: when it is accepted with some names, then joined to any
absolute directory it goes on from there by exactly these names and lies strictly inside, and it
leads to or above another accepted path exactly when its names begin those of the other. Every
other path is refused: what starts with a separator, has a `..`, or has no name at all. -/
theorem caseNames_join (key : String) (p : Path) :
    (∀ names, caseNames key p = .ok names → ∀ d : Path, d.isAbsolute = true →
      Inside d p names ∧
        ∀ key' p' names', caseNames key' p' = .ok names' →
          ((d.join p).components <+: (d.join p').components ↔ names <+: names')) ∧
      ((∃ e, caseNames key p = .error e) ↔ p.Unfit) := by
  refine ⟨fun names hnames d hd => ?_, exists_caseNames_error_iff⟩
  have hinside := inside_of_caseNames hnames hd
  refine ⟨hinside, fun key' p' names' hnames' => ?_⟩
  exact hinside.prefix_iff (inside_of_caseNames hnames' hd)

theorem dotted_output_inside :
    let d : Path := ⟨"/suite/./add2//"⟩
    let output : Path := ⟨"./src//out/."⟩
    let expected : Path := ⟨"src/./out2/"⟩
    d.isAbsolute = true ∧ caseNames "caseOutputDir" output = .ok ["src", "out"] ∧
      caseNames "caseExpectedDir" expected = .ok ["src", "out2"] ∧
      Inside d output ["src", "out"] ∧
      (¬ (d.join output).components <+: (d.join expected).components) ∧
      ∃ e, caseNames "caseOutputDir" ⟨"src/out/.."⟩ = .error e := by
  intro d output expected
  have hd : d.isAbsolute = true := by decide +kernel
  have houtput : caseNames "caseOutputDir" output = .ok ["src", "out"] :=
    eq_ok_of_toOption (by decide +kernel)
  have hexpected : caseNames "caseExpectedDir" expected = .ok ["src", "out2"] :=
    eq_ok_of_toOption (by decide +kernel)
  obtain ⟨hinside, hinner⟩ := (caseNames_join "caseOutputDir" output).1 _ houtput d hd
  have hapart : ¬ ["src", "out"] <+: ["src", "out2"] := by decide
  have hunfit : (Path.mk "src/out/..").Unfit := .inr (.inl (by decide +kernel))
  refine ⟨hd, houtput, hexpected, hinside, mt (hinner _ expected _ hexpected).mp hapart, ?_⟩
  exact (caseNames_join "caseOutputDir" _).2.mpr hunfit

end Config

end GoldenSuite
