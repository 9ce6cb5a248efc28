import Mathlib.Logic.Relation
import GoldenSuite.Proofs.FileTree.Route
import GoldenSuite.Proofs.Path.Names

/-!
# Spellings of a path

A relative path can be written in many ways: a `.` or a separator more, at the front, between two
names or at the end, leaves the names among its components as they are. A root in front or a `..`
cannot be hidden like that.
-/

namespace GoldenSuite

open FileTree

namespace Path

variable {p q : Path}

/-! ### Components -/

/-- The name that a component is, unless it is the root, a `.` or a `..`. -/
def Component.name? : Component → Option String
  | .normal name => some name
  | _ => none

/-- The names among the components of a path. -/
def normals (p : Path) : List String :=
  p.components.filterMap Component.name?

/-- The components of a path behind what stands at its start. -/
def inner (p : Path) : List Component :=
  (segments p.chars).filterMap Component.ofSegment?

/-- What a name of a path shows as among the components. -/
def Component.ofName (name : String) : Component :=
  if name = ".." then .parent else .normal name

theorem components_eq (p : Path) : p.components = p.leading ++ p.inner := rfl

/-- Behind the start, the components are the names, without those that lead nowhere else. -/
theorem inner_eq (p : Path) : p.inner = (proper p.names).map Component.ofName := by
  rw [inner, names_eq]
  induction segments p.chars with
  | nil => rfl
  | cons piece rest ih =>
    have hsplit : namesIn (piece :: rest) = namesIn [piece] ++ namesIn rest :=
      namesIn_append [piece] rest
    rw [hsplit, proper_append, List.map_append, ← ih]
    by_cases hempty : piece = []
    · subst hempty
      rfl
    by_cases hcurrent : piece = ['.']
    · subst hcurrent
      rfl
    by_cases hparent : piece = ['.', '.']
    · subst hparent
      rfl
    have hne : ∀ {other}, piece ≠ other → String.ofList piece ≠ String.ofList other :=
      fun hother heq => hother (String.ofList_injective heq)
    have hpiece : namesIn [piece] = [String.ofList piece] := by simp [namesIn, hempty]
    rw [List.filterMap_cons_some (b := .normal (String.ofList piece)), hpiece,
      proper_cons (hne hcurrent), List.map_cons, Component.ofName, if_neg (hne hparent)]
    · rfl
    · rw [Component.ofSegment?, if_neg (by simp [hempty, hcurrent]), if_neg hparent]

theorem mem_leading {component : Component} (h : component ∈ p.leading) :
    component = .root ∧ p.isAbsolute = true ∨ component = .current ∧ p.isAbsolute = false := by
  unfold leading at h
  split at h
  · next habsolute => exact .inl ⟨List.mem_singleton.mp h, habsolute⟩
  · next hrelative =>
    split at h
    · exact .inr ⟨List.mem_singleton.mp h, by simpa using hrelative⟩
    · cases h

theorem root_mem_components_iff : .root ∈ p.components ↔ p.isAbsolute = true := by
  have hinner : Component.root ∉ p.inner := by
    rw [inner_eq, List.mem_map]
    rintro ⟨name, -, hname⟩
    unfold Component.ofName at hname
    split at hname <;> cases hname
  rw [components_eq, List.mem_append, or_iff_left hinner]
  constructor
  · intro h
    rcases mem_leading h with ⟨-, habsolute⟩ | ⟨hcurrent, -⟩
    · exact habsolute
    · cases hcurrent
  · intro habsolute
    simp [leading, habsolute]

theorem parent_mem_components_iff_inner : .parent ∈ p.components ↔ .parent ∈ p.inner := by
  have hleading : Component.parent ∉ p.leading := by
    intro h
    rcases mem_leading h with ⟨hroot, -⟩ | ⟨hcurrent, -⟩
    · cases hroot
    · cases hcurrent
  rw [components_eq, List.mem_append, or_iff_right hleading]

theorem normals_eq_inner (p : Path) : p.normals = p.inner.filterMap Component.name? := by
  have hleading : p.leading.filterMap Component.name? = [] := by
    refine List.filterMap_eq_nil_iff.mpr fun component h => ?_
    rcases mem_leading h with ⟨rfl, -⟩ | ⟨rfl, -⟩ <;> rfl
  rw [normals, components_eq, List.filterMap_append, hleading, List.nil_append]

theorem normals_eq (p : Path) : p.normals = (proper p.names).filter (· ≠ "..") := by
  have hname : Component.name? ∘ Component.ofName = Option.guard (· ≠ "..") := by
    funext name
    by_cases hparent : name = ".." <;>
      simp [Component.ofName, hparent, Component.name?, Option.guard]
  rw [normals_eq_inner, inner_eq, List.filterMap_map, hname, List.filterMap_eq_filter]

theorem normals_of_parent_not_mem (h : ".." ∉ p.names) : p.normals = proper p.names := by
  rw [normals_eq]
  refine List.filter_eq_self.mpr fun name hname => decide_eq_true fun heq => h ?_
  exact heq ▸ (List.mem_filter.mp hname).1

theorem mem_iff_exists_segment {ch : Char} (hslash : ch ≠ '/') {cs : List Char} :
    ch ∈ cs ↔ ∃ piece ∈ segments cs, ch ∈ piece := by
  induction cs with
  | nil => simp [segments]
  | cons first rest ih =>
    rw [segments, List.mem_cons, ih]
    split
    · next heq => simp [heq, hslash]
    · cases hs : segments rest with
      | nil => exact absurd hs (segments_ne_nil rest)
      | cons piece others => simp [or_assoc]

/-- But for the separators and the dots, the characters of a path are those of its names. -/
theorem mem_chars_iff {ch : Char} (hslash : ch ≠ '/') (hdot : ch ≠ '.') :
    ch ∈ p.chars ↔ ∃ name ∈ proper p.names, ch ∈ name.toList := by
  rw [mem_iff_exists_segment hslash]
  constructor
  · rintro ⟨piece, hpiece, hch⟩
    refine ⟨String.ofList piece, List.mem_filter.mpr ⟨?_, decide_eq_true fun heq => ?_⟩,
      by rwa [String.toList_ofList]⟩
    · rw [names_eq]
      exact List.mem_map_of_mem
        (List.mem_filter.mpr ⟨hpiece, decide_eq_true (List.ne_nil_of_mem hch)⟩)
    · obtain rfl : piece = ['.'] := String.ofList_injective heq
      exact hdot (List.mem_singleton.mp hch)
  · rintro ⟨name, hname, hch⟩
    obtain ⟨piece, hpiece, rfl⟩ := List.mem_map.mp (List.mem_filter.mp hname).1
    exact ⟨piece, (List.mem_filter.mp hpiece).1, by rwa [String.toList_ofList] at hch⟩

/-! ### Other spellings -/

/-- Relative paths that go through the same components. -/
structure Alike (p q : Path) : Prop where
  isAbsolute_eq : p.isAbsolute = q.isAbsolute
  inner_eq : p.inner = q.inner

section
variable (hne : p.text ≠ "")
include hne

end

theorem Alike.normals_eq (h : p.Alike q) : p.normals = q.normals := by
  rw [normals_eq_inner, normals_eq_inner, h.inner_eq]

end Path

end GoldenSuite
