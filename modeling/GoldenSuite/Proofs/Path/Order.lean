import GoldenSuite.Proofs.Path.Names
import Mathlib.Data.String.Basic

/-!
# The order of paths

Paths are sorted component by component: a root comes first, then `.`, then `..`, then the names
in the order of their bytes, and a path comes before those that go on from it. This is not the
order of the texts: `a/b` comes before `a.b`. Paths that go down from one directory by different
names have different components, so that sorting them puts them in strict order.
-/

namespace GoldenSuite.Path

open Std (TransCmp)

/-! ### Components -/

/-- A component comes before another one: it is of an earlier kind, or a name with smaller
characters, each of which stands for a byte. -/
def Component.Before (a b : Component) : Prop :=
  a.key.1 < b.key.1 ∨ a.key.1 = b.key.1 ∧ a.key.2 < b.key.2

theorem Component.key_inj {a b : Component} (h : a.key = b.key) : a = b := by
  cases a <;> cases b <;> simp_all [Component.key]

instance : TransCmp Component.compare :=
  inferInstanceAs (TransCmp (compareLex (compareOn fun c : Component => c.key.1)
    (compareOn fun c : Component => c.key.2)))

theorem Component.compare_eq_lt_iff {a b : Component} : a.compare b = .lt ↔ a.Before b := by
  rw [Component.compare, Ordering.then_eq_lt, compare_lt_iff_lt, compare_lt_iff_lt,
    compare_eq_iff_eq, Component.Before]

theorem Component.compare_eq_eq_iff {a b : Component} : a.compare b = .eq ↔ a = b := by
  rw [Component.compare, Ordering.then_eq_eq, compare_eq_iff_eq, compare_eq_iff_eq]
  constructor
  · rintro ⟨hkind, hname⟩
    exact key_inj (Prod.ext hkind hname)
  · rintro rfl
    exact ⟨rfl, rfl⟩

/-! ### Paths -/

/-- A path comes before another one, compared component by component. -/
def Before (p q : Path) : Prop :=
  List.Lex Component.Before p.components q.components

theorem compareComponents_eq_compareLex (as bs : List Component) :
    compareComponents as bs = List.compareLex Component.compare as bs := by
  induction as generalizing bs with
  | nil => cases bs <;> rfl
  | cons a as ih =>
    cases bs with
    | nil => rfl
    | cons b bs =>
      rw [compareComponents, ih, List.compareLex_cons_cons]

instance : TransCmp compareComponents := by
  have heq : compareComponents = List.compareLex Component.compare := by
    funext as bs
    exact compareComponents_eq_compareLex as bs
  rw [heq]
  infer_instance

theorem compareComponents_eq_lt_iff {as bs : List Component} :
    compareComponents as bs = .lt ↔ List.Lex Component.Before as bs := by
  induction as generalizing bs with
  | nil =>
    cases bs with
    | nil => simp [compareComponents]
    | cons b bs => simp [compareComponents]
  | cons a as ih =>
    cases bs with
    | nil => simp [compareComponents]
    | cons b bs =>
      rw [compareComponents, Ordering.then_eq_lt, Component.compare_eq_lt_iff,
        Component.compare_eq_eq_iff, ih, List.cons_lex_cons_iff]

theorem compareComponents_eq_eq_iff {as bs : List Component} :
    compareComponents as bs = .eq ↔ as = bs := by
  induction as generalizing bs with
  | nil => cases bs <;> simp [compareComponents]
  | cons a as ih =>
    cases bs with
    | nil => simp [compareComponents]
    | cons b bs =>
      rw [compareComponents, Ordering.then_eq_eq, Component.compare_eq_eq_iff, ih, List.cons.injEq]

theorem precedes_trans {p q r : Path} (hpq : p.precedes q = true) (hqr : q.precedes r = true) :
    p.precedes r = true :=
  TransCmp.isLE_trans hpq hqr

theorem compareComponents_swap (cs ds : List Component) :
    compareComponents cs ds = (compareComponents ds cs).swap :=
  Std.OrientedCmp.eq_swap

theorem precedes_total (p q : Path) : (p.precedes q || q.precedes p) = true := by
  rw [precedes, precedes, compareComponents_swap]
  cases compareComponents q.components p.components <;> rfl

theorem before_of_precedes {p q : Path} (hle : p.precedes q = true)
    (hne : p.components ≠ q.components) : p.Before q := by
  rw [precedes, Ordering.isLE_iff_eq_lt_or_eq_eq, compareComponents_eq_eq_iff] at hle
  rcases hle with hlt | heq
  · exact compareComponents_eq_lt_iff.mp hlt
  · exact absurd heq hne

theorem Before.asymm {p q : Path} (h : p.Before q) : ¬ q.Before p := by
  intro hback
  have hlt := compareComponents_eq_lt_iff.mpr h
  have hgt := compareComponents_eq_lt_iff.mpr hback
  rw [compareComponents_swap, hgt] at hlt
  cases hlt

/-- Paths with different components are sorted in strict order. -/
theorem pairwise_before_mergeSort {paths : List Path} (h : (paths.map components).Nodup) :
    (paths.mergeSort precedes).Pairwise Before := by
  have hsorted := @List.pairwise_mergeSort _ precedes (fun _ _ _ => precedes_trans)
    precedes_total paths
  have hnodup : ((paths.mergeSort precedes).map components).Nodup :=
    ((List.mergeSort_perm paths precedes).map _).nodup_iff.mpr h
  rw [List.Nodup, List.pairwise_map] at hnodup
  exact (hsorted.and hnodup).imp fun hboth => before_of_precedes hboth.1 hboth.2

/-- Sorting gives the one order in which each path comes before those after it. -/
theorem mergeSort_eq_of_perm {paths sorted : List Path} (hperm : paths.Perm sorted)
    (h : sorted.Pairwise Before) : paths.mergeSort precedes = sorted := by
  have hnodup : (sorted.map components).Nodup := by
    rw [List.Nodup, List.pairwise_map]
    refine h.imp fun {p q} hbefore heq => ?_
    have hself : q.Before q := by rwa [Before, heq] at hbefore
    exact hself.asymm hself
  have hstrict := pairwise_before_mergeSort ((hperm.map components).nodup_iff.mpr hnodup)
  exact ((List.mergeSort_perm _ _).trans hperm).eq_of_pairwise
    (fun _ _ _ _ hab hba => absurd hba hab.asymm) hstrict h

/-! ### Entries of a directory -/

theorem chars_withSeparator_cases (p : Path) :
    ∃ cs, p.withSeparator.chars = cs ++ ['/'] ∧ (p.chars = cs ∨ p.chars = cs ++ ['/']) := by
  unfold withSeparator
  by_cases h : p.endsInSeparator = true
  · rw [if_pos h]
    obtain ⟨cs, hcs⟩ := List.getLast?_eq_some_iff.mp (by simpa [endsInSeparator] using h)
    exact ⟨cs, hcs, .inr hcs⟩
  · rw [if_neg h]
    exact ⟨p.chars, by simp [chars], .inl rfl⟩

theorem head?_segments_append_slash (cs more : List Char) :
    (segments (cs ++ '/' :: more)).head? = (segments cs).head? := by
  rw [segments_append_slash]
  cases hs : segments cs with
  | nil => exact absurd hs (segments_ne_nil cs)
  | cons first others => rfl

theorem ofSegment?_of_isName {name : String} (h : IsName name) :
    Component.ofSegment? name.toList = some (.normal name) := by
  have hempty : name.toList ≠ [] := by simpa using h.ne_empty
  have hcurrent : name.toList ≠ ['.'] :=
    fun heq => h.ne_current (String.toList_inj.mp (heq.trans rfl))
  have hparent : name.toList ≠ ['.', '.'] :=
    fun heq => h.ne_parent (String.toList_inj.mp (heq.trans rfl))
  rw [Component.ofSegment?, if_neg (by simp [hempty, hcurrent]), if_neg hparent,
    String.ofList_toList]

/-- The components of a path to an entry are those of the directory and the name of the entry. -/
theorem components_join_name {base : Path} {name : String} (h : IsName name) :
    (base.join ⟨name⟩).components = base.components ++ [.normal name] := by
  have hrelative := (names_of_isName h).2
  have hsegments : segments (Path.mk name).chars = [name.toList] :=
    segments_of_slash_not_mem h.slash_not_mem
  by_cases hempty : base.text = ""
  · have hjoin : base.join ⟨name⟩ = ⟨name⟩ := by
      rw [join, if_neg (by simp [hrelative]), if_pos hempty]
    have hbase : base.components = [] := by
      rw [components, leading, isAbsolute, chars, hempty]
      rfl
    have hcurrent : name.toList ≠ ['.'] :=
      fun heq => h.ne_current (String.toList_inj.mp (heq.trans rfl))
    rw [hjoin, hbase, components, leading, hrelative, hsegments]
    simp [hcurrent, ofSegment?_of_isName h]
  · obtain ⟨cs, hclosed, hcs⟩ := base.chars_withSeparator_cases
    have hchars : (base.join ⟨name⟩).chars = cs ++ '/' :: name.toList := by
      rw [join, if_neg (by simp [hrelative]), if_neg hempty, chars, String.toList_append]
      show base.withSeparator.chars ++ name.toList = _
      rw [hclosed, List.append_assoc]
      rfl
    have hpieces : segments (base.join ⟨name⟩).chars = segments cs ++ [name.toList] := by
      rw [hchars, segments_append_slash]
      exact congrArg _ hsegments
    have hhead : (segments (base.join ⟨name⟩).chars).head? = (segments base.chars).head? := by
      rw [hchars, head?_segments_append_slash]
      rcases hcs with hcs | hcs
      · rw [hcs]
      · rw [hcs, head?_segments_append_slash]
    have hnormal : (segments base.chars).filterMap Component.ofSegment? =
        (segments cs).filterMap Component.ofSegment? := by
      rcases hcs with hcs | hcs
      · rw [hcs]
      · rw [hcs, segments_append_slash, List.filterMap_append]
        simp [segments, Component.ofSegment?]
    rw [components, components, leading, leading, isAbsolute_join hrelative, hhead, hpieces,
      List.filterMap_append, hnormal, List.append_assoc]
    simp [ofSegment?_of_isName h]

end GoldenSuite.Path
