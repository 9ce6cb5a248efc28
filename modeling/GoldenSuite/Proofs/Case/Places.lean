import GoldenSuite.Config.Validity
import GoldenSuite.Proofs.Case.Discovered
import GoldenSuite.Proofs.Workspace.Finding

/-!
# The places of a case

An accepted configuration has an output path and an expected path that lead down from a case
directory, neither through the other. Where no link is met on the way they lead to places that
their names tell, and the places of one case are no places of another.
-/

namespace GoldenSuite

open FileTree

/-! ### Accepted paths -/

/-- A relative path that leads down. -/
structure Path.LeadsDown (p : Path) : Prop where
  isAbsolute_eq : p.isAbsolute = false
  parent_not_mem : ".." ∉ p.names
  proper_ne_nil : proper p.names ≠ []

namespace Config

/-- The names that are checked are those of the path, without the ones that lead nowhere else. -/
theorem innerNames?_segments {pieces : List (List Char)} {names : List String}
    (h : innerNames? (pieces.filterMap Path.Component.ofSegment?) = some names) :
    ".." ∉ Path.namesIn pieces ∧ proper (Path.namesIn pieces) = names := by
  induction pieces generalizing names with
  | nil =>
    cases h
    exact ⟨by simp [Path.namesIn], rfl⟩
  | cons piece rest ih =>
    have hsplit : Path.namesIn (piece :: rest) = Path.namesIn [piece] ++ Path.namesIn rest :=
      Path.namesIn_append [piece] rest
    by_cases hempty : piece = []
    · subst hempty
      rw [List.filterMap_cons_none (by rfl)] at h
      exact ih h
    · have hpiece : Path.namesIn [piece] = [String.ofList piece] := by
        simp [Path.namesIn, hempty]
      rw [hsplit, hpiece]
      by_cases hdot : piece = ['.']
      · subst hdot
        rw [List.filterMap_cons_none (by rfl)] at h
        obtain ⟨hup, hproper⟩ := ih h
        exact ⟨by simpa using hup, (proper_current _).trans hproper⟩
      · by_cases hdots : piece = ['.', '.']
        · subst hdots
          rw [List.filterMap_cons_some (by rfl)] at h
          cases h
        · have hcomponent : Path.Component.ofSegment? piece =
              some (.normal (String.ofList piece)) := by
            rw [Path.Component.ofSegment?, if_neg (by simp [hempty, hdot]), if_neg hdots]
          have hne : ∀ other, piece ≠ other → String.ofList piece ≠ String.ofList other :=
            fun other hother heq => hother (String.ofList_injective heq)
          rw [List.filterMap_cons_some hcomponent, innerNames?] at h
          cases hrest : innerNames? (rest.filterMap Path.Component.ofSegment?) with
          | none =>
            rw [hrest] at h
            cases h
          | some others =>
            rw [hrest] at h
            cases h
            obtain ⟨hup, hproper⟩ := ih hrest
            refine ⟨?_, ?_⟩
            · simp only [List.cons_append, List.nil_append, List.mem_cons, not_or]
              exact ⟨(hne _ hdots).symm, hup⟩
            · show proper (String.ofList piece :: Path.namesIn rest) = _
              rw [proper_cons (hne _ hdot), hproper]

theorem caseNames_eq_ok {key : String} {p : Path} {names : List String}
    (h : caseNames key p = .ok names) : p.LeadsDown ∧ proper p.names = names := by
  unfold caseNames at h
  cases hinner : innerNames? p.components with
  | none =>
    rw [hinner] at h
    cases h
  | some found =>
    have hrelative : p.isAbsolute = false := by
      cases habs : p.isAbsolute with
      | false => rfl
      | true =>
        rw [Path.components, Path.leading, if_pos habs] at hinner
        cases hinner
    have hpieces :
        innerNames? ((Path.segments p.chars).filterMap Path.Component.ofSegment?) =
          some found := by
      rw [Path.components, Path.leading, hrelative, if_neg (by simp)] at hinner
      split at hinner <;> exact hinner
    obtain ⟨hup, hproper⟩ := innerNames?_segments hpieces
    rw [hinner] at h
    cases found with
    | nil => cases h
    | cons first others =>
      cases h
      refine ⟨⟨hrelative, hup, ?_⟩, hproper⟩
      rw [Path.names_eq, hproper]
      simp

/-- The output path and the expected path lead down to places of which neither lies at or below
the other. -/
structure Separate (c : Config) : Prop where
  output : c.caseOutputDir.LeadsDown
  expected : c.caseExpectedDir.LeadsDown
  output_not_prefix : ¬ proper c.caseOutputDir.names <+: proper c.caseExpectedDir.names
  expected_not_prefix : ¬ proper c.caseExpectedDir.names <+: proper c.caseOutputDir.names

theorem separate_of_validate {c : Config} (h : c.validate = .ok ()) : c.Separate := by
  obtain ⟨-, -, h⟩ := exists_of_bind_eq_ok h
  obtain ⟨-, -, h⟩ := exists_of_bind_eq_ok (eq_ok_of_mapError h)
  obtain ⟨output, ho, h⟩ := exists_of_bind_eq_ok h
  obtain ⟨expected, he, h⟩ := exists_of_bind_eq_ok h
  obtain ⟨houtput, rfl⟩ := caseNames_eq_ok ho
  obtain ⟨hexpected, rfl⟩ := caseNames_eq_ok he
  have hapart : ((proper c.caseOutputDir.names).isPrefixOf (proper c.caseExpectedDir.names) ||
      (proper c.caseExpectedDir.names).isPrefixOf (proper c.caseOutputDir.names)) = false := by
    rw [← Bool.not_eq_true]
    intro hoverlap
    rw [if_pos hoverlap] at h
    cases h
  rw [Bool.or_eq_false_iff] at hapart
  refine ⟨houtput, hexpected, fun hprefix => ?_, fun hprefix => ?_⟩
  · rw [List.isPrefixOf_iff_prefix.mpr hprefix] at hapart
    exact absurd hapart.1 (by simp)
  · rw [List.isPrefixOf_iff_prefix.mpr hprefix] at hapart
    exact absurd hapart.2 (by simp)

end Config

/-! ### Where the paths of a case lead -/

variable {c : Config} {ws : Workspace} {root loc : Location} {e : Entry} {name : String}

theorem TestCase.names_join (hname : IsName name) {p : Path} (hp : p.isAbsolute = false) :
    ((c.testsRoot.join ⟨name⟩).join p).names = c.testsRoot.names ++ name :: p.names := by
  obtain ⟨hnames, hrelative⟩ := Path.names_of_isName hname
  rw [Path.names_join hp, Path.names_join hrelative, hnames, List.append_assoc]
  rfl

theorem TestCase.isAbsolute_join (hname : IsName name) {p : Path} (hp : p.isAbsolute = false) :
    ((c.testsRoot.join ⟨name⟩).join p).isAbsolute = c.testsRoot.isAbsolute := by
  rw [Path.isAbsolute_join hp, Path.isAbsolute_join (Path.names_of_isName hname).2]

/-- Where a path leads that leads down from a case directory, when no link is met on the way. -/
theorem TestCase.loc_of_find {last : Bool} {p : Path} (hp : p.LeadsDown) (hname : IsName name)
    (hroot : ws.find true c.testsRoot = .ok (root, .directory))
    (hplain : ∀ inner, inner <+: proper p.names →
      ∀ target, ws.tree.get? (root ++ name :: inner) ≠ some (.link target))
    (h : ws.find last ((c.testsRoot.join ⟨name⟩).join p) = .ok (loc, e)) :
    loc = root ++ name :: proper p.names := by
  have hcons : proper (name :: p.names) = name :: proper p.names := proper_cons hname.ne_current _
  rw [← hcons]
  refine Workspace.loc_of_find hroot (isAbsolute_join hname hp.isAbsolute_eq)
    (names_join hname hp.isAbsolute_eq) (by simp) ?_ ?_ h
  · rw [List.mem_cons, not_or]
    exact ⟨hname.ne_parent.symm, hp.parent_not_mem⟩
  · rw [hcons]
    intro inner hinner target
    cases inner with
    | nil =>
      rw [List.append_nil, Workspace.get?_of_find hroot]
      simp
    | cons first others =>
      obtain ⟨rfl, hothers⟩ := List.cons_prefix_cons.mp hinner
      exact hplain others hothers target

/-- Nothing lies both under the output place of a case and under the expected place of a case. -/
theorem Config.Separate.not_both_prefix (h : c.Separate) {a b : String}
    (houtput : root ++ a :: proper c.caseOutputDir.names <+: loc) :
    ¬ root ++ b :: proper c.caseExpectedDir.names <+: loc := by
  intro hexpected
  have hcompare := List.prefix_or_prefix_of_prefix houtput hexpected
  -- Two prefixes of one location are comparable, and here neither can be the longer one.
  rw [List.prefix_append_right_inj, List.prefix_append_right_inj, List.cons_prefix_cons,
    List.cons_prefix_cons] at hcompare
  rcases hcompare with hcompare | hcompare
  · exact h.output_not_prefix hcompare.2
  · exact h.expected_not_prefix hcompare.2

end GoldenSuite
