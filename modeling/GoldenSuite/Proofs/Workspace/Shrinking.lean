import GoldenSuite.Proofs.Workspace.Finding

/-!
# Removing directories

Removing a directory with everything in it removes nothing that does not lie at or below the
place where its path leads, also when the removal stops half way: a link that is met on the way
down is removed itself, and what it leads to stays.
-/

namespace GoldenSuite.Workspace

open FileTree

variable {ws mid left : Workspace} {p : Path} {gone more : Location → Prop} {loc : Location}

/-- All that was changed is that something is gone at some of these locations. -/
structure Shrunk (gone : Location → Prop) (ws left : Workspace) : Prop where
  here : left.here = ws.here
  tree : ∀ loc, left.tree.get? loc = ws.tree.get? loc ∨ gone loc ∧ left.tree.get? loc = none

theorem Shrunk.refl (gone : Location → Prop) (ws : Workspace) : Shrunk gone ws ws :=
  ⟨rfl, fun _ => Or.inl rfl⟩

theorem Shrunk.mono (h : Shrunk gone ws left) (hmore : ∀ loc, gone loc → more loc) :
    Shrunk more ws left :=
  ⟨h.here, fun loc => (h.tree loc).imp id fun hgone => ⟨hmore loc hgone.1, hgone.2⟩⟩

theorem Shrunk.partOf (h : Shrunk gone ws left) : left.tree.PartOf ws.tree := by
  intro loc e he
  rcases h.tree loc with hsame | ⟨-, hnone⟩
  · rw [← hsame, he]
  · rw [hnone] at he
    cases he

theorem Shrunk.trans (h₁ : Shrunk gone ws mid) (h₂ : Shrunk gone mid left) :
    Shrunk gone ws left where
  here := h₂.here.trans h₁.here
  tree := by
    intro loc
    rcases h₂.tree loc with hsame₂ | hgone
    · rcases h₁.tree loc with hsame₁ | ⟨hgone, hnone⟩
      · exact Or.inl (hsame₂.trans hsame₁)
      · exact Or.inr ⟨hgone, hsame₂.trans hnone⟩
    · exact Or.inr hgone

/-- Whether a location lies at or below the place where a path leads. -/
def Under (ws : Workspace) (p : Path) (loc : Location) : Prop :=
  ∃ top e, ws.find false p = .ok (top, e) ∧ top <+: loc

theorem Under.of_part (hhere : left.here = ws.here) (hpart : left.tree.PartOf ws.tree)
    (h : left.Under p loc) : ws.Under p loc := by
  obtain ⟨top, e, hfind, hprefix⟩ := h
  exact ⟨top, e, find_of_part hhere.symm hpart hfind, hprefix⟩

theorem shrunk_prune (ws : Workspace) (top : Location) :
    Shrunk (top <+: ·) ws (ws.withTree (ws.tree.prune top)) := by
  refine ⟨rfl, fun loc => ?_⟩
  by_cases hroot : loc = []
  · subst hroot
    exact Or.inl rfl
  · show (ws.tree.prune top).get? loc = _ ∨ _ ∧ (ws.tree.prune top).get? loc = none
    rw [get?_prune hroot]
    cases hb : top.isPrefixOf loc with
    | false => exact Or.inl rfl
    | true => exact Or.inr ⟨List.isPrefixOf_iff_prefix.mp hb, rfl⟩

theorem shrunk_clear (ws : Workspace) (top : Location) :
    Shrunk (top <+: ·) ws (ws.withTree (ws.tree.clear top)) := by
  refine ⟨rfl, fun loc => ?_⟩
  by_cases hroot : loc = []
  · subst hroot
    exact Or.inl rfl
  · show (ws.tree.clear top).get? loc = _ ∨ _ ∧ (ws.tree.clear top).get? loc = none
    rw [get?_clear hroot]
    cases hb : below top loc with
    | false => exact Or.inl rfl
    | true =>
      rw [below, Bool.and_eq_true] at hb
      exact Or.inr ⟨List.isPrefixOf_iff_prefix.mp hb.1, rfl⟩

/-- Without its last separators, a path leads to the directory that it leads to with them. -/
theorem loc_of_find_trimmed {last : Bool} {e : Entry} {other : Location} (hnames : p.names ≠ [])
    (h : ws.find last p = .ok (loc, e))
    (htrimmed : ws.find last (trimmed p) = .ok (other, .directory)) : other = loc := by
  have hfollow := (find_eq_ok_iff.mp h).1.2
  have hother := (find_eq_ok_iff.mp htrimmed).1.2
  rw [p.steps_trimmed, start_eq (p.isAbsolute_trimmed hnames)] at hother
  obtain ⟨stay, hsteps, rfl | rfl⟩ := p.steps_eq
  · rw [hsteps, List.append_nil, hother] at hfollow
    cases hfollow
    rfl
  · -- A separator at the end asks for a directory, so a link there would have been followed.
    rw [hsteps] at hfollow
    obtain ⟨n, hroute⟩ := route_of_follow hfollow
    obtain ⟨m, hnames⟩ := hroute.of_append_current
    obtain ⟨n', hroute'⟩ := route_of_follow hother
    have hend : ∀ target, ws.tree.get? other ≠ some (.link target) := by
      intro target
      rw [get?_of_find htrimmed]
      simp
    have heq := hnames.follow_eq
    rw [(hroute'.followed hend).follow_eq] at heq
    cases heq
    rfl

/-- When an empty directory is removed, it is the one that its path names. -/
theorem removeDirectory_eq_ok (h : ws.removeDirectory p = .ok left) :
    p.names ≠ [] ∧ ∃ top, ws.find false (trimmed p) = .ok (top, .directory) ∧
      left = ws.withTree (ws.tree.prune top) := by
  unfold removeDirectory at h
  cases hlast : p.names.getLast? with
  | none =>
    rw [hlast] at h
    cases h
  | some name =>
    rw [hlast] at h
    have hne : p.names ≠ [] := by
      intro hnil
      simp [hnil] at hlast
    refine ⟨hne, ?_⟩
    dsimp only at h
    split at h
    · cases hf : ws.find true (trimmed p) <;> rw [hf] at h <;> cases h
    · split at h
      · cases hf : ws.find true (trimmed p) <;> rw [hf] at h <;> cases h
      · cases hf : ws.find false (trimmed p) with
        | error fault =>
          rw [hf] at h
          cases h
        | ok found =>
          obtain ⟨top, e⟩ := found
          rw [hf] at h
          cases e with
          | file contents => cases h
          | link target => cases h
          | directory =>
            dsimp only [bind, Except.bind] at h
            split at h
            · cases h
              exact ⟨top, rfl, rfl⟩
            · cases h

theorem shrunk_removeAll (ws : Workspace) (p : Path) :
    Shrunk (ws.Under p) ws (ws.removeAll p).2 := by
  unfold removeAll
  cases hf : ws.find false p with
  | error fault => exact .refl _ ws
  | ok found =>
    obtain ⟨top, e⟩ := found
    have hunder : ∀ loc, top <+: loc → ws.Under p loc := fun loc h => ⟨top, e, hf, h⟩
    cases e with
    | file contents => exact .refl _ ws
    | link target => exact (shrunk_prune ws top).mono hunder
    | directory =>
      have hemptied := (shrunk_clear ws top).mono hunder
      dsimp only
      split
      · next removed hremoved =>
        obtain ⟨hnames, other, htrimmed, rfl⟩ := removeDirectory_eq_ok hremoved
        -- The path that names the empty directory led to the same place before it was emptied.
        have hsame := find_of_part hemptied.here.symm hemptied.partOf htrimmed
        obtain rfl := loc_of_find_trimmed hnames hf hsame
        exact hemptied.trans ((shrunk_prune _ _).mono hunder)
      · exact hemptied
      · exact hemptied

end GoldenSuite.Workspace
