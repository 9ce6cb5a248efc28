import GoldenSuite.Proofs.Workspace.Finding

/-!
# Making directories

Making a directory with those on the way to it changes nothing that is there: what is new are
directories, and each stands where the path or one of those on the way to it leads.
-/

namespace GoldenSuite

open FileTree

theorem FileTree.get?_add_cases (t : FileTree) (loc : Location) (name : String) (e : Entry) :
    (t.add loc name e).get? (loc ++ [name]) = t.get? (loc ++ [name]) ∨
      t.get? (loc ++ [name]) = none ∧ (t.add loc name e).get? (loc ++ [name]) = some e := by
  by_cases h : (t.IsDirectory loc ∧ t.get? (loc ++ [name]) = none) ∧ IsName name
  · exact Or.inr ⟨h.1.2, get?_add_self h.1.1 h.1.2 h.2⟩
  · left
    rw [add, dif_neg h]

theorem FileTree.partOf_add {t : FileTree} {loc : Location} {name : String}
    (hfree : t.get? (loc ++ [name]) = none) (e : Entry) : t.PartOf (t.add loc name e) := by
  intro other entry hentry
  by_cases hother : other = loc ++ [name]
  · rw [hother, hfree] at hentry
    cases hentry
  · rw [get?_add_of_ne hother, hentry]

/-- Where trees agree on what adding an entry looks at, they agree on what is then there. -/
theorem FileTree.get?_add_congr {t t' : FileTree} {loc other : Location} {name : String}
    (e : Entry) (hdir : t.get? loc = t'.get? loc)
    (hfree : t.get? (loc ++ [name]) = t'.get? (loc ++ [name]))
    (hother : t.get? other = t'.get? other) :
    (t.add loc name e).get? other = (t'.add loc name e).get? other := by
  by_cases hloc : other = loc ++ [name]
  · subst hloc
    by_cases h : (t.IsDirectory loc ∧ t.get? (loc ++ [name]) = none) ∧ IsName name
    · have hdir' : t'.IsDirectory loc := hdir.symm.trans h.1.1
      rw [get?_add_self h.1.1 h.1.2 h.2, get?_add_self hdir' (hfree ▸ h.1.2) h.2]
    · have h' : ¬ ((t'.IsDirectory loc ∧ t'.get? (loc ++ [name]) = none) ∧ IsName name) := by
        rwa [IsDirectory, ← hdir, ← hfree]
      rw [add, dif_neg h, add, dif_neg h', hother]
  · rw [get?_add_of_ne hloc, get?_add_of_ne hloc, hother]

namespace Workspace

variable {ws mid left made : Workspace} {p : Path} {paths more : List Path}

/-- All that was changed is that directories were made where the paths lead. -/
structure Grown (paths : List Path) (ws left : Workspace) : Prop where
  here : left.here = ws.here
  tree : ∀ loc, left.tree.get? loc = ws.tree.get? loc ∨
    ws.tree.get? loc = none ∧
      ∃ p ∈ paths, left.find true (trimmed p) = .ok (loc, .directory)

theorem Grown.refl (paths : List Path) (ws : Workspace) : Grown paths ws ws :=
  ⟨rfl, fun _ => Or.inl rfl⟩

theorem Grown.partOf (h : Grown paths ws left) : ws.tree.PartOf left.tree := by
  intro loc e he
  rcases h.tree loc with hsame | ⟨hnone, -⟩
  · rw [hsame, he]
  · rw [hnone] at he
    cases he

theorem Grown.mono (h : Grown paths ws left) (hmore : ∀ p ∈ paths, p ∈ more) :
    Grown more ws left where
  here := h.here
  tree := by
    intro loc
    rcases h.tree loc with hsame | ⟨hnone, p, hp, hfind⟩
    · exact Or.inl hsame
    · exact Or.inr ⟨hnone, p, hmore p hp, hfind⟩

theorem Grown.trans (h₁ : Grown paths ws mid) (h₂ : Grown paths mid left) :
    Grown paths ws left where
  here := h₂.here.trans h₁.here
  tree := by
    intro loc
    rcases h₂.tree loc with hsame₂ | ⟨hnone₂, hpath⟩
    · rcases h₁.tree loc with hsame₁ | ⟨hnone, p, hp, hfind⟩
      · exact Or.inl (hsame₂.trans hsame₁)
      · exact Or.inr ⟨hnone, p, hp, find_of_part h₂.here h₂.partOf hfind⟩
    · rcases h₁.tree loc with hsame₁ | ⟨hnone, -⟩
      · exact Or.inr ⟨hsame₁ ▸ hnone₂, hpath⟩
      · exact Or.inr ⟨hnone, hpath⟩

/-- What is no directory in the grown workspace was there before. -/
theorem Grown.get?_of_ne_directory (h : Grown paths ws left) {loc : Location} {e : Entry}
    (he : left.tree.get? loc = some e) (hne : e ≠ .directory) : ws.tree.get? loc = some e := by
  rcases h.tree loc with hsame | ⟨-, p, -, hfind⟩
  · rw [← hsame, he]
  · rw [get?_of_find hfind] at he
    cases he
    exact absurd rfl hne

/-- When a directory is made, it gets a name that was vacant, by a path that is not too long. -/
theorem makeDirectory_eq_ok (h : ws.makeDirectory p = .ok made) :
    ('\x00' ∉ p.chars ∧ p.text.length ≤ longestPath) ∧ ∃ directory name,
      ws.tree.resolve ws.here false (trimmed p) = .ok (.vacant directory name) ∧
        made = ws.withTree (ws.tree.add directory name .directory) := by
  unfold makeDirectory at h
  split at h
  · cases h
  · next hnul =>
    split at h
    · cases h
    · next hsize =>
      refine ⟨⟨hnul, Nat.not_lt.mp hsize⟩, ?_⟩
      split at h
      · cases h
      · obtain ⟨destination, hresolve, hmade⟩ := exists_of_bind_eq_ok h
        cases destination with
        | existing loc => cases hmade
        | vacant directory name =>
          cases hmade
          exact ⟨directory, name, hresolve, rfl⟩

theorem grown_makeDirectory (h : ws.makeDirectory p = .ok made) : Grown [p] ws made := by
  obtain ⟨-, directory, name, hresolve, rfl⟩ := makeDirectory_eq_ok h
  obtain ⟨husable, hfollow⟩ := resolve_eq_ok_iff.mp hresolve
  refine ⟨rfl, fun loc => ?_⟩
  by_cases hloc : loc = directory ++ [name]
  · subst hloc
    refine (get?_add_cases ws.tree directory name .directory).imp id ?_
    rintro ⟨hnone, hsome⟩
    refine ⟨hnone, p, by simp, find_eq_ok_iff.mpr ⟨⟨husable, ?_⟩, hsome⟩⟩
    exact follow_of_vacant (partOf_add hnone .directory) hsome hfollow
  · exact Or.inl (get?_add_of_ne hloc)

theorem grown_ensureDirectories (paths : List Path) (ws : Workspace) :
    Grown paths ws (ensureDirectories paths ws).2 := by
  induction paths generalizing ws with
  | nil => exact .refl [] ws
  | cons p above ih =>
    have hp : ∀ {start made : Workspace}, start.makeDirectory p = .ok made →
        Grown (p :: above) start made :=
      fun h => (grown_makeDirectory h).mono (by simp)
    have habove : Grown (p :: above) ws (ensureDirectories above ws).2 :=
      (ih ws).mono fun q hq => List.mem_cons_of_mem _ hq
    -- Whether a directory that could not be made is there already makes no difference to the files.
    have hsettle : ∀ fault (start : Workspace),
        (if fault = Fault.alreadyExists ∧ start.isDirectory p then
          (((.ok (), start) : Changed)) else (.error fault, start)).2 = start := by
      intro fault start
      split <;> rfl
    unfold ensureDirectories
    dsimp only
    split
    · next made hmade => exact hp hmade
    · generalize ensureDirectories above ws = result at habove
      obtain ⟨answer, left⟩ := result
      cases answer with
      | error fault => exact habove
      | ok _ =>
        dsimp only
        split
        · next made hmade => exact habove.trans (hp hmade)
        · rw [hsettle]
          exact habove
    · rw [hsettle]
      exact .refl _ ws

/-- Making a directory with those on the way to it. -/
theorem grown_createDirectories (ws : Workspace) (p : Path) :
    Grown (p :: p.ancestors) ws (ws.createDirectories p).2 := by
  unfold createDirectories
  split
  · exact .refl _ ws
  · exact grown_ensureDirectories _ ws

end Workspace

end GoldenSuite
