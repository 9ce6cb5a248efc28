import GoldenSuite.Proofs.Workspace.Finding

/-!
# What a path leads through

Following a path looks at the places that it comes to, one after the other, and at nothing else.
Files that have the same at all of these places answer alike, whatever else was changed in them.
-/

namespace GoldenSuite

open FileTree

/-! ### The way of names -/

namespace FileTree

variable {t t' : FileTree} {last : Bool} {n n' : Nat} {here there loc : Location}
  {names rest : List String} {name : String}

/-- The places that are looked at when names are followed through every link: where the names
begin, each entry that is looked up, and whatever the rest of the way leads through. -/
inductive Passes (t : FileTree) : Nat → Location → List String → Location → Prop
  | here (n : Nat) (here : Location) (names : List String) : Passes t n here names here
  | current {n : Nat} {here loc : Location} {rest : List String} : t.IsDirectory here →
    Passes t n here rest loc → Passes t n here ("." :: rest) loc
  | parent {n : Nat} {here loc : Location} {rest : List String} : t.IsDirectory here →
    Passes t n here.dropLast rest loc → Passes t n here (".." :: rest) loc
  | name {n : Nat} {here : Location} {name : String} {rest : List String} : t.Looks here name →
    Passes t n here (name :: rest) (here ++ [name])
  | down {n : Nat} {here loc : Location} {name : String} {rest : List String} {e : Entry} :
    t.Looks here name → t.get? (here ++ [name]) = some e → (∀ target, e ≠ .link target) →
    Passes t n (here ++ [name]) rest loc → Passes t n here (name :: rest) loc
  | jump {n : Nat} {here loc : Location} {name : String} {rest : List String} {target : Path} :
    t.Looks here name → t.get? (here ++ [name]) = some (.link target) → target.text ≠ "" →
    Passes t n (start here target) (target.steps ++ rest) loc →
    Passes t (n + 1) here (name :: rest) loc

/-- Trees that have the same at every place on the way follow names alike. -/
theorem follow_congr (h : ∀ loc, Passes t n here names loc → t'.get? loc = t.get? loc) :
    t'.follow true n here names = t.follow true n here names := by
  induction n, here, names using follow_induction with
  | nil n here => rw [follow_nil, follow_nil]
  | cons n here name rest ih ihless =>
    have hhere : t'.get? here = t.get? here := h here (.here n here _)
    by_cases hdir : t.IsDirectory here
    · have hdir' : t'.IsDirectory here := hhere.trans hdir
      by_cases hcurrent : name = "."
      · subst hcurrent
        rw [follow_current hdir, follow_current hdir']
        exact ih here fun loc hloc => h loc (.current hdir hloc)
      by_cases hparent : name = ".."
      · subst hparent
        rw [follow_parent hdir, follow_parent hdir']
        exact ih here.dropLast fun loc hloc => h loc (.parent hdir hloc)
      by_cases hsize : longestName < name.length
      · rw [follow_cons, follow_cons, if_neg (not_not_intro hdir), if_neg (not_not_intro hdir'),
          if_neg hcurrent, if_neg hcurrent, if_neg hparent, if_neg hparent, if_pos hsize,
          if_pos hsize]
      have hlooks : t.Looks here name := ⟨hdir, hcurrent, hparent, Nat.not_lt.mp hsize⟩
      have hlooks' : t'.Looks here name := ⟨hdir', hcurrent, hparent, Nat.not_lt.mp hsize⟩
      have hentry : t'.get? (here ++ [name]) = t.get? (here ++ [name]) := h _ (.name hlooks)
      rw [follow_name hlooks, follow_name hlooks', hentry]
      have hdown : ∀ e, t.get? (here ++ [name]) = some e → (∀ target, e ≠ .link target) →
          t'.follow true n (here ++ [name]) rest = t.follow true n (here ++ [name]) rest := by
        intro e he hne
        exact ih _ fun loc hloc => h loc (.down hlooks he hne hloc)
      cases he : t.get? (here ++ [name]) with
      | none => rfl
      | some e =>
        cases e with
        | directory => exact hdown _ he (by simp)
        | file contents => exact hdown _ he (by simp)
        | link target =>
          dsimp only
          rw [if_neg (by simp), if_neg (by simp)]
          cases n with
          | zero => rfl
          | succ m =>
            by_cases htext : target.text = ""
            · rw [jump, jump, if_pos htext, if_pos htext]
            · rw [jump_succ htext, jump_succ htext]
              exact ihless m _ _ rfl fun loc hloc => h loc (.jump hlooks he htext hloc)
    · have hdir' : ¬ t'.IsDirectory here := fun hthere => hdir (hhere.symm.trans hthere)
      rw [follow_cons, follow_cons, if_pos hdir, if_pos hdir', astray, astray, hhere]

/-- A route ends at a place on the way. -/
theorem Route.passes_end (h : Route t true n here names n' there) :
    Passes t n here names there := by
  induction h with
  | nil n here => exact .here n here []
  | current hdir _ ih => exact .current hdir ih
  | parent hdir _ ih => exact .parent hdir ih
  | down hlooks he hne _ ih => exact .down hlooks he hne ih
  | link _ _ hlast => cases hlast
  | jump hlooks he _ htext _ ih => exact .jump hlooks he htext ih

/-- The way of names is part of the way of those that go on from them. -/
theorem Passes.append (h : Passes t n here names loc) (more : List String) :
    Passes t n here (names ++ more) loc := by
  induction h with
  | here n here names => exact .here n here _
  | current hdir _ ih => exact .current hdir ih
  | parent hdir _ ih => exact .parent hdir ih
  | name hlooks => exact .name hlooks
  | down hlooks he hne _ ih => exact .down hlooks he hne ih
  | jump hlooks he htext _ ih =>
    rw [List.append_assoc] at ih
    exact .jump hlooks he htext ih

theorem passes_current_iff (hdir : t.IsDirectory here) :
    Passes t n here ("." :: rest) loc ↔ loc = here ∨ Passes t n here rest loc := by
  constructor
  · intro h
    generalize hall : "." :: rest = all at h
    cases h with
    | here => exact .inl rfl
    | current _ hrest =>
      obtain ⟨-, rfl⟩ := List.cons.inj hall
      exact .inr hrest
    | parent => exact absurd (List.cons.inj hall).1 (by decide)
    | name hlooks | down hlooks | jump hlooks =>
      exact absurd (List.cons.inj hall).1.symm hlooks.ne_current
  · rintro (rfl | h)
    · exact .here _ _ _
    · exact .current hdir h

theorem passes_parent_iff (hdir : t.IsDirectory here) :
    Passes t n here (".." :: rest) loc ↔ loc = here ∨ Passes t n here.dropLast rest loc := by
  constructor
  · intro h
    generalize hall : ".." :: rest = all at h
    cases h with
    | here => exact .inl rfl
    | current => exact absurd (List.cons.inj hall).1 (by decide)
    | parent _ hrest =>
      obtain ⟨-, rfl⟩ := List.cons.inj hall
      exact .inr hrest
    | name hlooks | down hlooks | jump hlooks =>
      exact absurd (List.cons.inj hall).1.symm hlooks.ne_parent
  · rintro (rfl | h)
    · exact .here _ _ _
    · exact .parent hdir h

/-- The way of names that go on from others is their way and the way from where they lead. -/
theorem Route.passes_append {more : List String} (h : Route t true n here names n' there)
    (hpass : Passes t n here (names ++ more) loc) :
    Passes t n here names loc ∨ Passes t n' there more loc := by
  induction h with
  | nil n here => exact .inr hpass
  | current hdir _ ih =>
    rcases (passes_current_iff hdir).mp hpass with rfl | hrest
    · exact .inl (.here _ _ _)
    · exact (ih hrest).imp_left (.current hdir)
  | parent hdir _ ih =>
    rcases (passes_parent_iff hdir).mp hpass with rfl | hrest
    · exact .inl (.here _ _ _)
    · exact (ih hrest).imp_left (.parent hdir)
  | @down n n' here there name rest e hlooks he hne hroute ih =>
    cases hpass with
    | here => exact .inl (.here _ _ _)
    | current => exact absurd rfl hlooks.ne_current
    | parent => exact absurd rfl hlooks.ne_parent
    | name => exact .inl (.name hlooks)
    | down _ _ _ hrest => exact (ih hrest).imp_left (.down hlooks he hne)
    | jump _ hlink => exact absurd (Option.some.inj (he.symm.trans hlink)) (hne _)
  | link _ _ hlast => cases hlast
  | @jump n n' here there name rest target hlooks he hgoes htext hroute ih =>
    cases hpass with
    | here => exact .inl (.here _ _ _)
    | current => exact absurd rfl hlooks.ne_current
    | parent => exact absurd rfl hlooks.ne_parent
    | name => exact .inl (.name hlooks)
    | down _ he' hne' => exact absurd (Option.some.inj (he'.symm.trans he)) (hne' _)
    | jump _ hlink _ hrest =>
      obtain rfl : target = _ := by simpa using he.symm.trans hlink
      refine (ih ?_).imp_left (.jump hlooks he htext)
      rw [List.append_assoc]
      exact hrest

end FileTree

/-! ### The way of a path -/

namespace Workspace

variable {ws ws' : Workspace} {p : Path}

/-- The places that a path leads through. -/
def Passes (ws : Workspace) (p : Path) (loc : Location) : Prop :=
  p.Usable ∧ FileTree.Passes ws.tree mostLinks (start ws.here p) p.steps loc

/-- A path leads to the same in files that have the same at every place on its way. -/
theorem find_congr (hhere : ws'.here = ws.here)
    (h : ∀ loc, ws.Passes p loc → ws'.tree.get? loc = ws.tree.get? loc) :
    ws'.find true p = ws.find true p := by
  by_cases husable : p.Usable
  · have hfollow : ws'.tree.resolve ws'.here true p = ws.tree.resolve ws.here true p := by
      rw [resolve_of_usable husable, resolve_of_usable husable, hhere]
      exact follow_congr fun loc hloc => h loc ⟨husable, hloc⟩
    rw [find_eq, find_eq, hfollow]
    cases hd : ws.tree.resolve ws.here true p with
    | error fault => rfl
    | ok destination =>
      cases destination with
      | vacant directory name => rfl
      | existing loc =>
        rw [resolve_of_usable husable] at hd
        obtain ⟨n, hroute⟩ := route_of_follow hd
        dsimp only
        rw [h loc ⟨husable, hroute.passes_end⟩]
  · obtain ⟨fault, hfault⟩ := resolve_of_not_usable husable
    rw [find_eq, find_eq, hfault, hfault]

end Workspace

end GoldenSuite
