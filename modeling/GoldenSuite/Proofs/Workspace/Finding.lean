import GoldenSuite.Proofs.FileTree.Route
import GoldenSuite.Proofs.Path.Names

/-!
# Finding by routes

A path that leads somewhere in a workspace does so by a route through its names. From that
follows what becomes of it in a larger tree, and where a path leads that goes on from another.
-/

namespace GoldenSuite

open FileTree

/-! ### Answers -/

theorem exists_of_bind_eq_ok {ε α β : Type} {x : Except ε α} {f : α → Except ε β} {b : β}
    (h : x >>= f = .ok b) : ∃ a, x = .ok a ∧ f a = .ok b := by
  cases x with
  | error e => cases h
  | ok a => exact ⟨a, rfl, h⟩

theorem eq_ok_of_mapError {ε δ α : Type} {f : ε → δ} {x : Except ε α} {a : α}
    (h : x.mapError f = .ok a) : x = .ok a := by
  cases x with
  | error e => cases h
  | ok b => exact congrArg Except.ok (Except.ok.inj h)

theorem eq_ok_of_toOption {ε α : Type} {x : Except ε α} {a : α} (h : x.toOption = some a) :
    x = .ok a := by
  cases x with
  | error e => cases h
  | ok b => exact congrArg Except.ok (Option.some.inj h)

theorem exists_error_of_toOption {ε α : Type} {x : Except ε α} (h : x.toOption = none) :
    ∃ e, x = .error e := by
  cases x with
  | ok a => cases h
  | error e => exact ⟨e, rfl⟩

/-! ### Following paths -/

/-- A path that is followed at all. -/
structure Path.Usable (p : Path) : Prop where
  nul_not_mem : '\x00' ∉ p.chars
  ne_empty : p.text ≠ ""
  size_le : p.text.length ≤ longestPath

namespace Workspace

variable {ws ws' : Workspace} {p base : Path} {last : Bool} {loc root : Location} {e : Entry}

theorem resolve_of_usable (h : p.Usable) (t : FileTree) (here : Location) (last : Bool) :
    t.resolve here last p = t.follow last mostLinks (start here p) p.steps := by
  have hsize : ¬ longestPath < p.text.length := Nat.not_lt.mpr h.size_le
  rw [resolve, if_neg h.nul_not_mem, if_neg h.ne_empty, if_neg hsize]
  rfl

/-- A path that is not followed at all is refused in the same way everywhere. -/
theorem resolve_of_not_usable (h : ¬ p.Usable) :
    ∃ fault, ∀ (t : FileTree) here last, t.resolve here last p = .error fault := by
  unfold resolve
  by_cases hnul : '\x00' ∈ p.chars
  · exact ⟨_, fun _ _ _ => by rw [if_pos hnul]⟩
  · by_cases hempty : p.text = ""
    · exact ⟨_, fun _ _ _ => by rw [if_neg hnul, if_pos hempty]⟩
    · by_cases hsize : longestPath < p.text.length
      · exact ⟨_, fun _ _ _ => by rw [if_neg hnul, if_neg hempty, if_pos hsize]⟩
      · exact absurd ⟨hnul, hempty, Nat.not_lt.mp hsize⟩ h

theorem resolve_eq_ok_iff {t : FileTree} {here : Location} {d : Destination} :
    t.resolve here last p = .ok d ↔
      p.Usable ∧ t.follow last mostLinks (start here p) p.steps = .ok d := by
  by_cases h : p.Usable
  · rw [resolve_of_usable h]
    exact ⟨fun hd => ⟨h, hd⟩, fun hd => hd.2⟩
  · obtain ⟨fault, hfault⟩ := resolve_of_not_usable h
    rw [hfault]
    exact ⟨nofun, fun hd => absurd hd.1 h⟩

theorem find_eq (ws : Workspace) (last : Bool) (p : Path) :
    ws.find last p =
      match ws.tree.resolve ws.here last p with
      | .error fault => .error fault
      | .ok (.vacant _ _) => .error .notFound
      | .ok (.existing loc) =>
        match ws.tree.get? loc with
        | none => .error .notFound
        | some e => .ok (loc, e) := by
  rw [find]
  cases ws.tree.resolve ws.here last p with
  | error fault => rfl
  | ok d =>
    cases d with
    | vacant directory name => rfl
    | existing there =>
      dsimp only [bind, Except.bind]
      cases ws.tree.get? there <;> rfl

/-- A path leads somewhere when its steps do, from where it is followed. -/
theorem find_eq_ok_iff :
    ws.find last p = .ok (loc, e) ↔
      (p.Usable ∧ ws.tree.follow last mostLinks (start ws.here p) p.steps = .ok (.existing loc)) ∧
        ws.tree.get? loc = some e := by
  rw [← resolve_eq_ok_iff, find_eq]
  cases ws.tree.resolve ws.here last p with
  | error fault => exact ⟨nofun, nofun⟩
  | ok d =>
    cases d with
    | vacant directory name => exact ⟨nofun, nofun⟩
    | existing there =>
      constructor
      · intro h
        dsimp only at h
        cases he : ws.tree.get? there with
        | none =>
          rw [he] at h
          cases h
        | some e' =>
          rw [he] at h
          cases h
          exact ⟨rfl, he⟩
      · rintro ⟨hd, he⟩
        cases hd
        dsimp only
        rw [he]

theorem get?_of_find (h : ws.find last p = .ok (loc, e)) : ws.tree.get? loc = some e :=
  (find_eq_ok_iff.mp h).2

theorem route_of_find (h : ws.find last p = .ok (loc, e)) :
    ∃ n, Route ws.tree last mostLinks (start ws.here p) p.steps n loc :=
  route_of_follow (find_eq_ok_iff.mp h).1.2

/-- What a path leads to in a part of a tree it leads to in the tree. -/
theorem find_of_part (hhere : ws'.here = ws.here) (hpart : ws.tree.PartOf ws'.tree)
    (h : ws.find last p = .ok (loc, e)) : ws'.find last p = .ok (loc, e) := by
  obtain ⟨⟨husable, hfollow⟩, he⟩ := find_eq_ok_iff.mp h
  refine find_eq_ok_iff.mpr ⟨⟨husable, ?_⟩, hpart _ _ he⟩
  rw [hhere]
  exact follow_of_part hpart hfollow

/-- What leads to the names of a path without its last separators. -/
theorem route_names_of_find (h : ws.find true p = .ok (loc, e)) :
    ∃ n, Route ws.tree true mostLinks (start ws.here p) p.names n loc := by
  obtain ⟨n, hroute⟩ := route_of_find h
  obtain ⟨stay, hsteps, rfl | rfl⟩ := p.steps_eq
  · rw [hsteps, List.append_nil] at hroute
    exact ⟨n, hroute⟩
  · rw [hsteps] at hroute
    exact hroute.of_append_current

/-- Where a path leads that goes on from another one below the place where that one leads,
without links and without leading up. -/
theorem loc_of_find {inner : List String} (hbase : ws.find true base = .ok (root, .directory))
    (hstart : p.isAbsolute = base.isAbsolute) (hnames : p.names = base.names ++ inner)
    (hinner : inner ≠ []) (hup : ".." ∉ inner)
    (hplain : ∀ names, names <+: proper inner →
      ∀ target, ws.tree.get? (root ++ names) ≠ some (.link target))
    (h : ws.find last p = .ok (loc, e)) : loc = root ++ proper inner := by
  obtain ⟨m, hroute⟩ := route_names_of_find hbase
  obtain ⟨stay, hsteps, hstay⟩ := p.steps_eq
  have hfollow := (find_eq_ok_iff.mp h).1.2
  rw [hsteps, hnames, List.append_assoc, start_eq hstart,
    hroute.follow_append (by simp [hinner])] at hfollow
  obtain ⟨n, hrest⟩ := route_of_follow hfollow
  rw [← proper_append_stay hstay]
  exact hrest.eq_of_plain (parent_not_mem_append_stay hstay hup) (by rwa [proper_append_stay hstay])

end Workspace

end GoldenSuite
