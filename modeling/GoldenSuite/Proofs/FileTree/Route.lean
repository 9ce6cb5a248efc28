import GoldenSuite.FileTree.Resolve

/-!
# Routes

Following a path recurs on the names that are left and, at a link, on the number of links that
may still be followed. `Route` has one rule for each way in which that goes on, so that what is
known of a path that leads somewhere can be proved by induction on how it leads there.
-/

namespace GoldenSuite.FileTree

variable {t t' : FileTree} {last : Bool} {n n' : Nat} {here there : Location}
  {names rest : List String} {name : String}

/-! ### One step -/

/-- Where a path is followed from: an absolute one from the root. -/
def start (here : Location) (p : Path) : Location :=
  if p.isAbsolute then [] else here

theorem start_eq {p base : Path} (h : p.isAbsolute = base.isAbsolute) (here : Location) :
    start here p = start here base := by
  rw [start, start, h]

/-- Goes on at the target of a link, which counts as one of the links that may be followed. -/
def jump (t : FileTree) (last : Bool) (target : Path) (here : Location) (rest : List String) :
    Nat → Except Fault Destination
  | 0 => .error .tooManyLinks
  | n + 1 =>
    if target.text = "" then .error .notFound
    else t.follow last n (start here target) (target.steps ++ rest)

theorem follow_nil (t : FileTree) (last : Bool) (n : Nat) (here : Location) :
    t.follow last n here [] = .ok (.existing here) := by
  cases n <;> rfl

theorem follow_cons (t : FileTree) (last : Bool) (n : Nat) (here : Location) (name : String)
    (rest : List String) :
    t.follow last n here (name :: rest) =
      if ¬ t.IsDirectory here then .error (t.astray here)
      else if name = "." then t.follow last n here rest
      else if name = ".." then t.follow last n here.dropLast rest
      else if longestName < name.length then .error .nameTooLong
      else match t.get? (here ++ [name]) with
        | none => if rest = [] then .ok (.vacant here name) else .error .notFound
        | some (.link target) =>
          if rest = [] ∧ !last then .ok (.existing (here ++ [name]))
          else t.jump last target here rest n
        | some _ => t.follow last n (here ++ [name]) rest := by
  cases n <;> rfl

/-- A name that is looked up in the directory where a path has come to. -/
structure Looks (t : FileTree) (here : Location) (name : String) : Prop where
  isDirectory : t.IsDirectory here
  ne_current : name ≠ "."
  ne_parent : name ≠ ".."
  size_le : name.length ≤ longestName

theorem follow_current (h : t.IsDirectory here) :
    t.follow last n here ("." :: rest) = t.follow last n here rest := by
  rw [follow_cons, if_neg (not_not_intro h), if_pos rfl]

theorem follow_parent (h : t.IsDirectory here) :
    t.follow last n here (".." :: rest) = t.follow last n here.dropLast rest := by
  rw [follow_cons, if_neg (not_not_intro h), if_neg (by decide), if_pos rfl]

theorem follow_name (h : t.Looks here name) :
    t.follow last n here (name :: rest) =
      match t.get? (here ++ [name]) with
      | none => if rest = [] then .ok (.vacant here name) else .error .notFound
      | some (.link target) =>
        if rest = [] ∧ !last then .ok (.existing (here ++ [name]))
        else t.jump last target here rest n
      | some _ => t.follow last n (here ++ [name]) rest := by
  have hsize : ¬ longestName < name.length := Nat.not_lt.mpr h.size_le
  rw [follow_cons, if_neg (not_not_intro h.isDirectory), if_neg h.ne_current,
    if_neg h.ne_parent, if_neg hsize]

/-- What is known of a first step that does not fail. -/
theorem first_of_follow_ok {d : Destination} (h : t.follow last n here (name :: rest) = .ok d) :
    t.IsDirectory here ∧ (name = "." ∨ name = ".." ∨ t.Looks here name) := by
  rw [follow_cons] at h
  by_cases hdir : t.IsDirectory here
  · by_cases hcurrent : name = "."
    · exact ⟨hdir, Or.inl hcurrent⟩
    · by_cases hparent : name = ".."
      · exact ⟨hdir, Or.inr (Or.inl hparent)⟩
      · rw [if_neg (not_not_intro hdir), if_neg hcurrent, if_neg hparent] at h
        by_cases hsize : longestName < name.length
        · rw [if_pos hsize] at h
          cases h
        · exact ⟨hdir, Or.inr (Or.inr ⟨hdir, hcurrent, hparent, Nat.not_lt.mp hsize⟩)⟩
  · rw [if_pos hdir] at h
    cases h

/-- Induction on how a path is followed: with the same links and fewer names, or with fewer
links and any names. -/
theorem follow_induction {motive : Nat → Location → List String → Prop}
    (nil : ∀ n here, motive n here [])
    (cons : ∀ n here name rest, (∀ next, motive n next rest) →
      (∀ m next names, n = m + 1 → motive m next names) → motive n here (name :: rest)) :
    ∀ n here names, motive n here names := by
  -- Outside on the links that may still be followed, inside on the names that are left.
  have walk : ∀ n, (∀ m next names, n = m + 1 → motive m next names) →
      ∀ names here, motive n here names := by
    intro n hless names
    induction names with
    | nil => exact nil n
    | cons name rest ih => exact fun here => cons n here name rest ih hless
  intro n
  induction n with
  | zero => exact fun here names => walk 0 (by simp) names here
  | succ n ih =>
    refine fun here names => walk (n + 1) ?_ names here
    intro m next names hm
    obtain rfl := Nat.succ.inj hm
    exact ih next names

/-! ### Routes -/

/-- Names lead from one location to another. Before them at most `n` links may be followed,
after them at most `n'`; a link at the very end is followed only when `last` says so. -/
inductive Route (t : FileTree) (last : Bool) :
    Nat → Location → List String → Nat → Location → Prop
  | nil (n : Nat) (here : Location) : Route t last n here [] n here
  | current {n n' : Nat} {here there : Location} {rest : List String} :
    t.IsDirectory here → Route t last n here rest n' there →
    Route t last n here ("." :: rest) n' there
  | parent {n n' : Nat} {here there : Location} {rest : List String} :
    t.IsDirectory here → Route t last n here.dropLast rest n' there →
    Route t last n here (".." :: rest) n' there
  | down {n n' : Nat} {here there : Location} {name : String} {rest : List String} {e : Entry} :
    t.Looks here name → t.get? (here ++ [name]) = some e → (∀ target, e ≠ .link target) →
    Route t last n (here ++ [name]) rest n' there →
    Route t last n here (name :: rest) n' there
  | link {n : Nat} {here : Location} {name : String} {target : Path} :
    t.Looks here name → t.get? (here ++ [name]) = some (.link target) → last = false →
    Route t last n here [name] n (here ++ [name])
  | jump {n n' : Nat} {here there : Location} {name : String} {rest : List String}
    {target : Path} :
    t.Looks here name → t.get? (here ++ [name]) = some (.link target) →
    ¬ (rest = [] ∧ last = false) → target.text ≠ "" →
    Route t last n (start here target) (target.steps ++ rest) n' there →
    Route t last (n + 1) here (name :: rest) n' there

/-- Where a path leads, it leads by a route. -/
theorem route_of_follow (h : t.follow last n here names = .ok (.existing there)) :
    ∃ n', Route t last n here names n' there := by
  induction n, here, names using follow_induction with
  | nil n here =>
    rw [follow_nil] at h
    cases h
    exact ⟨n, .nil n _⟩
  | cons n here name rest ih ihless =>
    obtain ⟨hdir, rfl | rfl | hlooks⟩ := first_of_follow_ok h
    · rw [follow_current hdir] at h
      obtain ⟨n', hroute⟩ := ih here h
      exact ⟨n', .current hdir hroute⟩
    · rw [follow_parent hdir] at h
      obtain ⟨n', hroute⟩ := ih here.dropLast h
      exact ⟨n', .parent hdir hroute⟩
    · rw [follow_name hlooks] at h
      -- Directories and files are gone through alike, and a file stops the next name.
      have hdown : ∀ e, t.get? (here ++ [name]) = some e → (∀ target, e ≠ .link target) →
          t.follow last n (here ++ [name]) rest = .ok (.existing there) →
          ∃ n', Route t last n here (name :: rest) n' there := by
        intro e he hne hrest
        obtain ⟨n', hroute⟩ := ih _ hrest
        exact ⟨n', .down hlooks he hne hroute⟩
      cases he : t.get? (here ++ [name]) with
      | none =>
        rw [he] at h
        dsimp only at h
        split at h <;> cases h
      | some e =>
        rw [he] at h
        cases e with
        | directory => exact hdown _ he (by simp) h
        | file contents => exact hdown _ he (by simp) h
        | link target =>
          dsimp only at h
          split at h
          · next hend =>
            cases h
            rw [hend.1]
            exact ⟨n, .link hlooks he (by simpa using hend.2)⟩
          · next hgoes =>
            cases n with
            | zero => cases h
            | succ m =>
              rw [jump] at h
              split at h
              · cases h
              · next htext =>
                obtain ⟨n', hroute⟩ := ihless m _ _ rfl h
                exact ⟨n', .jump hlooks he (by simpa using hgoes) htext hroute⟩

theorem jump_succ {target : Path} (h : target.text ≠ "") :
    t.jump last target here rest (n + 1) =
      t.follow last n (start here target) (target.steps ++ rest) := by
  rw [jump, if_neg h]

/-- A route that follows every link can be gone before any other names. -/
theorem Route.follow_append {more : List String} (h : Route t true n here names n' there)
    (hmore : more ≠ []) :
    t.follow last n here (names ++ more) = t.follow last n' there more := by
  induction h with
  | nil => rfl
  | current hdir _ ih => rw [List.cons_append, follow_current hdir, ih]
  | parent hdir _ ih => rw [List.cons_append, follow_parent hdir, ih]
  | @down n n' here there name rest e hlooks he hne _ ih =>
    rw [List.cons_append, follow_name hlooks, he]
    cases e with
    | directory => exact ih
    | file contents => exact ih
    | link target => exact absurd rfl (hne target)
  | link _ _ hlast => cases hlast
  | @jump n n' here there name rest target hlooks he _ htext _ ih =>
    have hrest : ¬ (rest ++ more = [] ∧ !last) := by simp [hmore]
    rw [List.cons_append, follow_name hlooks, he]
    dsimp only
    rw [if_neg hrest, jump_succ htext, ← List.append_assoc, ih]

theorem Route.follow_eq (h : Route t last n here names n' there) :
    t.follow last n here names = .ok (.existing there) := by
  induction h with
  | nil => exact follow_nil ..
  | current hdir _ ih => rw [follow_current hdir, ih]
  | parent hdir _ ih => rw [follow_parent hdir, ih]
  | @down n n' here there name rest e hlooks he hne _ ih =>
    rw [follow_name hlooks, he]
    cases e with
    | directory => exact ih
    | file contents => exact ih
    | link target => exact absurd rfl (hne target)
  | link hlooks he hlast =>
    rw [follow_name hlooks, he]
    simp [hlast]
  | @jump n n' here there name rest target hlooks he hgoes htext _ ih =>
    have hrest : ¬ (rest = [] ∧ !last) := by simpa using hgoes
    rw [follow_name hlooks, he]
    dsimp only
    rw [if_neg hrest, jump_succ htext, ih]

/-- A route that does not end at a link follows every link. -/
theorem Route.followed (h : Route t last n here names n' there)
    (hend : ∀ target, t.get? there ≠ some (.link target)) :
    Route t true n here names n' there := by
  induction h with
  | nil n here => exact .nil n here
  | current hdir _ ih => exact .current hdir (ih hend)
  | parent hdir _ ih => exact .parent hdir (ih hend)
  | down hlooks he hne _ ih => exact .down hlooks he hne (ih hend)
  | link _ he => exact absurd he (hend _)
  | jump hlooks he _ htext _ ih => exact .jump hlooks he (by simp) htext (ih hend)

/-! ### Parts of routes -/

/-- A route goes all the way through its first names before it goes through others. -/
theorem Route.split {more : List String} (h : Route t last n here (names ++ more) n' there)
    (hmore : more ≠ []) :
    ∃ m mid, Route t true n here names m mid ∧ Route t last m mid more n' there := by
  -- The route is cut where the first names are used up; until then each rule is applied again.
  generalize hall : names ++ more = all at h
  induction h generalizing names with
  | nil n here => simp [hmore] at hall
  | @current n n' here there rest hdir hroute ih =>
    cases names with
    | nil =>
      rw [List.nil_append] at hall
      exact ⟨n, here, .nil n here, hall ▸ .current hdir hroute⟩
    | cons first others =>
      obtain ⟨rfl, hothers⟩ := List.cons.inj hall
      obtain ⟨m, mid, hfirst, hrest⟩ := ih hothers
      exact ⟨m, mid, .current hdir hfirst, hrest⟩
  | @parent n n' here there rest hdir hroute ih =>
    cases names with
    | nil =>
      rw [List.nil_append] at hall
      exact ⟨n, here, .nil n here, hall ▸ .parent hdir hroute⟩
    | cons first others =>
      obtain ⟨rfl, hothers⟩ := List.cons.inj hall
      obtain ⟨m, mid, hfirst, hrest⟩ := ih hothers
      exact ⟨m, mid, .parent hdir hfirst, hrest⟩
  | @down n n' here there name rest e hlooks he hne hroute ih =>
    cases names with
    | nil =>
      rw [List.nil_append] at hall
      exact ⟨n, here, .nil n here, hall ▸ .down hlooks he hne hroute⟩
    | cons first others =>
      obtain ⟨rfl, hothers⟩ := List.cons.inj hall
      obtain ⟨m, mid, hfirst, hrest⟩ := ih hothers
      exact ⟨m, mid, .down hlooks he hne hfirst, hrest⟩
  | @link n here name target hlooks he hlast =>
    cases names with
    | nil =>
      rw [List.nil_append] at hall
      subst hall
      exact ⟨n, here, .nil n here, .link hlooks he hlast⟩
    | cons first others => simp [hmore] at hall
  | @jump n n' here there name rest target hlooks he hgoes htext hroute ih =>
    cases names with
    | nil =>
      rw [List.nil_append] at hall
      exact ⟨n + 1, here, .nil _ here, hall ▸ .jump hlooks he hgoes htext hroute⟩
    | cons first others =>
      obtain ⟨rfl, rfl⟩ := List.cons.inj hall
      obtain ⟨m, mid, hfirst, hrest⟩ := ih (List.append_assoc ..)
      exact ⟨m, mid, .jump hlooks he (by simp) htext hfirst, hrest⟩

/-- A step to where one is changes nothing. -/
theorem Route.of_append_current (h : Route t last n here (names ++ ["."]) n' there) :
    ∃ m, Route t true n here names m there := by
  obtain ⟨m, mid, hnames, hstep⟩ := h.split (by simp)
  have hstay := hstep.follow_eq
  have hdir : t.IsDirectory mid := (first_of_follow_ok hstay).1
  rw [follow_current hdir, follow_nil] at hstay
  cases hstay
  exact ⟨m, hnames⟩

/-- The names without those that lead nowhere else. -/
def proper (names : List String) : List String :=
  names.filter (· ≠ ".")

theorem proper_current (rest : List String) : proper ("." :: rest) = proper rest := by
  simp [proper]

theorem proper_cons (h : name ≠ ".") (rest : List String) :
    proper (name :: rest) = name :: proper rest := by
  simp [proper, h]

theorem proper_append (names rest : List String) :
    proper (names ++ rest) = proper names ++ proper rest :=
  List.filter_append ..

section
variable {stay : List String} (hstay : stay = [] ∨ stay = ["."])
include hstay

theorem proper_append_stay (names : List String) : proper (names ++ stay) = proper names := by
  rw [proper_append]
  rcases hstay with rfl | rfl <;> simp [proper]

theorem parent_not_mem_append_stay (hup : ".." ∉ names) : ".." ∉ names ++ stay := by
  rcases hstay with rfl | rfl <;> simpa using hup

end

/-- When no link is met on the way and no name leads up, a route ends where its names say. -/
theorem Route.eq_of_plain (h : Route t last n here names n' there) (hup : ".." ∉ names)
    (hplain : ∀ inner, inner <+: proper names →
      ∀ target, t.get? (here ++ inner) ≠ some (.link target)) :
    there = here ++ proper names := by
  induction h with
  | nil => simp [proper]
  | current _ _ ih =>
    rw [proper_current] at hplain ⊢
    exact ih (fun hmem => hup (List.mem_cons_of_mem _ hmem)) hplain
  | parent => simp at hup
  | @down n n' here there name rest e hlooks he hne _ ih =>
    rw [proper_cons hlooks.ne_current] at hplain ⊢
    rw [ih (fun hmem => hup (List.mem_cons_of_mem _ hmem)), List.append_assoc]
    · rfl
    · intro inner hinner target
      have hnext := hplain (name :: inner) (by simpa using hinner) target
      rwa [List.append_assoc]
  | link hlooks => rw [proper_cons hlooks.ne_current, proper, List.filter_nil]
  | @jump n n' here there name rest target hlooks he =>
    rw [proper_cons hlooks.ne_current] at hplain
    exact absurd he (hplain [name] (by simp) target)

/-! ### Larger trees -/

/-- Whatever stands in the first tree stands in the second one too. -/
def PartOf (t t' : FileTree) : Prop :=
  ∀ loc e, t.get? loc = some e → t'.get? loc = some e

theorem Looks.of_part (hpart : t.PartOf t') (h : t.Looks here name) : t'.Looks here name :=
  ⟨hpart _ _ h.isDirectory, h.ne_current, h.ne_parent, h.size_le⟩

theorem Route.of_part (hpart : t.PartOf t') (h : Route t last n here names n' there) :
    Route t' last n here names n' there := by
  induction h with
  | nil n here => exact .nil n here
  | current hdir _ ih => exact .current (hpart _ _ hdir) ih
  | parent hdir _ ih => exact .parent (hpart _ _ hdir) ih
  | down hlooks he hne _ ih => exact .down (hlooks.of_part hpart) (hpart _ _ he) hne ih
  | link hlooks he hlast => exact .link (hlooks.of_part hpart) (hpart _ _ he) hlast
  | jump hlooks he hgoes htext _ ih =>
    exact .jump (hlooks.of_part hpart) (hpart _ _ he) hgoes htext ih

/-- A path that leads somewhere in a part of a tree leads there in the tree. -/
theorem follow_of_part (hpart : t.PartOf t')
    (h : t.follow last n here names = .ok (.existing there)) :
    t'.follow last n here names = .ok (.existing there) := by
  obtain ⟨n', hroute⟩ := route_of_follow h
  exact (hroute.of_part hpart).follow_eq

/-- A path that leads to a name that is not there leads there once a directory is. -/
theorem follow_of_vacant (hpart : t.PartOf t') {directory : Location}
    (hmade : t'.get? (directory ++ [name]) = some .directory)
    (h : t.follow false n here names = .ok (.vacant directory name)) :
    t'.follow true n here names = .ok (.existing (directory ++ [name])) := by
  induction n, here, names using follow_induction with
  | nil n here =>
    rw [follow_nil] at h
    cases h
  | cons n here first rest ih ihless =>
    obtain ⟨hdir, rfl | rfl | hlooks⟩ := first_of_follow_ok h
    · rw [follow_current hdir] at h
      rw [follow_current (hpart _ _ hdir)]
      exact ih here h
    · rw [follow_parent hdir] at h
      rw [follow_parent (hpart _ _ hdir)]
      exact ih here.dropLast h
    · rw [follow_name hlooks] at h
      rw [follow_name (hlooks.of_part hpart)]
      cases he : t.get? (here ++ [first]) with
      | none =>
        rw [he] at h
        dsimp only at h
        split at h
        · next hend =>
          cases h
          rw [hmade, hend]
          exact follow_nil ..
        · cases h
      | some e =>
        rw [he] at h
        rw [hpart _ _ he]
        cases e with
        | directory => exact ih _ h
        | file contents => exact ih _ h
        | link target =>
          dsimp only at h ⊢
          rw [if_neg (by simp)]
          split at h
          · cases h
          · cases n with
            | zero => cases h
            | succ m =>
              rw [jump] at h ⊢
              split at h
              · cases h
              · next htext =>
                rw [if_neg htext]
                exact ihless m _ _ rfl h

end GoldenSuite.FileTree
