import GoldenSuite.Proofs.Workspace.Finding

/-!
# What is seen below a directory

The entries below the directory that a path leads to are a view of the files. Where the view
shows no link, a path that goes on from there without leading up is answered by the view alone,
so that two views that agree on a subdirectory give the same answers in it.
-/

namespace GoldenSuite

open FileTree

/-! ### Views -/

/-- What is seen below some directory, by the names on the way down. -/
abbrev View := List String → Option Entry

/-- The entry that names lead to from a place in a view without links. -/
def View.entry (view : View) : List String → List String → Except Fault Entry
  | here, [] =>
    match view here with
    | none => .error .notFound
    | some e => .ok e
  | here, name :: rest =>
    if view here ≠ some .directory then
      .error (if view here = none then .notFound else .notADirectory)
    else if name = "." then view.entry here rest
    else if longestName < name.length then .error .nameTooLong
    else match view (here ++ [name]) with
      | none => .error .notFound
      | some _ => view.entry (here ++ [name]) rest

theorem View.entry_congr {view view' : View} {here names : List String}
    (h : ∀ more, view (here ++ more) = view' (here ++ more)) :
    view.entry here names = view'.entry here names := by
  have hhere : view here = view' here := by simpa using h []
  induction names generalizing here with
  | nil => rw [entry, entry, hhere]
  | cons name rest ih =>
    rw [entry, entry, hhere, h [name], ih h hhere]
    have hnext : ∀ more, view (here ++ [name] ++ more) = view' (here ++ [name] ++ more) := by
      intro more
      rw [List.append_assoc]
      exact h ([name] ++ more)
    rw [ih hnext (h [name])]

/-- Views that agree on a subdirectory agree on where names lead in it. -/
theorem View.entry_cons_congr {view view' : View} {name : String} (hname : name ≠ ".")
    (hroot : view [] = view' []) (h : ∀ inner, view (name :: inner) = view' (name :: inner))
    (names : List String) : view.entry [] (name :: names) = view'.entry [] (name :: names) := by
  have hnext : view.entry [name] names = view'.entry [name] names :=
    entry_congr fun more => h more
  rw [entry, entry, if_neg hname, if_neg hname, hroot, List.nil_append, h [], hnext]

/-! ### Following within a view -/

namespace FileTree

variable {t : FileTree} {root : Location}

/-- What stands where a path leads. -/
def arrived (t : FileTree) : Except Fault Destination → Except Fault Entry
  | .error fault => .error fault
  | .ok (.vacant _ _) => .error .notFound
  | .ok (.existing loc) =>
    match t.get? loc with
    | none => .error .notFound
    | some e => .ok e

theorem arrived_follow (hlinks : ∀ inner target, t.get? (root ++ inner) ≠ some (.link target))
    (last : Bool) (n : Nat) (here : List String) {names : List String} (hup : ".." ∉ names) :
    t.arrived (t.follow last n (root ++ here) names) =
      View.entry (fun inner => t.get? (root ++ inner)) here names := by
  induction names generalizing here with
  | nil => rw [follow_nil, View.entry, arrived]
  | cons name rest ih =>
    rw [List.mem_cons, not_or] at hup
    have hnext := ih (here ++ [name]) hup.2
    rw [← List.append_assoc] at hnext
    -- Both ask the same questions in the same order; no name leads up and no link is met.
    rw [follow_cons, View.entry]
    by_cases hdir : t.IsDirectory (root ++ here)
    · have hview : ¬ t.get? (root ++ here) ≠ some .directory := not_not_intro hdir
      rw [if_neg (not_not_intro hdir), if_neg hview]
      by_cases hcurrent : name = "."
      · rw [if_pos hcurrent, if_pos hcurrent, ih here hup.2]
      · rw [if_neg hcurrent, if_neg hcurrent, if_neg (Ne.symm hup.1)]
        by_cases hsize : longestName < name.length
        · rw [if_pos hsize, if_pos hsize, arrived]
        · rw [if_neg hsize, if_neg hsize, ← hnext, ← List.append_assoc]
          cases he : t.get? (root ++ here ++ [name]) with
          | none =>
            dsimp only
            split <;> rfl
          | some e =>
            cases e with
            | directory => rfl
            | file contents => rfl
            | link target =>
              rw [List.append_assoc] at he
              exact absurd he (hlinks _ target)
    · have hview : t.get? (root ++ here) ≠ some .directory := hdir
      rw [if_pos hdir, if_pos hview, arrived, astray]

end FileTree

/-! ### Finding within a view -/

namespace Workspace

variable {ws ws' : Workspace} {base p : Path} {root : Location}

/-- What is seen below the directory that a path leads to; nothing when there is none. -/
def seen (ws : Workspace) (base : Path) : View := fun inner =>
  match ws.find true base with
  | .ok (root, .directory) => ws.tree.get? (root ++ inner)
  | _ => none

theorem seen_eq (h : ws.find true base = .ok (root, .directory)) :
    ws.seen base = fun inner => ws.tree.get? (root ++ inner) := by
  funext inner
  rw [seen, h]

theorem seen_apply (h : ws.find true base = .ok (root, .directory)) (inner : List String) :
    ws.seen base inner = ws.tree.get? (root ++ inner) := by
  rw [seen, h]

theorem exists_root_of_seen {inner : List String} {e : Entry} (h : ws.seen base inner = some e) :
    ∃ root, ws.find true base = .ok (root, .directory) := by
  unfold seen at h
  split at h
  · next root hroot => exact ⟨root, hroot⟩
  · cases h

theorem seen_root (h : ws.find true base = .ok (root, .directory)) :
    ws.seen base [] = some .directory := by
  rw [seen_eq h]
  simpa using get?_of_find h

theorem find_map_snd (ws : Workspace) (last : Bool) (p : Path) :
    (ws.find last p).map Prod.snd = ws.tree.arrived (ws.tree.resolve ws.here last p) := by
  rw [find_eq]
  cases ws.tree.resolve ws.here last p with
  | error fault => rfl
  | ok d =>
    cases d with
    | vacant directory name => rfl
    | existing loc =>
      dsimp only [arrived]
      cases ws.tree.get? loc <;> rfl

/-- What a path leads to that goes on from another one, told by the view from there. -/
theorem entry_of_find (hroot : ws.find true base = .ok (root, .directory))
    (hlinks : ∀ inner target, ws.seen base inner ≠ some (.link target))
    (husable : p.Usable) (hstart : p.isAbsolute = base.isAbsolute) {inner stay : List String}
    (hsteps : p.steps = base.names ++ (inner ++ stay)) (hinner : inner ≠ [])
    (hup : ".." ∉ inner ++ stay) (last : Bool) :
    (ws.find last p).map Prod.snd = (ws.seen base).entry [] (inner ++ stay) := by
  obtain ⟨m, hroute⟩ := route_names_of_find hroot
  have hresolve : ws.tree.resolve ws.here last p = ws.tree.follow last m root (inner ++ stay) := by
    rw [← hroute.follow_append (by simp [hinner]), ← hsteps, ← start_eq hstart,
      resolve_of_usable husable]
  rw [seen_eq hroot] at hlinks ⊢
  have harrived := arrived_follow hlinks last m [] hup
  rw [List.append_nil] at harrived
  rw [find_map_snd, hresolve, harrived]

theorem read_congr (h : (ws.find true p).map Prod.snd = (ws'.find true p).map Prod.snd) :
    ws.read p = ws'.read p := by
  have hread : ∀ w : Workspace, w.read p =
      match (w.find true p).map Prod.snd with
      | .error fault => .error fault
      | .ok (.file contents) => .ok contents
      | .ok .directory => .error .isADirectory
      | .ok (.link _) => .error .tooManyLinks := by
    intro w
    unfold read
    cases w.find true p with
    | error fault => rfl
    | ok found =>
      obtain ⟨loc, e⟩ := found
      cases e <;> rfl
  rw [hread, hread, h]

/-- Both see the same of one subdirectory of the directory that a path leads to. -/
def SameIn (base : Path) (name : String) (ws ws' : Workspace) : Prop :=
  ∀ inner, ws.seen base (name :: inner) = ws'.seen base (name :: inner)

/-- No link is seen. -/
def Unlinked (base : Path) (ws : Workspace) : Prop :=
  ∀ inner target, ws.seen base inner ≠ some (.link target)

section
variable {root' : Location} {name : String} {rest : List String}
  (hroot : ws.find true base = .ok (root, .directory))
  (hroot' : ws'.find true base = .ok (root', .directory))
  (hlinks : ws.Unlinked base) (hlinks' : ws'.Unlinked base) (hsame : SameIn base name ws ws')
  (hstart : p.isAbsolute = base.isAbsolute) (hnames : p.names = base.names ++ name :: rest)
  (hname : name ≠ ".") (hup : ".." ∉ name :: rest)
include hroot hroot' hlinks hlinks' hsame hstart hnames hname hup

/-- A path into a subdirectory leads to the same wherever the subdirectory looks alike. -/
theorem find_eq_of_sameIn (last : Bool) :
    (ws.find last p).map Prod.snd = (ws'.find last p).map Prod.snd := by
  by_cases husable : p.Usable
  · obtain ⟨stay, hsteps, hstay⟩ := p.steps_eq
    rw [hnames, List.append_assoc] at hsteps
    have hup' : ".." ∉ name :: rest ++ stay := parent_not_mem_append_stay hstay hup
    rw [entry_of_find hroot hlinks husable hstart hsteps (by simp) hup',
      entry_of_find hroot' hlinks' husable hstart hsteps (by simp) hup']
    refine View.entry_cons_congr hname ?_ hsame (rest ++ stay)
    rw [seen_root hroot, seen_root hroot']
  · obtain ⟨fault, hfault⟩ := resolve_of_not_usable husable
    rw [find_map_snd, find_map_snd, hfault, hfault]
    rfl

/-- A path into a subdirectory is read alike wherever the subdirectory looks alike. -/
theorem read_eq_of_sameIn : ws.read p = ws'.read p :=
  read_congr (find_eq_of_sameIn hroot hroot' hlinks hlinks' hsame hstart hnames hname hup true)

end

end Workspace

end GoldenSuite
