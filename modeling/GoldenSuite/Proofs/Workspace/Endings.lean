import GoldenSuite.Proofs.FileTree.Detours
import GoldenSuite.Proofs.Path.Spelling
import GoldenSuite.Proofs.Workspace.Cleaning

/-!
# Endings of paths

What a path names and what it leads to are the same as long as it ends in a name. With a separator
or a `.` at its end it leads to what a link at that name stands for, and a directory cannot be
removed by a path that ends in a `.`. A removal is told by what stands at the name, however the
path is spelled, where its ending makes no such difference.
-/

namespace GoldenSuite

open FileTree

/-! ### One name in two spellings -/

/-- Two paths that end in the same name and go the same way to it. -/
structure Path.SameName (p q : Path) : Prop where
  isAbsolute_eq : p.isAbsolute = q.isAbsolute
  proper_eq : proper p.names = proper q.names
  proper_ne_nil : proper p.names ≠ []
  fits_iff : p.text.length ≤ longestPath ↔ q.text.length ≤ longestPath

namespace Path

variable {p q : Path}

theorem SameName.symm (h : p.SameName q) : q.SameName p :=
  ⟨h.isAbsolute_eq.symm, h.proper_eq.symm, h.proper_eq ▸ h.proper_ne_nil, h.fits_iff.symm⟩

theorem text_ne_empty (h : proper p.names ≠ []) : p.text ≠ "" := by
  intro hempty
  rw [names_eq, chars, hempty] at h
  exact h rfl

theorem names_ne_nil (h : proper p.names ≠ []) : p.names ≠ [] := by
  rintro hnil
  rw [hnil] at h
  exact h rfl

theorem proper_steps (p : Path) : proper p.steps = proper p.names := by
  obtain ⟨stay, hsteps, hstay⟩ := p.steps_eq
  rw [hsteps, proper_append_stay hstay]

theorem getLast?_names (h : p.steps.getLast? ≠ some ".") : p.names.getLast? ≠ some "." := by
  obtain ⟨stay, hsteps, rfl | rfl⟩ := p.steps_eq
  · rwa [hsteps, List.append_nil] at h
  · simp [hsteps] at h

theorem SameName.nul_mem_iff (h : p.SameName q) : '\x00' ∈ p.chars ↔ '\x00' ∈ q.chars := by
  rw [mem_chars_iff (by decide) (by decide), mem_chars_iff (by decide) (by decide), h.proper_eq]

theorem SameName.usable_iff (h : p.SameName q) : p.Usable ↔ q.Usable := by
  have himp : ∀ {p q : Path}, p.SameName q → p.Usable → q.Usable := fun hsame husable =>
    ⟨fun hnul => husable.nul_not_mem (hsame.nul_mem_iff.mpr hnul),
      text_ne_empty hsame.symm.proper_ne_nil, hsame.fits_iff.mp husable.size_le⟩
  exact ⟨himp h, himp h.symm⟩

theorem SameName.resolve_eq (h : p.SameName q) (hnot : ¬ p.Usable) (t : FileTree)
    (here : Location) (last : Bool) : t.resolve here last p = t.resolve here last q := by
  have hp := text_ne_empty h.proper_ne_nil
  have hq := text_ne_empty h.symm.proper_ne_nil
  rw [resolve, resolve, if_neg hp, if_neg hq]
  by_cases hnul : '\x00' ∈ p.chars
  · rw [if_pos hnul, if_pos (h.nul_mem_iff.mp hnul)]
  · rw [if_neg hnul, if_neg (mt h.nul_mem_iff.mpr hnul)]
    have hsize : ¬ p.text.length ≤ longestPath := fun hle => hnot ⟨hnul, hp, hle⟩
    rw [if_pos (Nat.not_le.mp hsize), if_pos (Nat.not_le.mp (mt h.fits_iff.mpr hsize))]

theorem getLast?_proper {names : List String} (h : names.getLast? ≠ some ".") :
    (proper names).getLast? = names.getLast? := by
  cases hlast : names.getLast? with
  | none => rw [List.getLast?_eq_none_iff.mp hlast]; rfl
  | some name =>
    obtain ⟨front, rfl⟩ := List.getLast?_eq_some_iff.mp hlast
    have hname : name ≠ "." := fun heq => h (by rw [hlast, heq])
    rw [proper_append, proper_cons hname, List.getLast?_append]
    rfl

end Path

namespace Workspace

variable {ws left : Workspace} {p q : Path} {loc there : Location} {e e' : Entry}
  {last : Bool}

/-! ### What stands at a name -/

/-- Where the proper names of a path lead; a link at the last one is not followed. -/
def place (ws : Workspace) (p : Path) : Except Fault Destination :=
  ws.tree.follow false mostLinks (start ws.here p) (proper p.names)

/-- What stands at the name that a path ends in, whether or not the path leads to it. -/
structure Stands (ws : Workspace) (p : Path) (loc : Location) (e : Entry) : Prop where
  place_eq : ws.place p = .ok (.existing loc)
  get?_eq : ws.tree.get? loc = some e

/-- The ending of a path makes no difference to what is at its name: a path that ends in a
separator or a `.` does not name a link, and one that ends in a `.` does not name a directory. -/
structure Named (ws : Workspace) (p : Path) : Prop where
  link : ∀ loc target, ws.Stands p loc (.link target) → p.steps.getLast? ≠ some "."
  directory : ∀ loc, ws.Stands p loc .directory → p.names.getLast? ≠ some "."

theorem place_congr (h : p.SameName q) (ws : Workspace) : ws.place p = ws.place q := by
  rw [place, place, h.proper_eq, start_eq h.isAbsolute_eq]

theorem Stands.unique {loc' : Location} {e' : Entry} (h : ws.Stands p loc e)
    (h' : ws.Stands p loc' e') : loc = loc' ∧ e = e' := by
  have hplace := h.place_eq.symm.trans h'.place_eq
  cases hplace
  exact ⟨rfl, Option.some.inj (h.get?_eq.symm.trans h'.get?_eq)⟩

theorem Stands.of_part (hhere : left.here = ws.here) (hpart : left.tree.PartOf ws.tree)
    (h : left.Stands p loc e) : ws.Stands p loc e := by
  refine ⟨?_, hpart _ _ h.get?_eq⟩
  have hplace := follow_of_part hpart h.place_eq
  rwa [hhere] at hplace

theorem exists_stands (hne : proper p.names ≠ []) (h : ws.place p = .ok (.existing loc)) :
    ∃ e, ws.Stands p loc e := by
  obtain ⟨e, he⟩ := Option.ne_none_iff_exists'.mp (get?_ne_none_of_follow hne h)
  exact ⟨e, h, he⟩

/-! ### What a path leads to -/

section
variable (husable : p.Usable)
include husable

theorem resolve_of_name (hend : p.steps.getLast? ≠ some ".") :
    ws.tree.resolve ws.here last p =
      ws.tree.follow last mostLinks (start ws.here p) (proper p.names) := by
  rw [resolve_of_usable husable, follow_proper hend, p.proper_steps]

theorem resolve_of_current (hend : p.steps.getLast? = some ".") :
    ws.tree.resolve ws.here last p =
      (ws.tree.follow true mostLinks (start ws.here p) (proper p.names)).bind
        (Destination.asDirectory ws.tree) := by
  rw [resolve_of_usable husable, follow_proper_current hend, p.proper_steps, follow_append_current]

theorem resolve_of_named (h : ws.Named p) :
    ws.tree.resolve ws.here false p = ws.place p ∨
      (∀ loc target, ¬ ws.Stands p loc (.link target)) ∧
        ws.tree.resolve ws.here false p =
          (ws.place p).bind (Destination.asDirectory ws.tree) := by
  by_cases hend : p.steps.getLast? = some "."
  · have hnone : ∀ loc target, ¬ ws.Stands p loc (.link target) :=
      fun loc target hstands => h.link loc target hstands hend
    refine .inr ⟨hnone, ?_⟩
    -- The last name is followed because of the dot, which makes no difference without a link.
    rw [resolve_of_current husable hend, follow_followed]
    · rfl
    · exact fun loc hplace target hlink => hnone loc target ⟨hplace, hlink⟩
  · exact .inl (resolve_of_name husable hend)

section
variable (hnames : p.names ≠ []) (hend : p.names.getLast? ≠ some ".")
include hnames hend

theorem resolve_trimmed :
    ws.tree.resolve ws.here last (trimmed p) =
      ws.tree.follow last mostLinks (start ws.here p) (proper p.names) := by
  rw [resolve_of_name (husable.trimmed hnames) (by rwa [p.steps_trimmed]), p.names_trimmed,
    start_eq (p.isAbsolute_trimmed hnames)]

/-- Without its last separators a path leads to what stands at its name. -/
theorem find_trimmed_eq_ok_iff : ws.find false (trimmed p) = .ok (loc, e) ↔ ws.Stands p loc e := by
  have hresolve : ws.tree.resolve ws.here false (trimmed p) = ws.place p :=
    resolve_trimmed husable hnames hend
  refine ⟨fun h => ?_, fun h => ?_⟩
  · obtain ⟨hfollow, he⟩ := find_eq_ok_iff.mp h
    exact ⟨hresolve.symm.trans (resolve_eq_ok_iff.mpr hfollow), he⟩
  · exact find_eq_ok_iff.mpr ⟨resolve_eq_ok_iff.mp (hresolve.trans h.place_eq), h.get?_eq⟩

end

end

theorem stands_of_find (hnamed : ws.Named p) (h : ws.find false p = .ok (loc, e)) :
    ws.Stands p loc e := by
  obtain ⟨⟨husable, hfollow⟩, he⟩ := find_eq_ok_iff.mp h
  refine ⟨?_, he⟩
  have hexisting := resolve_eq_ok_iff.mpr ⟨husable, hfollow⟩
  rcases resolve_of_named husable hnamed with hplace | ⟨-, hplace⟩
  · rwa [hplace] at hexisting
  · rw [hplace] at hexisting
    obtain ⟨d, hd, hexisting⟩ := exists_of_bind_eq_ok hexisting
    cases d with
    | vacant directory name => cases hexisting
    | existing there =>
      rw [Destination.asDirectory] at hexisting
      split at hexisting
      · cases hexisting
        exact hd
      · cases hexisting

/-! ### Removing what stands at a name -/

section
variable (husable : p.Usable) (hnamed : ws.Named p)
include husable hnamed

theorem removeAll_of_error {fault : Fault} (h : ws.place p = .error fault) :
    ws.removeAll p = (.error fault, ws) := by
  have hresolve : ws.tree.resolve ws.here false p = .error fault := by
    rcases resolve_of_named husable hnamed with hplace | ⟨-, hplace⟩
    · rw [hplace, h]
    · rw [hplace, h]
      rfl
  rw [removeAll, find_eq, hresolve]

theorem removeAll_of_vacant {directory : Location} {name : String}
    (h : ws.place p = .ok (.vacant directory name)) :
    ws.removeAll p = (.error .notFound, ws) := by
  have hfind : ws.find false p = .error .notFound := by
    rw [find_eq]
    rcases resolve_of_named husable hnamed with hplace | ⟨-, hplace⟩
    · rw [hplace, h]
    · rw [hplace, h]
      rfl
  rw [removeAll, hfind]

theorem find_of_stands (h : ws.Stands p loc e) (hfile : ∀ contents, e ≠ .file contents) :
    ws.find false p = .ok (loc, e) := by
  obtain ⟨hplace, he⟩ := h
  rw [find_eq]
  rcases resolve_of_named husable hnamed with hresolve | ⟨hnone, hresolve⟩
  · rw [hresolve, hplace]
    dsimp only
    rw [he]
  · rw [hresolve, hplace]
    cases e with
    | link target => exact absurd ⟨hplace, he⟩ (hnone loc target)
    | file contents => exact absurd rfl (hfile contents)
    | directory =>
      have hdirectory : (Destination.existing loc).asDirectory ws.tree = .ok (.existing loc) :=
        if_pos he
      simp only [Except.bind, hdirectory, he]

theorem removeAll_of_file {contents : Bytes} (h : ws.Stands p loc (.file contents)) :
    ws.removeAll p = (.error .notADirectory, ws) := by
  obtain ⟨hplace, he⟩ := h
  rw [removeAll, find_eq]
  rcases resolve_of_named husable hnamed with hresolve | ⟨-, hresolve⟩
  · rw [hresolve, hplace]
    dsimp only
    rw [he]
  · have hfile : (Destination.existing loc).asDirectory ws.tree = .error .notADirectory := by
      have hnot : ¬ ws.tree.IsDirectory loc := by
        rw [IsDirectory, he]
        simp
      rw [Destination.asDirectory, if_neg hnot, astray, he, if_neg (by simp)]
    rw [hresolve, hplace]
    simp only [Except.bind, hfile]

end

theorem removeDirectory_congr (h : p.SameName q) (husable : p.Usable)
    (hp : p.names.getLast? ≠ some ".") (hq : q.names.getLast? ≠ some ".") :
    ws.removeDirectory p = ws.removeDirectory q := by
  have hlast : p.names.getLast? = q.names.getLast? := by
    rw [← Path.getLast?_proper hp, ← Path.getLast?_proper hq, h.proper_eq]
  have hfind : ∀ last, ws.find last (trimmed p) = ws.find last (trimmed q) := by
    intro last
    rw [find_eq, find_eq, resolve_trimmed husable (Path.names_ne_nil h.proper_ne_nil) hp,
      resolve_trimmed (h.usable_iff.mp husable) (Path.names_ne_nil h.symm.proper_ne_nil) hq,
      h.proper_eq, start_eq h.isAbsolute_eq]
  rw [removeDirectory, removeDirectory, hlast, h.isAbsolute_eq, hfind, hfind]

theorem Stands.congr (h : p.SameName q) (hstands : ws.Stands p loc e) : ws.Stands q loc e :=
  ⟨(place_congr h ws).symm.trans hstands.place_eq, hstands.get?_eq⟩

/-- Two spellings of one name that both name what stands there remove the same with the same
answer. -/
theorem removeAll_congr (h : p.SameName q) (hp : ws.Named p) (hq : ws.Named q) :
    ws.removeAll p = ws.removeAll q := by
  by_cases husable : p.Usable
  · have husable' := h.usable_iff.mp husable
    have hplace := place_congr h ws
    cases hd : ws.place p with
    | error fault =>
      rw [removeAll_of_error husable hp hd, removeAll_of_error husable' hq (hplace ▸ hd)]
    | ok d =>
      cases d with
      | vacant directory name =>
        rw [removeAll_of_vacant husable hp hd, removeAll_of_vacant husable' hq (hplace ▸ hd)]
      | existing loc =>
        obtain ⟨e, hstands⟩ := exists_stands h.proper_ne_nil hd
        have hstands' := hstands.congr h
        -- One spelling may find a file that the other cannot go through; both are refused alike.
        by_cases hfile : ∃ contents, e = .file contents
        · obtain ⟨contents, rfl⟩ := hfile
          rw [removeAll_of_file husable hp hstands, removeAll_of_file husable' hq hstands']
        · have hother : ∀ contents, e ≠ .file contents := fun contents he => hfile ⟨contents, he⟩
          rw [removeAll, removeAll, find_of_stands husable hp hstands hother,
            find_of_stands husable' hq hstands' hother]
          cases e with
          | file contents => rfl
          | link target => rfl
          | directory =>
            dsimp only
            rw [removeDirectory_congr h husable (hp.directory loc hstands)
              (hq.directory loc hstands')]
  · obtain ⟨fault, hfault⟩ := resolve_of_not_usable husable
    have hfault' := hfault
    simp only [h.resolve_eq husable] at hfault'
    rw [removeAll, removeAll, find_eq, find_eq, hfault, hfault']

theorem Stands.loc_ne_nil (h : ws.Stands p loc e) (hne : proper p.names ≠ [])
    (hup : (proper p.names).getLast? ≠ some "..") : loc ≠ [] := by
  obtain ⟨n, hroute⟩ := route_of_follow h.place_eq
  obtain ⟨name, hname⟩ : ∃ name, (proper p.names).getLast? = some name :=
    ⟨_, List.getLast?_eq_some_getLast hne⟩
  have hcurrent : name ≠ "." := by
    have hmem := (List.mem_filter.mp (List.mem_of_getLast? hname)).2
    simpa using hmem
  obtain ⟨directory, rfl⟩ := hroute.exists_concat hname hcurrent fun heq => hup (by rw [hname, heq])
  simp

theorem not_stands_of_prune (hstands : ws.Stands p there e') (hroot : there ≠ []) :
    ¬ (ws.withTree (ws.tree.prune there)).Stands p loc e := by
  intro hleft
  have hshrunk := shrunk_prune ws there
  obtain ⟨rfl, -⟩ := hstands.unique (hleft.of_part hshrunk.here hshrunk.partOf)
  have hgone : (ws.tree.prune there).get? there = none := by
    rw [get?_prune hroot, if_pos (List.isPrefixOf_iff_prefix.mpr List.prefix_rfl)]
  cases hgone.symm.trans hleft.get?_eq

theorem removeDirectory_ne_notFound {found : Location × Entry} (hne : p.names ≠ [])
    (hend : p.names.getLast? ≠ some ".") (hup : p.names.getLast? ≠ some "..")
    (h : ws.find false (trimmed p) = .ok found) : ws.removeDirectory p ≠ .error .notFound := by
  obtain ⟨name, hname⟩ : ∃ name, p.names.getLast? = some name :=
    ⟨_, List.getLast?_eq_some_getLast hne⟩
  obtain ⟨top, e⟩ := found
  rw [hname] at hend hup
  rw [removeDirectory, hname, h]
  dsimp only
  rw [if_neg fun heq => hend (by rw [heq]), if_neg fun heq => hup (by rw [heq])]
  intro hmissing
  cases e with
  | file contents => cases hmissing
  | link target => cases hmissing
  | directory =>
    dsimp only [bind, Except.bind] at hmissing
    split at hmissing <;> cases hmissing

/-- When a removal succeeds, or finds nothing to remove, nothing stands at the name afterwards. -/
theorem not_stands_of_removeAll (hne : proper p.names ≠ [])
    (hup : (proper p.names).getLast? ≠ some "..") (hnamed : ws.Named p)
    (h : (ws.removeAll p).1 = .ok () ∨ (ws.removeAll p).1 = .error .notFound) :
    ¬ (ws.removeAll p).2.Stands p loc e := by
  have hnames := Path.names_ne_nil hne
  unfold removeAll at h ⊢
  cases hf : ws.find false p with
  | error fault =>
    rw [hf] at h
    obtain rfl : fault = .notFound := by simpa using h
    intro hstands
    have husable := usable_of_notFound hnames hf
    by_cases hfile : ∃ contents, e = .file contents
    · obtain ⟨contents, rfl⟩ := hfile
      have hrefused := removeAll_of_file husable hnamed hstands
      rw [removeAll, hf] at hrefused
      cases hrefused
    · cases hf.symm.trans (find_of_stands husable hnamed hstands fun contents he =>
        hfile ⟨contents, he⟩)
  | ok found =>
    obtain ⟨top, entry⟩ := found
    have husable := (find_eq_ok_iff.mp hf).1.1
    have hstands := stands_of_find hnamed hf
    rw [hf] at h
    cases entry with
    | file contents => simp at h
    | link target => exact not_stands_of_prune hstands (hstands.loc_ne_nil hne hup)
    | directory =>
      have hend := hnamed.directory top hstands
      dsimp only at h ⊢
      cases hremoved : (ws.withTree (ws.tree.clear top)).removeDirectory p with
      | ok removed =>
        obtain ⟨-, other, htrimmed, rfl⟩ := removeDirectory_eq_ok hremoved
        have hother := (find_trimmed_eq_ok_iff husable hnames hend).mp htrimmed
        exact not_stands_of_prune hother (hother.loc_ne_nil hne hup)
      | error fault =>
        rw [hremoved] at h
        by_cases hmissing : fault = .notFound
        · subst hmissing
          -- The way to the directory led through what was in it, and now leads nowhere.
          intro hleft
          rw [Path.getLast?_proper hend] at hup
          exact removeDirectory_ne_notFound hnames hend hup
            ((find_trimmed_eq_ok_iff husable hnames hend).mpr hleft) hremoved
        · exfalso
          revert h
          split <;> simp_all

/-- All that a removal takes away is what stands at the name, and what lies below it when that is
a directory. -/
theorem shrunk_removeAll_of_named (hnamed : ws.Named p) :
    Shrunk (fun loc => ∃ top e, ws.Stands p top e ∧ (loc = top ∨ e = .directory ∧ top <+: loc))
      ws (ws.removeAll p).2 := by
  have hshrunk := shrunk_removeAll ws p
  refine ⟨hshrunk.here, fun loc => ?_⟩
  rcases hshrunk.tree loc with hsame | ⟨⟨top, e, hfind, habove⟩, hnone⟩
  · exact .inl hsame
  · have hstands := stands_of_find hnamed hfind
    by_cases hwithin : loc = top ∨ e = .directory
    · exact .inr ⟨⟨top, e, hstands, hwithin.imp id fun hdir => ⟨hdir, habove⟩⟩, hnone⟩
    · -- Nothing lies below a link or a file.
      rw [not_or] at hwithin
      left
      rw [hnone]
      cases he : ws.tree.get? loc with
      | none => rfl
      | some other =>
        have hdir := isDirectory_of_above he habove (Ne.symm hwithin.1)
        rw [IsDirectory, hstands.get?_eq] at hdir
        exact absurd (Option.some.inj hdir) hwithin.2

/-! ### Removing what lies behind a name -/

theorem removeDirectory_of_current (h : p.names.getLast? = some ".") :
    ws.removeDirectory p ≠ .ok left := by
  intro hok
  rw [removeDirectory, h] at hok
  dsimp only at hok
  rw [if_pos rfl] at hok
  cases hf : ws.find true (trimmed p) <;> rw [hf] at hok <;> cases hok

/-- A path that does not name what stands at its name leads to a directory or nowhere, and follows
a link at its end whether or not it is asked to. -/
theorem find_of_not_named (h : ¬ ws.Named p) :
    ws.find true p = ws.find false p ∧
      ∀ loc e, ws.find false p = .ok (loc, e) → e = .directory := by
  by_cases husable : p.Usable
  · -- Whatever stands there, a path without a dot at its end names it.
    have hend : p.steps.getLast? = some "." := by
      by_contra hend
      exact h ⟨fun _ _ _ => hend, fun _ _ => Path.getLast?_names hend⟩
    have hresolve : ∀ last, ws.tree.resolve ws.here last p =
        (ws.tree.follow true mostLinks (start ws.here p) (proper p.names)).bind
          (Destination.asDirectory ws.tree) := fun last => resolve_of_current husable hend
    refine ⟨by rw [find_eq, find_eq, hresolve, hresolve], fun loc e hfind => ?_⟩
    obtain ⟨hfollow, he⟩ := find_eq_ok_iff.mp hfind
    have hexisting := resolve_eq_ok_iff.mpr hfollow
    rw [hresolve] at hexisting
    obtain ⟨d, -, hexisting⟩ := exists_of_bind_eq_ok hexisting
    cases d with
    | vacant directory name => cases hexisting
    | existing there =>
      rw [Destination.asDirectory] at hexisting
      split at hexisting
      · next hdir =>
        cases hexisting
        exact Option.some.inj (he.symm.trans hdir)
      · cases hexisting
  · obtain ⟨fault, hfault⟩ := resolve_of_not_usable husable
    rw [find_eq, find_eq, hfault, hfault]
    exact ⟨rfl, nofun⟩

/-- A directory that such a path leads to cannot be removed by it. -/
theorem removeDirectory_of_not_named {removed : Workspace} (h : ¬ ws.Named p)
    (hfind : ws.find false p = .ok (there, .directory)) :
    (ws.withTree (ws.tree.clear there)).removeDirectory p ≠ .ok removed := by
  intro hremoved
  by_cases hend : p.names.getLast? = some "."
  · exact removeDirectory_of_current hend hremoved
  · obtain ⟨hnames, top, htrimmed, -⟩ := removeDirectory_eq_ok hremoved
    have husable := (find_eq_ok_iff.mp hfind).1.1
    have hshrunk := shrunk_clear ws there
    have hstands := ((find_trimmed_eq_ok_iff husable hnames hend).mp htrimmed).of_part
      hshrunk.here hshrunk.partOf
    -- A directory stands at the name, and the path does not end in a dot, so it names it.
    refine h ⟨fun loc target hlink => ?_, fun _ _ => hend⟩
    cases (hstands.unique hlink).2

/-- A removal by a path that does not name what stands at its name empties the directory that the
path leads to and removes nothing else. -/
theorem removeAll_of_not_named (h : ¬ ws.Named p) :
    (ws.removeAll p).2 =
      match ws.find true p with
      | .ok (there, _) => ws.withTree (ws.tree.clear there)
      | .error _ => ws := by
  obtain ⟨hsame, hdirectory⟩ := find_of_not_named h
  rw [hsame, removeAll]
  cases hf : ws.find false p with
  | error fault => rfl
  | ok found =>
    obtain ⟨there, e⟩ := found
    obtain rfl := hdirectory there e hf
    dsimp only
    split
    · next hremoved => exact absurd hremoved (removeDirectory_of_not_named h hf)
    · rfl
    · rfl

end Workspace

end GoldenSuite
