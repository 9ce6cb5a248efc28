import GoldenSuite.Proofs.FileTree.Laid
import GoldenSuite.Proofs.Workspace.Seeing
import GoldenSuite.Proofs.Workspace.Shrinking

/-!
# Removing what is seen

Below a directory where no link is seen, what becomes of a removal is told by what the names of
its path lead to in the view from there: nothing, and then there is nothing to remove; a file,
which is refused; or a directory, which is gone afterwards with everything in it.
-/

namespace GoldenSuite

open FileTree

/-! ### Names in a view -/

namespace View

variable {view view' : View} {here names rest : List String} {e : Entry} {name : String}

theorem entry_congr_way
    (h : ∀ inner, inner <+: proper names → view (here ++ inner) = view' (here ++ inner)) :
    view.entry here names = view'.entry here names := by
  have hhere : view here = view' here := by simpa using h [] List.nil_prefix
  induction names generalizing here with
  | nil => rw [entry, entry, hhere]
  | cons name rest ih =>
    rw [entry, entry, hhere]
    by_cases hname : name = "."
    · subst hname
      rw [proper_current] at h
      rw [if_pos rfl, if_pos rfl, ih h hhere]
    · rw [proper_cons hname] at h
      have hnext : view (here ++ [name]) = view' (here ++ [name]) := h [name] (by simp)
      have hrest : view.entry (here ++ [name]) rest = view'.entry (here ++ [name]) rest := by
        refine ih (fun inner hinner => ?_) hnext
        rw [List.append_assoc]
        exact h (name :: inner) (by simpa using hinner)
      rw [if_neg hname, if_neg hname, hnext, hrest]

theorem entry_append (hhere : view here ≠ none) :
    view.entry here (names ++ rest) =
      (view.entry here names).bind fun _ => view.entry (here ++ proper names) rest := by
  induction names generalizing here with
  | nil =>
    obtain ⟨e, he⟩ := Option.ne_none_iff_exists'.mp hhere
    rw [entry, he]
    simp [proper, Except.bind]
  | cons name others ih =>
    rw [List.cons_append, entry, entry]
    by_cases hdir : view here ≠ some .directory
    · rw [if_pos hdir, if_pos hdir]
      rfl
    · rw [if_neg hdir, if_neg hdir]
      by_cases hname : name = "."
      · rw [if_pos hname, if_pos hname, ih hhere, hname, proper_current]
      · rw [if_neg hname, if_neg hname]
        by_cases hsize : longestName < name.length
        · rw [if_pos hsize, if_pos hsize]
          rfl
        · rw [if_neg hsize, if_neg hsize]
          cases he : view (here ++ [name]) with
          | none => rfl
          | some e =>
            dsimp only
            rw [ih (by simp [he]), proper_cons hname, List.append_assoc]
            rfl

theorem get?_of_entry (h : view.entry here names = .ok e) :
    view (here ++ proper names) = some e := by
  induction names generalizing here with
  | nil =>
    rw [entry] at h
    cases he : view here with
    | none =>
      rw [he] at h
      cases h
    | some e' =>
      rw [he] at h
      cases h
      simpa [proper] using he
  | cons name rest ih =>
    rw [entry] at h
    split at h
    · cases h
    · split at h
      · next hname =>
        rw [hname, proper_current]
        exact ih h
      · next hname =>
        split at h
        · cases h
        · split at h
          · cases h
          · have hrest := ih h
            rwa [List.append_assoc, List.singleton_append, ← proper_cons hname] at hrest

theorem get?_of_entry_notFound (hclosed : ∀ loc more, view loc = none → view (loc ++ more) = none)
    (h : view.entry here names = .error .notFound) : view (here ++ proper names) = none := by
  induction names generalizing here with
  | nil =>
    rw [entry] at h
    cases he : view here with
    | none => simpa [proper] using he
    | some e =>
      rw [he] at h
      cases h
  | cons name rest ih =>
    rw [entry] at h
    split at h
    · by_cases hnone : view here = none
      · exact hclosed _ _ hnone
      · rw [if_neg hnone] at h
        cases h
    · split at h
      · next hname =>
        rw [hname, proper_current]
        exact ih h
      · next hname =>
        rw [proper_cons hname, ← List.singleton_append, ← List.append_assoc]
        split at h
        · cases h
        · split at h
          · next hnone => exact hclosed _ _ hnone
          · exact ih h

end View

/-! ### Trees -/

namespace FileTree

variable {t : FileTree} {loc other : Location}

theorem get?_append_of_none (h : t.get? loc = none) (more : Location) :
    t.get? (loc ++ more) = none := by
  cases he : t.get? (loc ++ more) with
  | none => rfl
  | some e =>
    by_cases hmore : more = []
    · rw [hmore, List.append_nil, h] at he
      cases he
    · have hdir := isDirectory_of_above he (List.prefix_append loc more) (by simpa using hmore)
      rw [IsDirectory, h] at hdir
      cases hdir

theorem get?_clear_of_above (h : other <+: loc) : (t.clear loc).get? other = t.get? other := by
  by_cases hroot : other = []
  · rw [hroot]
    rfl
  · have hnot : below loc other = false := by
      rw [← Bool.not_eq_true, below, Bool.and_eq_true, bne_iff_ne, List.isPrefixOf_iff_prefix]
      rintro ⟨habove, hne⟩
      exact hne (habove.eq_of_length_le h.length_le)
    rw [get?_clear hroot, if_neg (by simp [hnot])]

theorem children_clear_self : (t.clear loc).children loc = [] := by
  refine List.eq_nil_iff_forall_not_mem.mpr fun name hname => ?_
  obtain ⟨e, he⟩ := mem_children_iff.mp hname
  rw [get?_clear (by simp), if_pos (below_append_singleton loc name)] at he
  cases he

theorem get?_prune_clear (hloc : loc ≠ []) (other : Location) :
    ((t.clear loc).prune loc).get? other = if loc <+: other then none else t.get? other := by
  by_cases hroot : other = []
  · subst hroot
    have hnot : ¬ loc <+: [] := by simpa using hloc
    rw [if_neg hnot]
    rfl
  · rw [get?_prune hroot, get?_clear hroot]
    by_cases h : loc <+: other
    · rw [if_pos h, if_pos (List.isPrefixOf_iff_prefix.mpr h)]
    · have hbelow : below loc other = false := by
        rw [← Bool.not_eq_true, below, Bool.and_eq_true, List.isPrefixOf_iff_prefix]
        exact fun hboth => h hboth.1
      rw [if_neg h, if_neg (by rwa [List.isPrefixOf_iff_prefix]), if_neg (by simp [hbelow])]

end FileTree

/-! ### Paths without their last separators -/

theorem Path.Usable.trimmed {p : Path} (h : p.Usable) (hnames : p.names ≠ []) :
    (Workspace.trimmed p).Usable := by
  obtain ⟨n, hn⟩ := p.chars_eq_trimmed_append
  refine ⟨fun hmem => h.nul_not_mem ?_, fun hempty => hnames ?_, ?_⟩
  · rw [hn]
    exact List.mem_append_left _ hmem
  · rw [← p.names_trimmed, names_eq, chars, hempty]
    rfl
  · refine Nat.le_trans ?_ h.size_le
    have htext : p.text = (Workspace.trimmed p).text ++ String.ofList (List.replicate n '/') := by
      rw [← String.toList_inj, String.toList_append, String.toList_ofList]
      exact hn
    rw [htext, String.length_append]
    exact Nat.le_add_right _ _

theorem Workspace.usable_of_notFound {ws : Workspace} {p : Path} {last : Bool}
    (hnames : p.names ≠ []) (h : ws.find last p = .error .notFound) : p.Usable := by
  rw [find_eq, resolve] at h
  have hempty : p.text ≠ "" := by
    intro hempty
    rw [Path.names_eq, Path.chars, hempty] at hnames
    exact hnames rfl
  refine ⟨fun hnul => ?_, hempty, Nat.not_lt.mp fun hsize => ?_⟩
  · rw [if_pos hnul] at h
    cases h
  · by_cases hnul : '\x00' ∈ p.chars
    · rw [if_pos hnul] at h
      cases h
    · rw [if_neg hnul, if_neg hempty, if_pos hsize] at h
      cases h

/-! ### Removals -/

namespace Workspace

variable {ws ws' : Workspace} {base p : Path} {root : Location} {inner : List String}

section
variable (hroot : ws.find true base = .ok (root, .directory)) (hlinks : ws.Unlinked base)
  (hstart : p.isAbsolute = base.isAbsolute) (hnames : p.names = base.names ++ inner)
  (hinner : inner ≠ []) (hup : ".." ∉ inner)
include hroot hlinks hstart hnames hinner hup

theorem loc_of_find_unlinked {last : Bool} {loc : Location} {e : Entry}
    (h : ws.find last p = .ok (loc, e)) : loc = root ++ proper inner := by
  refine loc_of_find hroot hstart hnames hinner hup (fun names _ target hlink => ?_) h
  have hseen := hlinks names target
  rw [seen_apply hroot] at hseen
  exact hseen hlink

/-- A path leads where its names lead in the view, to a directory when it ends in separators. -/
theorem exists_entry_of_usable (husable : p.Usable) :
    ∃ stay, (stay = [] ∨ stay = ["."]) ∧ ∀ last,
      (ws.find last p).map Prod.snd = (ws.seen base).entry [] (inner ++ stay) := by
  obtain ⟨stay, hsteps, hstay⟩ := p.steps_eq
  rw [hnames, List.append_assoc] at hsteps
  refine ⟨stay, hstay, fun last => entry_of_find hroot hlinks husable hstart hsteps hinner ?_ last⟩
  exact parent_not_mem_append_stay hstay hup

theorem get?_of_find_notFound {last : Bool} (h : ws.find last p = .error .notFound) :
    ws.tree.get? (root ++ proper inner) = none := by
  have husable : p.Usable := usable_of_notFound (by simp [hnames, hinner]) h
  obtain ⟨stay, hstay, hentry⟩ :=
    exists_entry_of_usable hroot hlinks hstart hnames hinner hup husable
  have hnone := hentry last
  rw [h] at hnone
  have hview := View.get?_of_entry_notFound (fun loc more hloc => ?_) hnone.symm
  · rw [List.nil_append, seen_apply hroot, proper_append_stay hstay] at hview
    exact hview
  · rw [seen_apply hroot] at hloc ⊢
    rw [← List.append_assoc]
    exact get?_append_of_none hloc more

theorem find_trimmed_of_cleared {last : Bool} {loc : Location}
    (hfound : ws.find false p = .ok (loc, .directory))
    (hcleared : (ws.withTree (ws.tree.clear loc)).find true base = .ok (root, .directory)) :
    (ws.withTree (ws.tree.clear loc)).find last (trimmed p) = .ok (loc, .directory) := by
  have hplace := loc_of_find_unlinked hroot hlinks hstart hnames hinner hup hfound
  have husable : p.Usable := (find_eq_ok_iff.mp hfound).1.1
  have hne : p.names ≠ [] := by simp [hnames, hinner]
  -- Nothing that comes in the view of the emptied directory is new.
  have hlinks' : (ws.withTree (ws.tree.clear loc)).Unlinked base := by
    intro names target hlink
    rw [seen_apply hcleared] at hlink
    have hseen := hlinks names target
    rw [seen_apply hroot] at hseen
    exact hseen ((shrunk_clear ws loc).partOf _ _ hlink)
  have hway : ∀ names, names <+: proper inner →
      ws.seen base ([] ++ names) = (ws.withTree (ws.tree.clear loc)).seen base ([] ++ names) := by
    intro names hin
    rw [seen_apply hroot, seen_apply hcleared, List.nil_append]
    refine (get?_clear_of_above ?_).symm
    rw [hplace, List.prefix_append_right_inj]
    exact hin
  have hentry : (ws.seen base).entry [] inner = .ok .directory := by
    obtain ⟨stay, hstay, hentry⟩ :=
      exists_entry_of_usable hroot hlinks hstart hnames hinner hup husable
    have hfirst := hentry false
    rw [hfound, View.entry_append (by simp [seen_root hroot])] at hfirst
    cases he : (ws.seen base).entry [] inner with
    | error fault =>
      rw [he] at hfirst
      cases hfirst
    | ok e =>
      have hthere := View.get?_of_entry he
      rw [List.nil_append, seen_apply hroot] at hthere
      have hhere := get?_of_find hfound
      rw [hplace] at hhere
      rw [Option.some.inj (hthere.symm.trans hhere)]
  have hsteps : (trimmed p).steps = base.names ++ (inner ++ []) := by
    rw [p.steps_trimmed, hnames, List.append_nil]
  have htrimmed : ((ws.withTree (ws.tree.clear loc)).find last (trimmed p)).map Prod.snd =
      .ok .directory := by
    rw [entry_of_find hcleared hlinks' (husable.trimmed hne)
      ((p.isAbsolute_trimmed hne).trans hstart) hsteps hinner (by simpa using hup) last,
      List.append_nil, ← View.entry_congr_way hway, hentry]
  cases hf : (ws.withTree (ws.tree.clear loc)).find last (trimmed p) with
  | error fault =>
    rw [hf] at htrimmed
    cases htrimmed
  | ok found =>
    obtain ⟨there, e⟩ := found
    rw [hf] at htrimmed
    cases htrimmed
    have hthere := loc_of_find_unlinked hcleared hlinks' ((p.isAbsolute_trimmed hne).trans hstart)
      (p.names_trimmed.trans hnames) hinner hup hf
    rw [hthere, hplace]

section
variable {loc : Location} (hfound : ws.find false p = .ok (loc, .directory))
  (hcleared : (ws.withTree (ws.tree.clear loc)).find true base = .ok (root, .directory))
include hfound hcleared

theorem removeAll_of_directory (hlast : inner.getLast? ≠ some ".") :
    ws.removeAll p = (.ok (), ws.withTree ((ws.tree.clear loc).prune loc)) := by
  obtain ⟨last, hsome⟩ := Option.ne_none_iff_exists'.mp (mt List.getLast?_eq_none_iff.mp hinner)
  have hnone : last ≠ "." := fun heq => hlast (hsome.trans (congrArg some heq))
  have hparent : last ≠ ".." := by
    rintro rfl
    exact hup (List.mem_of_getLast? hsome)
  have hnamesLast : p.names.getLast? = some last := by
    rw [hnames, List.getLast?_append, hsome, Option.some_or]
  have hremoved : (ws.withTree (ws.tree.clear loc)).removeDirectory p =
      .ok (ws.withTree ((ws.tree.clear loc).prune loc)) := by
    rw [removeDirectory, hnamesLast]
    dsimp only
    rw [if_neg hnone, if_neg hparent,
      find_trimmed_of_cleared hroot hlinks hstart hnames hinner hup hfound hcleared]
    exact if_pos children_clear_self
  rw [removeAll, hfound]
  dsimp only
  rw [hremoved]

/-- A directory is emptied, but not removed, when its path ends with a step to where one is. -/
theorem removeAll_of_current (hlast : inner.getLast? = some ".") :
    ws.removeAll p = (.error .invalidArgument, ws.withTree (ws.tree.clear loc)) := by
  have hnamesLast : p.names.getLast? = some "." := by
    rw [hnames, List.getLast?_append, hlast, Option.some_or]
  have hremoved : (ws.withTree (ws.tree.clear loc)).removeDirectory p =
      .error .invalidArgument := by
    rw [removeDirectory, hnamesLast]
    dsimp only
    rw [if_pos rfl, find_trimmed_of_cleared hroot hlinks hstart hnames hinner hup hfound hcleared]
    rfl
  rw [removeAll, hfound]
  dsimp only
  rw [hremoved]
  rfl

end

/-- What a path leads to that can be removed: nothing at all, or a directory that the path does
not end in by a step to where one is. -/
def Removable (inner : List String) (answer : Except Fault Entry) : Prop :=
  answer = .error .notFound ∨ answer = .ok .directory ∧ inner.getLast? ≠ some "."

section
variable (hcleared : ∀ loc, ws.find false p = .ok (loc, .directory) →
  (ws.withTree (ws.tree.clear loc)).find true base = .ok (root, .directory))
include hcleared

theorem removeAll_of_removable (h : Removable inner ((ws.find false p).map Prod.snd)) :
    ((ws.removeAll p).1 = .ok () ∨ (ws.removeAll p).1 = .error .notFound) ∧
      (ws.removeAll p).2.here = ws.here ∧ ∀ loc, (ws.removeAll p).2.tree.get? loc =
        if root ++ proper inner <+: loc then none else ws.tree.get? loc := by
  rcases h with hnone | ⟨hdir, hlast⟩
  · have hfound : ws.find false p = .error .notFound := by
      cases hf : ws.find false p with
      | error fault =>
        rw [hf] at hnone
        cases hnone
        rfl
      | ok found =>
        rw [hf] at hnone
        cases hnone
    have hfree := get?_of_find_notFound hroot hlinks hstart hnames hinner hup hfound
    rw [removeAll, hfound]
    refine ⟨.inr rfl, rfl, fun loc => ?_⟩
    dsimp only
    split
    · next hin =>
      obtain ⟨more, rfl⟩ := hin
      exact get?_append_of_none hfree more
    · rfl
  · cases hf : ws.find false p with
    | error fault =>
      rw [hf] at hdir
      cases hdir
    | ok found =>
      obtain ⟨loc, e⟩ := found
      rw [hf] at hdir
      cases hdir
      rw [removeAll_of_directory hroot hlinks hstart hnames hinner hup hf (hcleared loc hf) hlast]
      obtain rfl := loc_of_find_unlinked hroot hlinks hstart hnames hinner hup hf
      refine ⟨.inl rfl, rfl, get?_prune_clear ?_⟩
      obtain ⟨last, hsome⟩ := Option.ne_none_iff_exists'.mp (mt List.getLast?_eq_none_iff.mp hinner)
      have hmem : last ∈ proper inner := by
        refine List.mem_filter.mpr ⟨List.mem_of_getLast? hsome, decide_eq_true fun heq => ?_⟩
        exact hlast (hsome.trans (congrArg some heq))
      simp [List.ne_nil_of_mem hmem]

theorem removeAll_of_not_removable (h : ¬ Removable inner ((ws.find false p).map Prod.snd)) :
    ∃ fault, (ws.removeAll p).1 = .error fault ∧ fault ≠ .notFound := by
  cases hf : ws.find false p with
  | error fault =>
    rw [hf] at h
    refine ⟨fault, by rw [removeAll, hf], fun heq => h (.inl ?_)⟩
    rw [heq]
    rfl
  | ok found =>
    obtain ⟨loc, e⟩ := found
    rw [hf] at h
    cases e with
    | file contents =>
      rw [removeAll, hf]
      exact ⟨.notADirectory, rfl, by decide⟩
    | link target =>
      exfalso
      have hloc := loc_of_find_unlinked hroot hlinks hstart hnames hinner hup hf
      have hseen := hlinks (proper inner) target
      rw [seen_apply hroot, ← hloc] at hseen
      exact hseen (get?_of_find hf)
    | directory =>
      have hlast : inner.getLast? = some "." := by
        by_contra hne
        exact h (.inr ⟨rfl, hne⟩)
      rw [removeAll_of_current hroot hlinks hstart hnames hinner hup hf (hcleared loc hf) hlast]
      exact ⟨.invalidArgument, rfl, by decide⟩

end

end

end Workspace

end GoldenSuite
