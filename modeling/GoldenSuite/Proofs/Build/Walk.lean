import GoldenSuite.Build.Sources
import GoldenSuite.Proofs.Case.Discovered
import GoldenSuite.Proofs.FileTree.Laid
import GoldenSuite.Proofs.Path.Order
import GoldenSuite.Proofs.Workspace.Passing
import Mathlib.Data.List.Nodup

/-!
# The walk through the source directory

The walk goes down through real directories, however deep they lie, and comes to every file below
its start exactly once: each regular file and each link that leads to one. Links to directories
and links that lead nowhere or in circles are come to and passed over. The walk is done when every
directory on it can be listed by its path.
-/

namespace GoldenSuite

open FileTree

/-! ### Paths straight down -/

/-- The path that goes on from another one by names. -/
def Path.descend (base : Path) (names : List String) : Path :=
  names.foldl (fun path name => path.join ⟨name⟩) base

theorem Path.descend_cons (base : Path) (name : String) (names : List String) :
    base.descend (name :: names) = (base.join ⟨name⟩).descend names := rfl

theorem Path.components_descend {base : Path} {names : List String}
    (h : ∀ name ∈ names, IsName name) :
    (base.descend names).components = base.components ++ names.map .normal := by
  induction names generalizing base with
  | nil => simp [descend]
  | cons name names ih =>
    rw [List.forall_mem_cons] at h
    rw [descend_cons, ih h.2, components_join_name h.1, List.append_assoc]
    rfl

/-- Paths straight down from one path are told apart by their components. -/
theorem Path.eq_of_components_descend {base : Path} {names names' : List String}
    (hnames : ∀ name ∈ names, IsName name) (hnames' : ∀ name ∈ names', IsName name)
    (h : (base.descend names).components = (base.descend names').components) : names = names' := by
  rw [components_descend hnames, components_descend hnames'] at h
  refine List.map_injective_iff.mpr (fun x y hxy => ?_) (List.append_cancel_left h)
  exact Component.normal.inj hxy

namespace Workspace

variable {ws ws' : Workspace} {loc : Location} {shown : Path} {inner names : List String}
  {name : String} {file : FoundFile}

/-! ### Files on the walk -/

/-- A regular file, or a link whose path leads to one. -/
def IsFileEntry (ws : Workspace) (loc : Location) (shown : Path) : Prop :=
  (∃ contents, ws.tree.get? loc = some (.file contents)) ∨
    (∃ target, ws.tree.get? loc = some (.link target)) ∧ ws.isFile shown = true

/-- Names lead down from a directory, through directories only, to a file. -/
structure FileAt (ws : Workspace) (loc : Location) (shown : Path) (names : List String) :
    Prop where
  ne_nil : names ≠ []
  directories : ∀ above, above <+: names → above ≠ names → ws.tree.IsDirectory (loc ++ above)
  entry : ws.IsFileEntry (loc ++ names) (shown.descend names)

theorem IsFileEntry.exists_entry (h : ws.IsFileEntry loc shown) :
    ∃ e, ws.tree.get? loc = some e := by
  rcases h with ⟨contents, he⟩ | ⟨⟨target, he⟩, -⟩
  · exact ⟨_, he⟩
  · exact ⟨_, he⟩

theorem FileAt.isName (h : ws.FileAt loc shown names) : ∀ name ∈ names, IsName name := by
  obtain ⟨e, he⟩ := h.entry.exists_entry
  exact fun name hname => isName_of_mem he (List.mem_append_right _ hname)

/-- Whatever lies in a file tree lies in directories. -/
theorem fileAt_of_entry (hne : names ≠ [])
    (h : ws.IsFileEntry (loc ++ names) (shown.descend names)) : ws.FileAt loc shown names := by
  refine ⟨hne, fun above habove habove' => ?_, h⟩
  obtain ⟨e, he⟩ := h.exists_entry
  have hbelow : loc ++ above <+: loc ++ names := (List.prefix_append_right_inj loc).mpr habove
  exact isDirectory_of_above he hbelow fun heq => habove' (List.append_cancel_left heq)

theorem fileAt_singleton :
    ws.FileAt loc shown [name] ↔ ws.IsFileEntry (loc ++ [name]) (shown.join ⟨name⟩) :=
  ⟨fun h => h.entry, fun h => fileAt_of_entry (by simp) h⟩

theorem fileAt_cons (hne : names ≠ []) :
    ws.FileAt loc shown (name :: names) ↔
      ws.FileAt (loc ++ [name]) (shown.join ⟨name⟩) names := by
  have hassoc : loc ++ [name] ++ names = loc ++ name :: names := by simp
  constructor
  · intro h
    refine fileAt_of_entry hne ?_
    rw [hassoc]
    exact h.entry
  · intro h
    refine fileAt_of_entry (by simp) ?_
    rw [← hassoc]
    exact h.entry

/-- The files that the walk comes to at and below one entry of a directory. -/
def filesAt (ws : Workspace) (loc : Location) (shown : Path) (inner : List String)
    (name : String) : List FoundFile :=
  match ws.tree.get? (loc ++ [name]) with
  | some .directory => ws.filesBelow (loc ++ [name]) (shown.join ⟨name⟩) (inner ++ [name])
  | some (.file _) => [⟨shown.join ⟨name⟩, inner ++ [name]⟩]
  | some (.link _) =>
    if ws.isFile (shown.join ⟨name⟩) then [⟨shown.join ⟨name⟩, inner ++ [name]⟩] else []
  | none => []

theorem filesBelow_eq (ws : Workspace) (loc : Location) (shown : Path) (inner : List String) :
    ws.filesBelow loc shown inner =
      (ws.tree.children loc).flatMap (ws.filesAt loc shown inner) := by
  have hvals := List.attach_map_subtype_val (ws.tree.children loc)
  rw [filesBelow]
  conv_rhs => rw [← hvals, List.flatMap_map]
  rfl

theorem fileAt_cons_of_not_directory (h : ¬ ws.tree.IsDirectory (loc ++ [name])) :
    ws.FileAt loc shown (name :: names) ↔
      names = [] ∧ ws.IsFileEntry (loc ++ [name]) (shown.join ⟨name⟩) := by
  by_cases hne : names = []
  · subst hne
    simp [fileAt_singleton]
  · refine iff_of_false (fun hat => h ?_) (fun hboth => hne hboth.1)
    have hdir := hat.directories [name] (by simp) (by simpa using Ne.symm hne)
    exact hdir

theorem fileAt_cons_of_directory (h : ws.tree.IsDirectory (loc ++ [name])) :
    ws.FileAt loc shown (name :: names) ↔
      ws.FileAt (loc ++ [name]) (shown.join ⟨name⟩) names := by
  by_cases hne : names = []
  · subst hne
    refine iff_of_false (fun hat => ?_) (fun hat => hat.ne_nil rfl)
    rcases fileAt_singleton.mp hat with ⟨contents, he⟩ | ⟨⟨target, he⟩, -⟩
    · cases h.symm.trans he
    · cases h.symm.trans he
  · exact fileAt_cons hne

/-- At and below an entry the walk comes to what the names of files from there lead to, when it
does so below that entry. -/
theorem mem_filesAt_iff
    (hbelow : file ∈ ws.filesBelow (loc ++ [name]) (shown.join ⟨name⟩) (inner ++ [name]) ↔
      ∃ names, ws.FileAt (loc ++ [name]) (shown.join ⟨name⟩) names ∧
        file = ⟨(shown.join ⟨name⟩).descend names, inner ++ [name] ++ names⟩) :
    file ∈ ws.filesAt loc shown inner name ↔ ∃ names, ws.FileAt loc shown (name :: names) ∧
      file = ⟨shown.descend (name :: names), inner ++ name :: names⟩ := by
  by_cases hdir : ws.tree.IsDirectory (loc ++ [name])
  · have he : ws.tree.get? (loc ++ [name]) = some .directory := hdir
    simp only [filesAt, he, hbelow, fileAt_cons_of_directory hdir, Path.descend_cons,
      List.append_assoc, List.singleton_append]
  · have hlast : (∃ names, ws.FileAt loc shown (name :: names) ∧
        file = ⟨shown.descend (name :: names), inner ++ name :: names⟩) ↔
        ws.IsFileEntry (loc ++ [name]) (shown.join ⟨name⟩) ∧
          file = ⟨shown.join ⟨name⟩, inner ++ [name]⟩ := by
      simp only [fileAt_cons_of_not_directory hdir]
      constructor
      · rintro ⟨names, ⟨rfl, hfile⟩, heq⟩
        exact ⟨hfile, heq⟩
      · rintro ⟨hfile, heq⟩
        exact ⟨[], ⟨rfl, hfile⟩, heq⟩
    rw [hlast, filesAt]
    cases he : ws.tree.get? (loc ++ [name]) with
    | none => simp [IsFileEntry, he]
    | some e =>
      cases e with
      | directory => exact absurd he hdir
      | file contents => simp [IsFileEntry, he]
      | link target =>
        by_cases hfile : ws.isFile (shown.join ⟨name⟩) <;> simp [IsFileEntry, he, hfile]

/-- Below a directory the walk comes to what the names of files from there lead to. -/
theorem mem_filesBelow_iff :
    file ∈ ws.filesBelow loc shown inner ↔
      ∃ names, ws.FileAt loc shown names ∧ file = ⟨shown.descend names, inner ++ names⟩ := by
  induction loc, shown, inner using filesBelow.induct ws with
  | case1 loc shown inner ih =>
    rw [filesBelow_eq, List.mem_flatMap]
    constructor
    · rintro ⟨name, hname, hfile⟩
      obtain ⟨names, hat, heq⟩ := (mem_filesAt_iff (ih ⟨name, hname⟩)).mp hfile
      exact ⟨name :: names, hat, heq⟩
    · rintro ⟨names, hat, heq⟩
      cases names with
      | nil => exact absurd rfl hat.ne_nil
      | cons name names =>
        have hname : name ∈ ws.tree.children loc := by
          obtain ⟨e, he⟩ := hat.entry.exists_entry
          refine mem_children_iff.mpr ?_
          by_cases hne : names = []
          · exact ⟨e, by rwa [hne] at he⟩
          · exact ⟨_, hat.directories [name] (by simp) (by simpa using Ne.symm hne)⟩
        exact ⟨name, hname, (mem_filesAt_iff (ih ⟨name, hname⟩)).mpr ⟨names, hat, heq⟩⟩

/-- The walk comes to no file twice. -/
theorem nodup_filesBelow : ((ws.filesBelow loc shown inner).map (·.inner)).Nodup := by
  induction loc, shown, inner using filesBelow.induct ws with
  | case1 loc shown inner ih =>
    rw [filesBelow_eq, List.map_flatMap, List.nodup_flatMap]
    refine ⟨fun name hname => ?_, (ws.tree.nodup_children loc).imp fun {a b} hne => ?_⟩
    · have hbelow := ih ⟨name, hname⟩
      unfold filesAt
      split
      · exact hbelow
      · simp
      · split <;> simp
      · simp
    · -- What is found at an entry begins with the name of that entry.
      intro found ha hb
      obtain ⟨file, hfile, rfl⟩ := List.mem_map.mp ha
      obtain ⟨other, hother, hsame⟩ := List.mem_map.mp hb
      obtain ⟨names, -, rfl⟩ := (mem_filesAt_iff mem_filesBelow_iff).mp hfile
      obtain ⟨names', -, rfl⟩ := (mem_filesAt_iff mem_filesBelow_iff).mp hother
      have hcons := List.append_cancel_left hsame
      exact hne (List.cons.inj hcons).1.symm

/-! ### Directories on the walk -/

/-- The way down to a directory begins with one. -/
theorem isDirectory_first {t : FileTree} (h : t.IsDirectory (loc ++ name :: names)) :
    t.IsDirectory (loc ++ [name]) := by
  by_cases hlast : names = []
  · rwa [hlast] at h
  · have habove : loc ++ [name] <+: loc ++ name :: names := ⟨names, by simp⟩
    exact isDirectory_of_above h habove (by simpa using hlast)

/-- Every directory below a place can be listed by its path. -/
def Walkable (ws : Workspace) (loc : Location) (shown : Path) : Prop :=
  ∀ names, ws.tree.IsDirectory (loc ++ names) → ∃ listed, ws.list (shown.descend names) = .ok listed

theorem unlisted?_eq (ws : Workspace) (loc : Location) (shown : Path) :
    ws.unlisted? loc shown =
      match ws.list shown with
      | .error fault => some (shown, fault)
      | .ok _ => (ws.tree.children loc).findSome? fun name =>
        match ws.tree.get? (loc ++ [name]) with
        | some .directory => ws.unlisted? (loc ++ [name]) (shown.join ⟨name⟩)
        | _ => none := by
  have hvals := List.attach_map_subtype_val (ws.tree.children loc)
  rw [unlisted?]
  cases ws.list shown with
  | error fault => rfl
  | ok listed =>
    conv_rhs => rw [← hvals, List.findSome?_map]
    rfl

/-- A walk is done when its start can be listed and the walks from the directories in it are. -/
theorem walkable_iff (hdir : ws.tree.IsDirectory loc) :
    ws.Walkable loc shown ↔ (∃ listed, ws.list shown = .ok listed) ∧
      ∀ name, ws.tree.IsDirectory (loc ++ [name]) →
        ws.Walkable (loc ++ [name]) (shown.join ⟨name⟩) := by
  have hassoc : ∀ name names, loc ++ [name] ++ names = loc ++ name :: names :=
    fun name names => by simp
  constructor
  · intro h
    refine ⟨h [] (by rwa [List.append_nil]), fun name _ names hnames => ?_⟩
    rw [hassoc] at hnames
    exact h (name :: names) hnames
  · rintro ⟨hlisted, hinner⟩ names hnames
    cases names with
    | nil => exact hlisted
    | cons name names =>
      have hchild := isDirectory_first hnames
      rw [← hassoc] at hnames
      exact hinner name hchild names hnames

theorem unlisted?_eq_none_iff (hdir : ws.tree.IsDirectory loc) :
    ws.unlisted? loc shown = none ↔ ws.Walkable loc shown := by
  induction loc, shown using unlisted?.induct ws with
  | case1 loc shown fault hlist =>
    rw [unlisted?_eq, hlist, walkable_iff hdir, hlist]
    simp
  | case2 loc shown listed hlist ih =>
    have hchild : ∀ name ∈ ws.tree.children loc,
        ((match ws.tree.get? (loc ++ [name]) with
          | some .directory => ws.unlisted? (loc ++ [name]) (shown.join ⟨name⟩)
          | _ => none) = none ↔
        (ws.tree.IsDirectory (loc ++ [name]) →
          ws.Walkable (loc ++ [name]) (shown.join ⟨name⟩))) := by
      intro name hname
      by_cases hsub : ws.tree.IsDirectory (loc ++ [name])
      · have he : ws.tree.get? (loc ++ [name]) = some .directory := hsub
        rw [he]
        simpa [hsub] using ih ⟨name, hname⟩ hsub
      · refine iff_of_true ?_ (fun hthere => absurd hthere hsub)
        split
        · next he => exact absurd he hsub
        · rfl
    rw [unlisted?_eq, hlist, walkable_iff hdir, hlist]
    simp only [List.findSome?_eq_none_iff, Except.ok.injEq, exists_eq', true_and]
    refine ⟨fun h name hsub => ?_, fun h name hname => (hchild name hname).mpr (h name)⟩
    have hname : name ∈ ws.tree.children loc := mem_children_iff.mpr ⟨_, hsub⟩
    exact (hchild name hname).mp (h name hname) hsub

end Workspace

end GoldenSuite
