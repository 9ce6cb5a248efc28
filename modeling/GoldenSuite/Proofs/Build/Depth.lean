import GoldenSuite.Proofs.Build.Walk
import GoldenSuite.Proofs.Case.Entries

/-!
# How deep the walk goes

The walk lists every directory by one path from its start. Such a path leads to its directory
unless it has become too long, so nothing else can stop the walk once its start is found.
-/

namespace GoldenSuite

open FileTree

/-! ### Paths straight down -/

namespace Path

variable {p base : Path} {name : String} {names : List String}

/-- The number of bytes that a path is written with. -/
def size (p : Path) : Nat :=
  p.text.length

/-- A path that is followed unless it is too long. -/
structure Written (p : Path) : Prop where
  nul_not_mem : '\x00' ∉ p.chars
  ne_empty : p.text ≠ ""

theorem Usable.written (h : p.Usable) : p.Written :=
  ⟨h.nul_not_mem, h.ne_empty⟩

theorem Written.usable (h : p.Written) (hsize : p.size ≤ longestPath) : p.Usable :=
  ⟨h.nul_not_mem, h.ne_empty, hsize⟩

theorem Written.text_join (h : base.Written) (hname : IsName name) :
    (base.join ⟨name⟩).text = base.withSeparator.text ++ name := by
  have hrelative := (names_of_isName hname).2
  rw [join, if_neg (by simp [hrelative]), if_neg h.ne_empty]

theorem Written.join (h : base.Written) (hname : IsName name) : (base.join ⟨name⟩).Written := by
  have htext := h.text_join hname
  refine ⟨fun hnul => ?_, fun hempty => ?_⟩
  · rw [chars, htext, String.toList_append, List.mem_append] at hnul
    rcases hnul with hnul | hnul
    · refine h.nul_not_mem ?_
      unfold withSeparator at hnul
      split at hnul
      · exact hnul
      · simpa [chars] using hnul
    · exact hname.nul_not_mem hnul
  · rw [hempty] at htext
    have hboth : base.withSeparator.text = "" ∧ name = "" := by simpa using htext.symm
    exact hname.ne_empty hboth.2

theorem size_le_size_withSeparator (p : Path) : p.size ≤ p.withSeparator.size := by
  unfold withSeparator
  split
  · exact Nat.le_refl _
  · simp [size]

theorem Written.size_join (h : base.Written) (hname : IsName name) :
    (base.join ⟨name⟩).size = base.withSeparator.size + name.length := by
  rw [size, h.text_join hname, String.length_append]
  rfl

theorem Written.size_le_size_join (h : base.Written) (hname : IsName name) :
    base.size ≤ (base.join ⟨name⟩).size := by
  have hwith := base.size_le_size_withSeparator
  have hjoin := h.size_join hname
  omega

theorem Written.descend (h : base.Written) (hnames : ∀ name ∈ names, IsName name) :
    (base.descend names).Written := by
  induction names generalizing base with
  | nil => exact h
  | cons name names ih =>
    rw [List.forall_mem_cons] at hnames
    exact ih (h.join hnames.1) hnames.2

theorem Written.size_le_size_descend (h : base.Written) (hnames : ∀ name ∈ names, IsName name) :
    base.size ≤ (base.descend names).size := by
  induction names generalizing base with
  | nil => exact Nat.le_refl _
  | cons name names ih =>
    rw [List.forall_mem_cons] at hnames
    have hfirst := h.size_le_size_join hnames.1
    have hothers := ih (h.join hnames.1) hnames.2
    exact Nat.le_trans hfirst hothers

end Path

namespace Workspace

variable {ws : Workspace} {p base shown : Path} {loc root : Location} {names : List String}
  {fault : Fault}

theorem written_of_find (h : ws.find true p = .ok (loc, .directory)) : p.Written :=
  (find_eq_ok_iff.mp h).1.1.written

theorem list_of_long (h : p.Written) (hlong : longestPath < p.size) :
    ws.list p = .error .nameTooLong := by
  have hsize : longestPath < p.text.length := hlong
  have hresolve : ws.tree.resolve ws.here true p = .error .nameTooLong := by
    rw [resolve, if_neg h.nul_not_mem, if_neg h.ne_empty, if_pos hsize]
  have hfind : ws.find true p = .error .nameTooLong := by rw [find_eq, hresolve]
  rw [list, hfind]
  rfl

/-- The path straight down to a directory leads there, unless it is too long. -/
theorem find_descend (hroot : ws.find true base = .ok (root, .directory))
    (hdir : ws.tree.IsDirectory (root ++ names)) (hsize : (base.descend names).size ≤ longestPath) :
    ws.find true (base.descend names) = .ok (root ++ names, .directory) := by
  induction names generalizing base root with
  | nil =>
    rw [List.append_nil]
    exact hroot
  | cons name names ih =>
    have hnames : ∀ other ∈ name :: names, IsName other := fun other hother =>
      isName_of_mem hdir (List.mem_append_right _ hother)
    rw [List.forall_mem_cons] at hnames
    have hchild := isDirectory_first hdir
    have hassoc : root ++ name :: names = root ++ [name] ++ names := by simp
    rw [hassoc] at hdir ⊢
    have hwritten := (written_of_find hroot).join hnames.1
    have hshort := hwritten.size_le_size_descend hnames.2
    have husable := hwritten.usable (Nat.le_trans hshort hsize)
    exact ih (find_entry hroot husable hchild (by simp)) hdir hsize

theorem list_descend (hroot : ws.find true base = .ok (root, .directory))
    (hdir : ws.tree.IsDirectory (root ++ names)) (hsize : (base.descend names).size ≤ longestPath) :
    ws.list (base.descend names) = .ok (root ++ names, ws.tree.children (root ++ names)) :=
  list_eq_ok_iff.mpr ⟨find_descend hroot hdir hsize, rfl⟩

/-! ### The end of the walk -/

/-- The walk can be done when no path to a directory is too long. -/
theorem walkable_of_short (hroot : ws.find true base = .ok (root, .directory))
    (h : ∀ names, ws.tree.IsDirectory (root ++ names) → (base.descend names).size ≤ longestPath) :
    ws.Walkable root base :=
  fun names hdir => ⟨_, list_descend hroot hdir (h names hdir)⟩

/-- What stops the walk is a directory that cannot be listed. -/
theorem unlisted?_eq_some (hdir : ws.tree.IsDirectory loc)
    (h : ws.unlisted? loc shown = some (p, fault)) :
    ∃ names, ws.tree.IsDirectory (loc ++ names) ∧ p = shown.descend names ∧
      ws.list p = .error fault := by
  induction loc, shown using unlisted?.induct ws with
  | case1 loc shown fault' hlist =>
    rw [unlisted?_eq, hlist] at h
    cases h
    exact ⟨[], by rwa [List.append_nil], rfl, hlist⟩
  | case2 loc shown listed hlist ih =>
    rw [unlisted?_eq, hlist] at h
    obtain ⟨name, hname, hbelow⟩ := List.exists_of_findSome?_eq_some h
    by_cases hsub : ws.tree.IsDirectory (loc ++ [name])
    · have he : ws.tree.get? (loc ++ [name]) = some .directory := hsub
      rw [he] at hbelow
      obtain ⟨names, hnames, hpath, hfault⟩ := ih ⟨name, hname⟩ hsub hbelow
      refine ⟨name :: names, ?_, hpath, hfault⟩
      rwa [List.append_assoc] at hnames
    · split at hbelow
      · next he => exact absurd he hsub
      · cases hbelow

/-- When the path to some directory is too long, the walk stops at such a directory. -/
theorem unlisted?_of_long (hroot : ws.find true base = .ok (root, .directory))
    (hdir : ws.tree.IsDirectory (root ++ names)) (hlong : longestPath < (base.descend names).size) :
    ∃ names, ws.tree.IsDirectory (root ++ names) ∧ longestPath < (base.descend names).size ∧
      ws.unlisted? root base = some (base.descend names, .nameTooLong) := by
  have hwritten : ∀ {names}, ws.tree.IsDirectory (root ++ names) → (base.descend names).Written :=
    fun hthere => (written_of_find hroot).descend fun name hname =>
      isName_of_mem hthere (List.mem_append_right _ hname)
  cases hstop : ws.unlisted? root base with
  | none =>
    have hwalk := (unlisted?_eq_none_iff (get?_of_find hroot)).mp hstop
    obtain ⟨listed, hlisted⟩ := hwalk names hdir
    rw [list_of_long (hwritten hdir) hlong] at hlisted
    cases hlisted
  | some stop =>
    obtain ⟨p, fault⟩ := stop
    obtain ⟨deep, hdeep, rfl, hfault⟩ := unlisted?_eq_some (get?_of_find hroot) hstop
    have hdeeplong : longestPath < (base.descend deep).size := by
      refine Nat.lt_of_not_le fun hshort => ?_
      rw [list_descend hroot hdeep hshort] at hfault
      cases hfault
    rw [list_of_long (hwritten hdeep) hdeeplong] at hfault
    cases hfault
    exact ⟨deep, hdeep, hdeeplong, rfl⟩

end Workspace

end GoldenSuite
