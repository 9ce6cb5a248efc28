import GoldenSuite.Path.Basic
import GoldenSuite.Text.Utf8

/-!
# File trees

A file tree says what stands at each location below its root: a directory, a regular file or a
symbolic link. It is a finite list of entries in which no location occurs twice, every entry
lies in a directory, and every part of a location is a name that a file can have; the root itself
is always there and is not listed. A name is a string of octets, so it need not be a text. The
four changes keep all this by construction: adding one entry, giving a file new contents, removing
everything at and below a location, and removing what lies strictly below one.

`get?` is the view through which each change is described.
-/

namespace GoldenSuite

/-- A place in a file tree: the names on the way from the root. -/
abbrev Location := List String

instance : LawfulBEq Location := inferInstance

/-- What stands at a location. -/
inductive Entry where
  | directory
  | file (contents : Bytes)
  | link (target : Path)
deriving DecidableEq, Repr

/-- The largest number of bytes in a name. -/
def longestName : Nat := 255

/-- A name that a file can have: `.` and `..` lead elsewhere, a slash ends a name within a path
and the null character ends a path. -/
structure IsName (name : String) : Prop where
  ne_empty : name ≠ ""
  ne_current : name ≠ "."
  ne_parent : name ≠ ".."
  slash_not_mem : '/' ∉ name.toList
  nul_not_mem : '\x00' ∉ name.toList
  size_le : name.length ≤ longestName

theorem isName_iff {name : String} :
    IsName name ↔ (name ≠ "" ∧ name ≠ "." ∧ name ≠ "..") ∧
      ('/' ∉ name.toList ∧ '\x00' ∉ name.toList) ∧ name.length ≤ longestName :=
  ⟨fun h => ⟨⟨h.1, h.2, h.3⟩, ⟨h.4, h.5⟩, h.6⟩,
    fun h => ⟨h.1.1, h.1.2.1, h.1.2.2, h.2.1.1, h.2.1.2, h.2.2⟩⟩

instance (name : String) : Decidable (IsName name) :=
  decidable_of_iff _ isName_iff.symm

/-- A finite tree of directories, files and symbolic links. -/
structure FileTree where
  /-- The entries below the root, in the order in which a directory lists them. -/
  entries : List (Location × Entry)
  /-- No location occurs twice. -/
  distinct : (entries.map Prod.fst).Nodup
  /-- The root is not listed. -/
  rooted : ∀ e ∈ entries, e.1 ≠ []
  /-- Every entry lies in the root or in a listed directory. -/
  parented : ∀ e ∈ entries, e.1.dropLast = [] ∨ (e.1.dropLast, Entry.directory) ∈ entries
  /-- Every location is made of names. -/
  named : ∀ e ∈ entries, ∀ name ∈ e.1, IsName name

namespace FileTree

/-- The tree that holds nothing but its root. -/
def empty : FileTree :=
  ⟨[], by simp, by simp, by simp, by simp⟩

instance : Inhabited FileTree := ⟨empty⟩

/-! ### Looking up -/

/-- What stands at a location. -/
def get? (t : FileTree) (loc : Location) : Option Entry :=
  if loc = [] then some .directory else t.entries.lookup loc

/-- Whether a directory stands at a location. -/
def IsDirectory (t : FileTree) (loc : Location) : Prop :=
  t.get? loc = some .directory

instance (t : FileTree) (loc : Location) : Decidable (t.IsDirectory loc) :=
  inferInstanceAs (Decidable (t.get? loc = some .directory))

/-- The names listed in the directory at a location. -/
def children (t : FileTree) (loc : Location) : List String :=
  t.entries.filterMap fun e => if e.1.dropLast = loc then e.1.getLast? else none

/-- Whether the second location lies strictly below the first. -/
def below (loc other : Location) : Bool :=
  loc.isPrefixOf other && loc != other

theorem get?_root (t : FileTree) : t.get? [] = some .directory := rfl

theorem isDirectory_root (t : FileTree) : t.IsDirectory [] := rfl

theorem get?_eq_lookup {t : FileTree} {loc : Location} (h : loc ≠ []) :
    t.get? loc = t.entries.lookup loc := by
  simp [get?, h]

theorem mem_of_lookup {entries : List (Location × Entry)} {loc : Location} {e : Entry}
    (h : entries.lookup loc = some e) : (loc, e) ∈ entries := by
  induction entries with
  | nil => simp at h
  | cons first rest ih =>
    rw [List.lookup_cons] at h
    split at h
    · next heq =>
      have hloc : loc = first.1 := by simpa using heq
      rw [Option.some.injEq] at h
      subst hloc
      subst h
      exact List.mem_cons_self
    · exact List.mem_cons_of_mem _ (ih h)

theorem lookup_of_mem {entries : List (Location × Entry)} {loc : Location} {e : Entry}
    (hd : (entries.map Prod.fst).Nodup) (h : (loc, e) ∈ entries) :
    entries.lookup loc = some e := by
  induction entries with
  | nil => simp at h
  | cons first rest ih =>
    rw [List.map_cons, List.nodup_cons] at hd
    rw [List.lookup_cons]
    rcases List.mem_cons.mp h with rfl | h
    · simp
    · split
      · next heq =>
        have hloc : loc = first.1 := by simpa using heq
        exact absurd (List.mem_map.mpr ⟨(loc, e), h, hloc⟩) hd.1
      · exact ih hd.2 h

/-- Away from the root, what stands at a location is what the list says. -/
theorem get?_eq_some_iff {t : FileTree} {loc : Location} {e : Entry} (h : loc ≠ []) :
    t.get? loc = some e ↔ (loc, e) ∈ t.entries := by
  rw [get?_eq_lookup h]
  exact ⟨mem_of_lookup, lookup_of_mem t.distinct⟩

theorem get?_of_mem {t : FileTree} {e : Location × Entry} (h : e ∈ t.entries) :
    t.get? e.1 = some e.2 :=
  (get?_eq_some_iff (t.rooted e h)).mpr h

theorem not_link_of_entries {t : FileTree} (h : ∀ loc target, (loc, Entry.link target) ∉ t.entries)
    (loc : Location) (target : Path) : t.get? loc ≠ some (.link target) := by
  intro hlink
  by_cases hroot : loc = []
  · subst hroot
    cases hlink
  · exact h loc target ((get?_eq_some_iff hroot).mp hlink)

/-- What stands anywhere stands in a directory. -/
theorem isDirectory_dropLast {t : FileTree} {loc : Location} {e : Entry}
    (h : t.get? loc = some e) : t.IsDirectory loc.dropLast := by
  by_cases hroot : loc = []
  · subst hroot
    exact t.isDirectory_root
  · rcases t.parented _ ((get?_eq_some_iff hroot).mp h) with hp | hp
    · rw [hp]
      exact t.isDirectory_root
    · exact get?_of_mem hp

/-- Where something stands, the location is made of names. -/
theorem isName_of_mem {t : FileTree} {loc : Location} {e : Entry} (h : t.get? loc = some e)
    {name : String} (hname : name ∈ loc) : IsName name :=
  t.named _ ((get?_eq_some_iff (List.ne_nil_of_mem hname)).mp h) name hname

/-- A name is listed in a directory exactly when something stands there. -/
theorem mem_children_iff {t : FileTree} {loc : Location} {name : String} :
    name ∈ t.children loc ↔ ∃ e, t.get? (loc ++ [name]) = some e := by
  have hne : loc ++ [name] ≠ [] := by simp
  constructor
  · intro h
    obtain ⟨e, he, hname⟩ := List.mem_filterMap.mp h
    split at hname
    · next hloc =>
      refine ⟨e.2, (get?_eq_some_iff hne).mpr ?_⟩
      obtain ⟨above, habove⟩ := List.getLast?_eq_some_iff.mp hname
      rw [habove, List.dropLast_concat] at hloc
      rw [← hloc, ← habove]
      exact he
    · simp at hname
  · rintro ⟨e, he⟩
    refine List.mem_filterMap.mpr ⟨(loc ++ [name], e), (get?_eq_some_iff hne).mp he, ?_⟩
    simp

/-! ### Adding an entry -/

/-- Puts an entry under a name into a directory that has nothing of that name; any other tree
stays as it is. -/
def add (t : FileTree) (loc : Location) (name : String) (e : Entry) : FileTree :=
  if h : (t.IsDirectory loc ∧ t.get? (loc ++ [name]) = none) ∧ IsName name then
    { entries := (loc ++ [name], e) :: t.entries
      distinct := by
        have hne : loc ++ [name] ≠ [] := by simp
        rw [List.map_cons, List.nodup_cons]
        refine ⟨fun hmem => ?_, t.distinct⟩
        obtain ⟨old, hold, heq⟩ := List.mem_map.mp hmem
        have := get?_of_mem hold
        rw [heq, h.1.2] at this
        simp at this
      rooted := by
        intro old hold
        rcases List.mem_cons.mp hold with rfl | hold
        · simp
        · exact t.rooted old hold
      parented := by
        intro old hold
        rcases List.mem_cons.mp hold with rfl | hold
        · by_cases hroot : loc = []
          · left
            simp [hroot]
          · right
            simp only [List.dropLast_concat]
            exact List.mem_cons_of_mem _ ((get?_eq_some_iff hroot).mp h.1.1)
        · exact (t.parented old hold).imp id (List.mem_cons_of_mem _)
      named := by
        intro old hold
        rcases List.mem_cons.mp hold with rfl | hold
        · intro n hn
          rcases List.mem_append.mp hn with hn | hn
          · exact isName_of_mem h.1.1 hn
          · rw [List.mem_singleton.mp hn]
            exact h.2
        · exact t.named old hold }
  else t

theorem get?_add_self {t : FileTree} {loc : Location} {name : String} {e : Entry}
    (hdir : t.IsDirectory loc) (hfree : t.get? (loc ++ [name]) = none) (hname : IsName name) :
    (t.add loc name e).get? (loc ++ [name]) = some e := by
  rw [add, dif_pos ⟨⟨hdir, hfree⟩, hname⟩]
  simp [get?]

theorem get?_add_of_ne {t : FileTree} {loc other : Location} {name : String} {e : Entry}
    (h : other ≠ loc ++ [name]) : (t.add loc name e).get? other = t.get? other := by
  unfold add
  split
  · have hne : (other == loc ++ [name]) = false := by simpa using h
    unfold get?
    split
    · rfl
    · simp [List.lookup_cons, hne]
  · rfl

/-! ### New contents for a file -/

/-- Gives the file at a location new contents; any other tree stays as it is. -/
def overwrite (t : FileTree) (loc : Location) (contents : Bytes) : FileTree :=
  let change (e : Location × Entry) : Location × Entry :=
    if e.1 = loc ∧ e.2 ≠ .directory then (e.1, .file contents) else e
  have keys (e : Location × Entry) : (change e).1 = e.1 := by
    simp only [change]
    split <;> rfl
  { entries := t.entries.map change
    distinct := by
      have : (t.entries.map change).map Prod.fst = t.entries.map Prod.fst := by
        rw [List.map_map]
        exact List.map_congr_left fun e _ => keys e
      rw [this]
      exact t.distinct
    rooted := by
      intro e he
      obtain ⟨old, hold, rfl⟩ := List.mem_map.mp he
      rw [keys]
      exact t.rooted old hold
    parented := by
      intro e he
      obtain ⟨old, hold, rfl⟩ := List.mem_map.mp he
      rw [keys]
      refine (t.parented old hold).imp id fun hp => List.mem_map.mpr ⟨_, hp, ?_⟩
      simp [change]
    named := by
      intro e he
      obtain ⟨old, hold, rfl⟩ := List.mem_map.mp he
      rw [keys]
      exact t.named old hold }

theorem lookup_map_of_ne {entries : List (Location × Entry)} {loc : Location}
    {change : Location × Entry → Location × Entry} (keys : ∀ e, (change e).1 = e.1)
    (h : ∀ e ∈ entries, e.1 = loc → change e = e) :
    (entries.map change).lookup loc = entries.lookup loc := by
  induction entries with
  | nil => rfl
  | cons first rest ih =>
    have hrest := ih fun e he => h e (List.mem_cons_of_mem _ he)
    by_cases hf : first.1 = loc
    · rw [List.map_cons, h first List.mem_cons_self hf, List.lookup_cons, List.lookup_cons, hrest]
    · have hb : (loc == first.1) = false := by
        simpa using fun he => hf he.symm
      rw [List.map_cons, List.lookup_cons, List.lookup_cons, keys, hb, hrest]

theorem get?_overwrite_of_ne {t : FileTree} {loc other : Location} {contents : Bytes}
    (h : other ≠ loc) : (t.overwrite loc contents).get? other = t.get? other := by
  unfold get?
  split
  · rfl
  · refine lookup_map_of_ne (fun e => ?_) (fun e _ heq => ?_)
    · split <;> rfl
    · rw [if_neg]
      exact fun hc => h (heq ▸ hc.1)

theorem get?_overwrite_self {t : FileTree} {loc : Location} {contents old : Bytes}
    (h : t.get? loc = some (.file old)) :
    (t.overwrite loc contents).get? loc = some (.file contents) := by
  have hne : loc ≠ [] := by
    rintro rfl
    simp [get?_root] at h
  rw [get?_eq_some_iff hne] at h ⊢
  exact List.mem_map.mpr ⟨_, h, by simp⟩

/-! ### Removing -/

/-- Keeps the entries at the locations that a test lets through, when it lets through the
directory of every location that it lets through. -/
def keep (t : FileTree) (stays : Location → Bool)
    (h : ∀ loc, stays loc = true → loc ≠ [] → loc.dropLast ≠ [] → stays loc.dropLast = true) :
    FileTree where
  entries := t.entries.filter fun e => stays e.1
  distinct := t.distinct.sublist (List.Sublist.map _ List.filter_sublist)
  rooted := fun e he => t.rooted e (List.mem_filter.mp he).1
  parented := by
    intro e he
    obtain ⟨hmem, hstays⟩ := List.mem_filter.mp he
    rcases t.parented e hmem with hp | hp
    · exact Or.inl hp
    · by_cases hroot : e.1.dropLast = []
      · exact Or.inl hroot
      · exact Or.inr (List.mem_filter.mpr ⟨hp, h e.1 hstays (t.rooted e hmem) hroot⟩)
  named := fun e he => t.named e (List.mem_filter.mp he).1

theorem lookup_filter {entries : List (Location × Entry)} {stays : Location → Bool}
    {loc : Location} : (entries.filter fun e => stays e.1).lookup loc =
      if stays loc then entries.lookup loc else none := by
  induction entries with
  | nil => simp
  | cons first rest ih =>
    rw [List.filter_cons, List.lookup_cons]
    by_cases hs : stays first.1 = true
    · rw [if_pos hs, List.lookup_cons, ih]
      by_cases hf : loc = first.1
      · subst hf
        simp [hs]
      · have hb : (loc == first.1) = false := by simpa using hf
        rw [hb]
    · rw [if_neg hs, ih]
      by_cases hf : loc = first.1
      · subst hf
        simp [hs]
      · have hb : (loc == first.1) = false := by simpa using hf
        rw [hb]

theorem get?_keep {t : FileTree} {stays : Location → Bool} {h} {loc : Location} (hne : loc ≠ []) :
    (t.keep stays h).get? loc = if stays loc then t.get? loc else none := by
  rw [get?_eq_lookup hne, get?_eq_lookup hne]
  exact lookup_filter

theorem isPrefixOf_of_isPrefixOf_dropLast {loc other : Location}
    (h : loc.isPrefixOf other.dropLast = true) : loc.isPrefixOf other = true := by
  rw [List.isPrefixOf_iff_prefix] at h ⊢
  exact h.trans (List.dropLast_prefix other)

/-- Removes what stands at a location, with everything below it. -/
def prune (t : FileTree) (loc : Location) : FileTree :=
  t.keep (fun other => !loc.isPrefixOf other) (by
    intro other hstays _ _
    rw [Bool.not_eq_true', Bool.eq_false_iff] at hstays ⊢
    exact fun h => hstays (isPrefixOf_of_isPrefixOf_dropLast h))

theorem not_below_dropLast {loc other : Location} (h : below loc other = false) :
    below loc other.dropLast = false := by
  rw [Bool.eq_false_iff] at h ⊢
  intro hb
  rw [below, Bool.and_eq_true, bne_iff_ne] at hb
  refine h ?_
  rw [below, Bool.and_eq_true, bne_iff_ne]
  refine ⟨isPrefixOf_of_isPrefixOf_dropLast hb.1, fun heq => ?_⟩
  subst heq
  have hlen := (List.isPrefixOf_iff_prefix.mp hb.1).length_le
  rw [List.length_dropLast] at hlen
  have : loc.length = 0 := by omega
  have hnil : loc = [] := List.length_eq_zero_iff.mp this
  exact hb.2 (by simp [hnil])

/-- Removes what lies strictly below a location. -/
def clear (t : FileTree) (loc : Location) : FileTree :=
  t.keep (fun other => !below loc other) (by
    intro other hstays _ _
    rw [Bool.not_eq_true'] at hstays ⊢
    exact not_below_dropLast hstays)

theorem get?_prune {t : FileTree} {loc other : Location} (hne : other ≠ []) :
    (t.prune loc).get? other = if loc.isPrefixOf other then none else t.get? other := by
  rw [prune, get?_keep hne]
  cases loc.isPrefixOf other <;> simp

theorem get?_clear {t : FileTree} {loc other : Location} (hne : other ≠ []) :
    (t.clear loc).get? other = if below loc other then none else t.get? other := by
  rw [clear, get?_keep hne]
  cases below loc other <;> simp

/-! ### Size -/

/-- How many entries lie strictly below a location. -/
def sizeBelow (t : FileTree) (loc : Location) : Nat :=
  t.entries.countP fun e => below loc e.1

theorem below_trans {a b c : Location} (hab : below a b = true) (hbc : below b c = true) :
    below a c = true := by
  rw [below, Bool.and_eq_true, bne_iff_ne, List.isPrefixOf_iff_prefix] at *
  refine ⟨hab.1.trans hbc.1, fun heq => ?_⟩
  subst heq
  exact hab.2 (hab.1.eq_of_length (Nat.le_antisymm hab.1.length_le hbc.1.length_le))

theorem below_append_singleton (loc : Location) (name : String) :
    below loc (loc ++ [name]) = true := by
  rw [below, Bool.and_eq_true, bne_iff_ne, List.isPrefixOf_iff_prefix]
  refine ⟨List.prefix_append _ _, fun h => ?_⟩
  have := congrArg List.length h
  simp at this

theorem not_below_self (loc : Location) : below loc loc = false := by
  simp [below]

theorem countP_lt_countP {α : Type} {p q : α → Bool} {items : List α}
    (himp : ∀ a ∈ items, p a = true → q a = true) {a : α} (ha : a ∈ items) (hq : q a = true)
    (hp : p a = false) : items.countP p < items.countP q := by
  induction items with
  | nil => simp at ha
  | cons first rest ih =>
    have hmono : rest.countP p ≤ rest.countP q :=
      List.countP_mono_left fun b hb => himp b (List.mem_cons_of_mem _ hb)
    rw [List.countP_cons, List.countP_cons]
    rcases List.mem_cons.mp ha with rfl | hrest
    · simp only [hp, hq]
      simp
      omega
    · have hlt := ih (fun b hb => himp b (List.mem_cons_of_mem _ hb)) hrest
      by_cases hpf : p first = true
      · simp [hpf, himp first List.mem_cons_self hpf, hlt]
      · simp only [hpf]
        simp
        omega

/-- Less lies below an entry than below the directory that lists it. -/
theorem sizeBelow_lt {t : FileTree} {loc : Location} {name : String}
    (h : name ∈ t.children loc) : t.sizeBelow (loc ++ [name]) < t.sizeBelow loc := by
  obtain ⟨e, he⟩ := mem_children_iff.mp h
  have hmem := (get?_eq_some_iff (by simp)).mp he
  exact countP_lt_countP
    (fun a _ ha => below_trans (below_append_singleton loc name) ha)
    hmem (below_append_singleton loc name) (not_below_self _)

end FileTree

end GoldenSuite
