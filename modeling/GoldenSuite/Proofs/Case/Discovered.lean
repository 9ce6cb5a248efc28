import GoldenSuite.Case.Discovery
import GoldenSuite.Proofs.Path.Names
import GoldenSuite.Proofs.Text.Octets

/-!
# The discovered cases

When the cases can be listed, they are the directories right below the directory of all cases,
each of them once, in the order of their names. Two directories can have the same name when it is
not the whole truth about them; as long as their names are texts, the order is strict.
-/

namespace GoldenSuite

/-! ### Listed names -/

namespace FileTree

theorem eq_append_of_dropLast {loc here : Location} {name : String} (h : loc.dropLast = here)
    (hlast : loc.getLast? = some name) : loc = here ++ [name] := by
  obtain ⟨above, rfl⟩ := List.getLast?_eq_some_iff.mp hlast
  rw [List.dropLast_concat] at h
  rw [h]

/-- A directory lists no name twice. -/
theorem nodup_children (t : FileTree) (loc : Location) : (t.children loc).Nodup := by
  have hkeys := t.distinct
  rw [List.Nodup, List.pairwise_map] at hkeys
  rw [children, List.Nodup, List.pairwise_filterMap]
  refine hkeys.imp fun {a b} hne x hx y hy heq => hne ?_
  subst heq
  split at hx
  · next ha =>
    split at hy
    · next hb => rw [eq_append_of_dropLast ha hx, eq_append_of_dropLast hb hy]
    · cases hy
  · cases hx

end FileTree

namespace Workspace

theorem list_eq_ok_iff {ws : Workspace} {p : Path} {loc : Location} {names : List String} :
    ws.list p = .ok (loc, names) ↔
      ws.find true p = .ok (loc, .directory) ∧ names = ws.tree.children loc := by
  simp only [list, bind, Except.bind]
  cases hf : ws.find true p with
  | error fault => simp
  | ok found =>
    obtain ⟨there, e⟩ := found
    cases e with
    | directory =>
      simp only [pure, Except.pure, Except.ok.injEq, Prod.mk.injEq, and_true]
      constructor
      · rintro ⟨rfl, rfl⟩
        exact ⟨rfl, rfl⟩
      · rintro ⟨rfl, rfl⟩
        exact ⟨rfl, rfl⟩
    | file contents => simp [throw, throwThe, MonadExceptOf.throw]
    | link target => simp [throw, throwThe, MonadExceptOf.throw]

theorem isDirectory_iff {ws : Workspace} {p : Path} :
    ws.isDirectory p = true ↔ ∃ loc, ws.find true p = .ok (loc, .directory) := by
  unfold isDirectory
  split
  · next loc h => exact ⟨fun _ => ⟨loc, h⟩, fun _ => rfl⟩
  · next h =>
    simp only [Bool.false_eq_true, false_iff, not_exists]
    exact h

end Workspace

/-- The entry of the directory of all cases that is the directory of a case. -/
def TestCase.entry (case : TestCase) : String :=
  case.directory.names.getLastD ""

theorem TestCase.entry_named {c : Config} {entry : String} (h : IsName entry) :
    (named c entry).entry = entry := by
  obtain ⟨hnames, hrelative⟩ := Path.names_of_isName h
  rw [TestCase.entry, named, ofDirectory, Path.names_join hrelative, hnames]
  simp

namespace Discovery

/-- An entry that is a case: the directory of all cases lists it, and it leads to a directory
there, possibly through links. -/
def IsCase (c : Config) (ws : Workspace) (entry : String) : Prop :=
  ∃ loc entries, ws.list c.testsRoot = .ok (loc, entries) ∧ entry ∈ entries ∧
    ws.isDirectory (c.testsRoot.join ⟨entry⟩) = true

/-! ### The cases among entries -/

-- Where a path leads is not looked into here.
attribute [local irreducible] Workspace.find

theorem casesAmong_cons (c : Config) (ws : Workspace) (entry : String) (others : List String) :
    casesAmong c ws (entry :: others) =
      match ws.find true (c.testsRoot.join ⟨entry⟩) with
      | .ok (_, .directory) => (casesAmong c ws others).map (TestCase.named c entry :: ·)
      | .ok _ => casesAmong c ws others
      | .error .notFound => casesAmong c ws others
      | .error fault => .error ⟨c.testsRoot.join ⟨entry⟩, fault⟩ := rfl

theorem casesAmong_eq {c : Config} {ws : Workspace} {entries : List String}
    {found : List TestCase} (h : casesAmong c ws entries = .ok found) :
    found = (entries.filter fun entry => ws.isDirectory (c.testsRoot.join ⟨entry⟩)).map
      (TestCase.named c) := by
  induction entries generalizing found with
  | nil => exact (Except.ok.inj h).symm
  | cons entry others ih =>
    have hdir := @Workspace.isDirectory_iff ws (c.testsRoot.join ⟨entry⟩)
    rw [casesAmong_cons] at h
    generalize ws.find true (c.testsRoot.join ⟨entry⟩) = found' at h hdir
    rw [List.filter_cons]
    split at h
    · next loc =>
      rw [if_pos (hdir.mpr ⟨loc, rfl⟩), List.map_cons]
      cases hr : casesAmong c ws others with
      | error e =>
        rw [hr] at h
        cases h
      | ok rest =>
        rw [hr] at h
        rw [← ih hr]
        exact (Except.ok.inj h).symm
    · next there hno =>
      have hnot : ¬ ws.isDirectory (c.testsRoot.join ⟨entry⟩) = true := by
        rw [hdir]
        rintro ⟨loc, hloc⟩
        exact hno loc (Except.ok.inj hloc)
      rw [if_neg hnot]
      exact ih h
    · have hnot : ¬ ws.isDirectory (c.testsRoot.join ⟨entry⟩) = true := by
        rw [hdir]
        rintro ⟨loc, hloc⟩
        cases hloc
      rw [if_neg hnot]
      exact ih h
    · cases h

/-! ### The cases of a suite -/

theorem cases_of_unlisted {c : Config} {ws : Workspace} {fault : Fault}
    (h : ws.list c.testsRoot = .error fault) :
    Discovery.cases c ws = .error ⟨c.testsRoot, fault⟩ := by
  unfold Discovery.cases
  rw [h]
  rfl

theorem cases_of_listed {c : Config} {ws : Workspace} {loc : Location} {entries : List String}
    (h : ws.list c.testsRoot = .ok (loc, entries)) :
    Discovery.cases c ws =
      (casesAmong c ws entries).map (·.mergeSort fun a b => decide (a.name ≤ b.name)) := by
  unfold Discovery.cases
  rw [h]
  rfl

/-- Cases that are found in the order of their names are left in it. -/
theorem cases_of_sorted {c : Config} {ws : Workspace} {loc : Location} {entries : List String}
    {found : List TestCase} (h : ws.list c.testsRoot = .ok (loc, entries))
    (hfound : casesAmong c ws entries = .ok found)
    (hsorted : found.Pairwise fun a b => a.name ≤ b.name) :
    Discovery.cases c ws = .ok found := by
  rw [cases_of_listed h, hfound]
  exact congrArg Except.ok
    (List.mergeSort_of_pairwise (hsorted.imp fun hle => decide_eq_true hle))

/-- When there are cases, they were found in the directory of all cases and then sorted. -/
theorem cases_eq_ok {c : Config} {ws : Workspace} {cases : List TestCase}
    (h : Discovery.cases c ws = .ok cases) :
    ∃ loc, ws.find true c.testsRoot = .ok (loc, .directory) ∧
      cases = (((ws.tree.children loc).filter fun entry =>
        ws.isDirectory (c.testsRoot.join ⟨entry⟩)).map (TestCase.named c)).mergeSort
          fun a b => decide (a.name ≤ b.name) := by
  cases hl : ws.list c.testsRoot with
  | error fault =>
    rw [cases_of_unlisted hl] at h
    cases h
  | ok listed =>
    obtain ⟨loc, entries⟩ := listed
    obtain ⟨hfind, hentries⟩ := Workspace.list_eq_ok_iff.mp hl
    rw [cases_of_listed hl, hentries] at h
    cases ha : casesAmong c ws (ws.tree.children loc) with
    | error e =>
      rw [ha] at h
      cases h
    | ok found =>
      rw [ha] at h
      refine ⟨loc, hfind, ?_⟩
      rw [← casesAmong_eq ha]
      exact (Except.ok.inj h).symm

theorem mem_cases_iff {c : Config} {ws : Workspace} {cases : List TestCase}
    (h : Discovery.cases c ws = .ok cases) {case : TestCase} :
    case ∈ cases ↔ ∃ entry, IsCase c ws entry ∧ case = TestCase.named c entry := by
  obtain ⟨loc, hfind, rfl⟩ := cases_eq_ok h
  have hlist : ws.list c.testsRoot = .ok (loc, ws.tree.children loc) :=
    Workspace.list_eq_ok_iff.mpr ⟨hfind, rfl⟩
  rw [List.mem_mergeSort, List.mem_map]
  constructor
  · rintro ⟨entry, hentry, rfl⟩
    obtain ⟨hmem, hdir⟩ := List.mem_filter.mp hentry
    exact ⟨entry, ⟨loc, _, hlist, hmem, hdir⟩, rfl⟩
  · rintro ⟨entry, ⟨there, entries, hthere, hmem, hdir⟩, rfl⟩
    rw [hlist, Except.ok.injEq, Prod.mk.injEq] at hthere
    obtain ⟨rfl, rfl⟩ := hthere
    exact ⟨entry, List.mem_filter.mpr ⟨hmem, hdir⟩, rfl⟩

theorem isName_of_isCase {c : Config} {ws : Workspace} {entry : String} (h : IsCase c ws entry) :
    IsName entry := by
  obtain ⟨loc, entries, hlist, hentry, -⟩ := h
  obtain ⟨-, rfl⟩ := Workspace.list_eq_ok_iff.mp hlist
  obtain ⟨e, he⟩ := FileTree.mem_children_iff.mp hentry
  exact FileTree.isName_of_mem he (List.mem_append_right _ (List.mem_singleton_self entry))

/-- The case of an entry that is one. -/
theorem eq_named_entry {c : Config} {ws : Workspace} {cases : List TestCase}
    (h : Discovery.cases c ws = .ok cases) {case : TestCase} (hmem : case ∈ cases) :
    IsCase c ws case.entry ∧ case = TestCase.named c case.entry := by
  obtain ⟨entry, hentry, rfl⟩ := (mem_cases_iff h).mp hmem
  rw [TestCase.entry_named (isName_of_isCase hentry)]
  exact ⟨hentry, rfl⟩

/-- The cases are those of their entries. -/
theorem map_named_entry {c : Config} {ws : Workspace} {cases : List TestCase}
    (h : Discovery.cases c ws = .ok cases) :
    (cases.map TestCase.entry).map (TestCase.named c) = cases := by
  have hsame : ∀ case ∈ cases, (TestCase.named c ∘ TestCase.entry) case = id case :=
    fun case hmem => (eq_named_entry h hmem).2.symm
  rw [List.map_map, List.map_congr_left hsame, List.map_id]

theorem nodup_entries {c : Config} {ws : Workspace} {cases : List TestCase}
    (h : Discovery.cases c ws = .ok cases) : (cases.map TestCase.entry).Nodup := by
  obtain ⟨loc, hfind, rfl⟩ := cases_eq_ok h
  rw [((List.mergeSort_perm _ _).map _).nodup_iff, List.map_map]
  have hentries := (ws.tree.nodup_children loc).filter fun entry =>
    ws.isDirectory (c.testsRoot.join ⟨entry⟩)
  have hsame : ∀ entry ∈ (ws.tree.children loc).filter fun entry =>
      ws.isDirectory (c.testsRoot.join ⟨entry⟩),
      (TestCase.entry ∘ TestCase.named c) entry = entry := by
    intro entry hentry
    obtain ⟨hmem, hdir⟩ := List.mem_filter.mp hentry
    have hlist := Workspace.list_eq_ok_iff.mpr ⟨hfind, rfl⟩
    exact TestCase.entry_named (isName_of_isCase (c := c) ⟨loc, _, hlist, hmem, hdir⟩)
  rw [List.map_congr_left hsame, List.map_id']
  exact hentries

theorem nodup_cases {c : Config} {ws : Workspace} {cases : List TestCase}
    (h : Discovery.cases c ws = .ok cases) : cases.Nodup :=
  (List.pairwise_map.mp (nodup_entries h)).imp fun hne heq => hne (congrArg TestCase.entry heq)

theorem pairwise_le_names {c : Config} {ws : Workspace} {cases : List TestCase}
    (h : Discovery.cases c ws = .ok cases) : cases.Pairwise fun a b => a.name ≤ b.name := by
  obtain ⟨loc, -, rfl⟩ := cases_eq_ok h
  refine (List.pairwise_mergeSort ?_ ?_ _).imp fun hle => of_decide_eq_true hle
  · intro x y z hxy hyz
    exact decide_eq_true (String.le_trans (of_decide_eq_true hxy) (of_decide_eq_true hyz))
  · intro x y
    rcases String.le_total x.name y.name with hle | hle
    · rw [decide_eq_true hle, Bool.true_or]
    · rw [decide_eq_true hle, Bool.or_true]

/-- Entries that are texts have different names. -/
theorem name_ne_of_ne {c : Config} {ws : Workspace} {cases : List TestCase}
    (h : Discovery.cases c ws = .ok cases)
    (htexts : ∀ entry, IsCase c ws entry → Octets.IsText entry) {a b : TestCase}
    (ha : a ∈ cases) (hb : b ∈ cases) (hne : a ≠ b) : a.name ≠ b.name := by
  intro hname
  obtain ⟨hcaseA, heqA⟩ := eq_named_entry h ha
  obtain ⟨hcaseB, heqB⟩ := eq_named_entry h hb
  rw [heqA, heqB] at hname
  have hentry := (Octets.toText_inj (htexts _ hcaseA) (htexts _ hcaseB)).mp hname
  exact hne (heqA.trans (hentry ▸ heqB.symm))

/-- The names of the cases strictly increase when all entries are texts. -/
theorem pairwise_lt_names {c : Config} {ws : Workspace} {cases : List TestCase}
    (h : Discovery.cases c ws = .ok cases)
    (htexts : ∀ entry, IsCase c ws entry → Octets.IsText entry) :
    cases.Pairwise fun a b => a.name < b.name := by
  refine ((pairwise_le_names h).and (nodup_cases h)).imp_of_mem fun {a b} ha hb hab => ?_
  rw [← String.not_le]
  intro hba
  exact name_ne_of_ne h htexts ha hb hab.2 (String.le_antisymm hab.1 hba)

/-- Every entry that is a case gives one case, and these are in the order of their names. -/
structure Listed (c : Config) (ws : Workspace) (cases : List TestCase) : Prop where
  mem_iff : ∀ case, case ∈ cases ↔ ∃ entry, IsCase c ws entry ∧ case = .named c entry
  nodup : cases.Nodup
  le : cases.Pairwise fun a b => a.name ≤ b.name
  lt_of_texts : (∀ entry, IsCase c ws entry → Octets.IsText entry) →
    cases.Pairwise fun a b => a.name < b.name

theorem listed {c : Config} {ws : Workspace} {cases : List TestCase}
    (h : Discovery.cases c ws = .ok cases) : Listed c ws cases :=
  ⟨fun _ => mem_cases_iff h, nodup_cases h, pairwise_le_names h, pairwise_lt_names h⟩

end Discovery

end GoldenSuite
