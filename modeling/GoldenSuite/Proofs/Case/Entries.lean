import GoldenSuite.Proofs.Case.Places
import GoldenSuite.Proofs.Text.Bytewise
import GoldenSuite.Proofs.Workspace.Cleaning
import GoldenSuite.Proofs.Workspace.Passing
import Mathlib.Data.List.Nodup

/-!
# The cases entry by entry

A directory of cases gives one case for every entry of it that is a directory or a link to one.
The discovery fails when that directory cannot be listed, or when an entry cannot be followed for
another reason than that nothing is there. It looks at the way to that directory, at its entries
and at the ways of the links among them; what lies elsewhere does not matter, nor does the order
in which the entries are listed.
-/

namespace GoldenSuite

open FileTree

variable {c : Config} {ws ws' : Workspace} {base : Path} {root : Location} {name : String}

/-! ### Entries of a directory -/

namespace Path

theorem getLast?_chars_join (base : Path) {p : Path} (h : p.chars ≠ []) :
    (base.join p).chars.getLast? = p.chars.getLast? := by
  unfold join
  split
  · rfl
  · split
    · rfl
    · rw [chars, String.toList_append]
      exact List.getLast?_append_of_ne_nil _ h

/-- A path to an entry is followed by the names of the directory and then the name of the entry. -/
theorem steps_join_name (h : IsName name) : (base.join ⟨name⟩).steps = base.names ++ [name] := by
  obtain ⟨hnames, hrelative⟩ := names_of_isName h
  have hne : (Path.mk name).chars ≠ [] := by simpa [chars] using h.ne_empty
  have hlast : (base.join ⟨name⟩).endsInSeparator = false := by
    rw [endsInSeparator, getLast?_chars_join base hne]
    cases hl : (Path.mk name).chars.getLast? with
    | none => rfl
    | some last =>
      have hmem : last ∈ name.toList := List.mem_of_getLast? hl
      have hslash : last ≠ '/' := fun heq => h.slash_not_mem (heq ▸ hmem)
      simpa using hslash
  rw [steps, hlast, names_join hrelative, hnames]
  simp

end Path

namespace Workspace

/-- A path to an entry that is not a link leads to that entry. -/
theorem find_entry {e : Entry} (hroot : ws.find true base = .ok (root, .directory))
    (husable : (base.join ⟨name⟩).Usable) (he : ws.tree.get? (root ++ [name]) = some e)
    (hne : ∀ target, e ≠ .link target) :
    ws.find true (base.join ⟨name⟩) = .ok (root ++ [name], e) := by
  have hname : IsName name := isName_of_mem he (by simp)
  have hlooks : ws.tree.Looks root name :=
    ⟨get?_of_find hroot, hname.ne_current, hname.ne_parent, hname.size_le⟩
  obtain ⟨n, hroute⟩ := route_names_of_find hroot
  have hstart : start ws.here (base.join ⟨name⟩) = start ws.here base :=
    start_eq (Path.isAbsolute_join (Path.names_of_isName hname).2) ws.here
  refine find_eq_ok_iff.mpr ⟨⟨husable, ?_⟩, he⟩
  rw [Path.steps_join_name hname, hstart, hroute.follow_append (by simp), follow_name hlooks, he]
  cases e with
  | directory => exact follow_nil ..
  | file contents => exact follow_nil ..
  | link target => exact absurd rfl (hne target)

end Workspace

namespace Discovery

-- Where a path leads is not looked into here.
attribute [local irreducible] Workspace.find

/-! ### Errors -/

/-- An entry that cannot be followed, and not because nothing is there. -/
def Unresolved (c : Config) (ws : Workspace) (name : String) (fault : Fault) : Prop :=
  ws.find true (c.testsRoot.join ⟨name⟩) = .error fault ∧ fault ≠ .notFound

theorem casesAmong_of_unresolved {fault : Fault} (h : Unresolved c ws name fault)
    (others : List String) :
    casesAmong c ws (name :: others) = .error ⟨c.testsRoot.join ⟨name⟩, fault⟩ := by
  rw [casesAmong_cons, h.1]
  split
  · next heq => cases heq
  · next heq => cases heq
  · next heq =>
    cases heq
    exact absurd rfl h.2
  · next heq =>
    cases heq
    rfl

theorem unresolved_of_casesAmong {names : List String} {e : DiscoveryError}
    (h : casesAmong c ws names = .error e) :
    ∃ name ∈ names, e.path = c.testsRoot.join ⟨name⟩ ∧ Unresolved c ws name e.fault := by
  induction names with
  | nil => cases h
  | cons name others ih =>
    have hother : casesAmong c ws others = .error e →
        ∃ other ∈ name :: others, e.path = c.testsRoot.join ⟨other⟩ ∧
          Unresolved c ws other e.fault := by
      intro hothers
      obtain ⟨other, hmem, hother⟩ := ih hothers
      exact ⟨other, List.mem_cons_of_mem _ hmem, hother⟩
    by_cases hunresolved : ∃ fault, Unresolved c ws name fault
    · obtain ⟨fault, hname⟩ := hunresolved
      rw [casesAmong_of_unresolved hname] at h
      cases h
      exact ⟨name, List.mem_cons_self .., rfl, hname⟩
    · rw [casesAmong_cons] at h
      split at h
      · cases hrest : casesAmong c ws others with
        | ok rest =>
          rw [hrest] at h
          cases h
        | error e' =>
          rw [hrest] at h
          cases h
          exact hother hrest
      · exact hother h
      · exact hother h
      · next fault hmissing hfind => exact absurd ⟨fault, hfind, hmissing⟩ hunresolved

theorem casesAmong_of_resolved {names : List String}
    (h : ∀ name ∈ names, ∀ fault, ¬ Unresolved c ws name fault) :
    ∃ found, casesAmong c ws names = .ok found := by
  cases hall : casesAmong c ws names with
  | ok found => exact ⟨found, rfl⟩
  | error e =>
    obtain ⟨name, hmem, -, hname⟩ := unresolved_of_casesAmong hall
    exact absurd hname (h name hmem e.fault)

theorem resolved_of_casesAmong {names : List String} {found : List TestCase}
    (h : casesAmong c ws names = .ok found) :
    ∀ name ∈ names, ∀ fault, ¬ Unresolved c ws name fault := by
  induction names generalizing found with
  | nil => simp
  | cons name others ih =>
    have hname : ∀ fault, ¬ Unresolved c ws name fault := by
      intro fault hunresolved
      rw [casesAmong_of_unresolved hunresolved] at h
      cases h
    rw [casesAmong_cons] at h
    have hothers : ∃ rest, casesAmong c ws others = .ok rest := by
      split at h
      · cases hrest : casesAmong c ws others with
        | ok rest => exact ⟨rest, rfl⟩
        | error e =>
          rw [hrest] at h
          cases h
      · exact ⟨_, h⟩
      · exact ⟨_, h⟩
      · cases h
    obtain ⟨rest, hrest⟩ := hothers
    exact List.forall_mem_cons.mpr ⟨hname, ih hrest⟩

/-- The discovery fails when the directory of all cases cannot be listed or one of its entries
cannot be followed, and says which. -/
theorem of_cases_error {e : DiscoveryError} (h : Discovery.cases c ws = .error e) :
    (e.path = c.testsRoot ∧ ws.list c.testsRoot = .error e.fault) ∨
      ∃ root names name, ws.list c.testsRoot = .ok (root, names) ∧ name ∈ names ∧
        e.path = c.testsRoot.join ⟨name⟩ ∧ Unresolved c ws name e.fault := by
  cases hlist : ws.list c.testsRoot with
  | error fault =>
    rw [cases_of_unlisted hlist] at h
    cases h
    exact .inl ⟨rfl, rfl⟩
  | ok listed =>
    obtain ⟨root, names⟩ := listed
    rw [cases_of_listed hlist] at h
    cases hamong : casesAmong c ws names with
    | ok found =>
      rw [hamong] at h
      cases h
    | error e' =>
      rw [hamong] at h
      cases h
      obtain ⟨name, hmem, hpath, hname⟩ := unresolved_of_casesAmong hamong
      exact .inr ⟨root, names, name, rfl, hmem, hpath, hname⟩

theorem cases_eq_error_iff :
    (∃ e, Discovery.cases c ws = .error e) ↔
      (∃ fault, ws.list c.testsRoot = .error fault) ∨
        ∃ root names name fault, ws.list c.testsRoot = .ok (root, names) ∧ name ∈ names ∧
          Unresolved c ws name fault := by
  constructor
  · rintro ⟨e, he⟩
    rcases of_cases_error he with ⟨-, hlist⟩ | ⟨root, names, name, hlist, hmem, -, hname⟩
    · exact .inl ⟨_, hlist⟩
    · exact .inr ⟨root, names, name, _, hlist, hmem, hname⟩
  · rintro (⟨fault, hlist⟩ | ⟨root, names, name, fault, hlist, hmem, hname⟩)
    · exact ⟨_, cases_of_unlisted hlist⟩
    · rw [cases_of_listed hlist]
      cases hamong : casesAmong c ws names with
      | ok found => exact absurd hname (resolved_of_casesAmong hamong name hmem fault)
      | error e => exact ⟨e, rfl⟩

/-! ### Entries that are cases -/

theorem resolved_of_cases {cases : List TestCase} (h : Discovery.cases c ws = .ok cases)
    (hroot : ws.find true c.testsRoot = .ok (root, .directory))
    (hmem : name ∈ ws.tree.children root) (fault : Fault) : ¬ Unresolved c ws name fault := by
  intro hunresolved
  have hlist : ws.list c.testsRoot = .ok (root, ws.tree.children root) :=
    Workspace.list_eq_ok_iff.mpr ⟨hroot, rfl⟩
  obtain ⟨e, he⟩ := cases_eq_error_iff.mpr (.inr ⟨_, _, _, _, hlist, hmem, hunresolved⟩)
  rw [h] at he
  cases he

theorem usable_of_resolved (hname : IsName name) (h : ∀ fault, ¬ Unresolved c ws name fault) :
    (c.testsRoot.join ⟨name⟩).Usable := by
  by_contra hnot
  obtain ⟨fault, hfault⟩ := Workspace.resolve_of_not_usable hnot
  have hfind : ws.find true (c.testsRoot.join ⟨name⟩) = .error fault := by
    rw [Workspace.find_eq, hfault]
  refine h fault ⟨hfind, fun hmissing => hnot ?_⟩
  obtain ⟨hnames, hrelative⟩ := Path.names_of_isName hname
  have hne : (c.testsRoot.join ⟨name⟩).names ≠ [] := by simp [Path.names_join hrelative, hnames]
  exact Workspace.usable_of_notFound hne (hmissing ▸ hfind)

/-- An entry that is a directory, or a link that leads to one. -/
def IsCaseEntry (c : Config) (ws : Workspace) (root : Location) (name : String) : Prop :=
  ws.tree.get? (root ++ [name]) = some .directory ∨
    ∃ target loc, ws.tree.get? (root ++ [name]) = some (.link target) ∧
      ws.find true (c.testsRoot.join ⟨name⟩) = .ok (loc, .directory)

theorem isCase_iff {cases : List TestCase} (h : Discovery.cases c ws = .ok cases)
    (hroot : ws.find true c.testsRoot = .ok (root, .directory)) :
    IsCase c ws name ↔ IsCaseEntry c ws root name := by
  have hlist : ws.list c.testsRoot = .ok (root, ws.tree.children root) :=
    Workspace.list_eq_ok_iff.mpr ⟨hroot, rfl⟩
  constructor
  · rintro ⟨root', names, hlist', hmem, hdir⟩
    rw [hlist] at hlist'
    cases hlist'
    obtain ⟨e, he⟩ := mem_children_iff.mp hmem
    obtain ⟨loc, hloc⟩ := Workspace.isDirectory_iff.mp hdir
    cases e with
    | directory => exact .inl he
    | link target => exact .inr ⟨target, loc, he, hloc⟩
    | file contents =>
      have husable := (Workspace.find_eq_ok_iff.mp hloc).1.1
      rw [Workspace.find_entry hroot husable he (by simp)] at hloc
      cases hloc
  · intro hentry
    have hmem : name ∈ ws.tree.children root := by
      rcases hentry with he | ⟨target, loc, he, -⟩
      · exact mem_children_iff.mpr ⟨_, he⟩
      · exact mem_children_iff.mpr ⟨_, he⟩
    refine ⟨root, _, hlist, hmem, Workspace.isDirectory_iff.mpr ?_⟩
    rcases hentry with he | ⟨target, loc, -, hloc⟩
    · have husable :=
        usable_of_resolved (isName_of_mem he (by simp)) (resolved_of_cases h hroot hmem)
      exact ⟨_, Workspace.find_entry hroot husable he (by simp)⟩
    · exact ⟨loc, hloc⟩

/-! ### What the discovery looks at -/

/-- The places that the discovery looks at: those on the way to the directory of all cases, its
entries, and those on the ways of the links among them. -/
inductive LooksAt (c : Config) (ws : Workspace) : Location → Prop
  | way {loc : Location} : ws.Passes c.testsRoot loc → LooksAt c ws loc
  | entry {root : Location} (name : String) :
    ws.find true c.testsRoot = .ok (root, .directory) → LooksAt c ws (root ++ [name])
  | link {root loc : Location} {name : String} {target : Path} :
    ws.find true c.testsRoot = .ok (root, .directory) →
    ws.tree.get? (root ++ [name]) = some (.link target) →
    ws.Passes (c.testsRoot.join ⟨name⟩) loc → LooksAt c ws loc

theorem perm_of_mem_iff {found other : List TestCase} (h : Discovery.cases c ws = .ok found)
    (h' : Discovery.cases c ws' = .ok other) (hmem : ∀ case, case ∈ other ↔ case ∈ found) :
    other.Perm found :=
  (List.perm_ext_iff_of_nodup (nodup_cases h') (nodup_cases h)).mpr hmem

/-- Sorting settles the order of the names. -/
theorem map_name_eq_of_perm {found other : List TestCase} (h : Discovery.cases c ws = .ok found)
    (h' : Discovery.cases c ws' = .ok other) (hperm : other.Perm found) :
    other.map (·.name) = found.map (·.name) := by
  have hsorted : (found.map (·.name)).Pairwise (· ≤ ·) :=
    List.pairwise_map.mpr (pairwise_le_names h)
  have hsorted' : (other.map (·.name)).Pairwise (· ≤ ·) :=
    List.pairwise_map.mpr (pairwise_le_names h')
  exact List.Perm.eq_of_pairwise (fun _ _ _ _ hab hba => String.le_antisymm hab hba) hsorted'
    hsorted (hperm.map _)

/-- Sorting settles the order of cases with different names. -/
theorem eq_of_perm {found other : List TestCase} (h : Discovery.cases c ws = .ok found)
    (h' : Discovery.cases c ws' = .ok other) (hperm : other.Perm found)
    (hnames : (found.map (·.name)).Nodup) : other = found := by
  refine List.Perm.eq_of_pairwise ?_ (pairwise_le_names h') (pairwise_le_names h) hperm
  intro a b ha hb hab hba
  exact List.inj_on_of_nodup_map hnames (hperm.mem_iff.mp ha) hb (String.le_antisymm hab hba)

/-- Files that have the same at every place that the discovery looks at have the same cases, with
the same names in the same order; and they are in the same order unless some of them have one
name. -/
theorem cases_of_same {cases : List TestCase} (h : Discovery.cases c ws = .ok cases)
    (hhere : ws'.here = ws.here)
    (hsame : ∀ loc, LooksAt c ws loc → ws'.tree.get? loc = ws.tree.get? loc) :
    ∃ other, Discovery.cases c ws' = .ok other ∧ other.Perm cases ∧
      other.map (·.name) = cases.map (·.name) ∧
      ((cases.map (·.name)).Nodup → other = cases) := by
  obtain ⟨root, hroot, -⟩ := cases_eq_ok h
  have hroot' : ws'.find true c.testsRoot = .ok (root, .directory) := by
    rw [Workspace.find_congr hhere fun loc hloc => hsame loc (.way hloc), hroot]
  have hentry : ∀ name, ws'.tree.get? (root ++ [name]) = ws.tree.get? (root ++ [name]) :=
    fun name => hsame _ (.entry name hroot)
  have hchildren : ∀ name, name ∈ ws'.tree.children root ↔ name ∈ ws.tree.children root := by
    intro name
    rw [mem_children_iff, mem_children_iff, hentry]
  have hfind : ∀ name ∈ ws.tree.children root,
      ws'.find true (c.testsRoot.join ⟨name⟩) = ws.find true (c.testsRoot.join ⟨name⟩) := by
    intro name hmem
    obtain ⟨e, he⟩ := mem_children_iff.mp hmem
    have husable := usable_of_resolved (isName_of_mem he (by simp)) (resolved_of_cases h hroot hmem)
    by_cases hlink : ∃ target, e = .link target
    · obtain ⟨target, rfl⟩ := hlink
      exact Workspace.find_congr hhere fun loc hloc => hsame loc (.link hroot he hloc)
    · have hne : ∀ target, e ≠ .link target := fun target heq => hlink ⟨target, heq⟩
      rw [Workspace.find_entry hroot husable he hne,
        Workspace.find_entry hroot' husable ((hentry name).trans he) hne]
  have hlist' : ws'.list c.testsRoot = .ok (root, ws'.tree.children root) :=
    Workspace.list_eq_ok_iff.mpr ⟨hroot', rfl⟩
  obtain ⟨found, hfound⟩ : ∃ found, casesAmong c ws' (ws'.tree.children root) = .ok found := by
    refine casesAmong_of_resolved fun name hmem' fault hunresolved => ?_
    have hmem := (hchildren name).mp hmem'
    refine resolved_of_cases h hroot hmem fault ⟨?_, hunresolved.2⟩
    rw [← hfind name hmem, hunresolved.1]
  have hcases' := cases_of_listed hlist'
  rw [hfound] at hcases'
  have hname : ∀ name, IsCaseEntry c ws' root name ↔ IsCaseEntry c ws root name := by
    intro name
    unfold IsCaseEntry
    rw [hentry]
    by_cases hmem : name ∈ ws.tree.children root
    · rw [hfind name hmem]
    · have hnone : ws.tree.get? (root ++ [name]) = none := by
        by_contra hsome
        obtain ⟨e, he⟩ := Option.ne_none_iff_exists'.mp hsome
        exact hmem (mem_children_iff.mpr ⟨e, he⟩)
      simp [hnone]
  have hperm := perm_of_mem_iff h hcases' fun case => by
    rw [mem_cases_iff h, mem_cases_iff hcases']
    simp only [isCase_iff h hroot, isCase_iff hcases' hroot', hname]
  exact ⟨_, hcases', hperm, map_name_eq_of_perm h hcases' hperm, eq_of_perm h hcases' hperm⟩

/-! ### The whole discovery -/

theorem nodup_directories {cases : List TestCase} (h : Discovery.cases c ws = .ok cases) :
    (cases.map (·.directory)).Nodup := by
  have hentries := nodup_entries h
  rw [List.Nodup, List.pairwise_map] at hentries ⊢
  refine hentries.imp fun hne heq => hne ?_
  rw [TestCase.entry, TestCase.entry, heq]

theorem directory_eq_of_texts {cases : List TestCase} (h : Discovery.cases c ws = .ok cases)
    (htexts : ∀ entry, IsCase c ws entry → Octets.IsText entry) {case : TestCase}
    (hmem : case ∈ cases) : case.directory = c.testsRoot.join (.ofText case.name) := by
  obtain ⟨entry, hentry, rfl⟩ := (mem_cases_iff h).mp hmem
  obtain ⟨text, rfl⟩ := htexts entry hentry
  rw [TestCase.named, TestCase.ofDirectory, Octets.toText_ofText]
  rfl

/-- The discovery fails exactly when the directory of all cases cannot be listed or one of its
entries cannot be followed for another reason than that nothing is there, and then says which;
otherwise it gives exactly the cases of the entries, one for each, in the order of the bytes of
their names, whatever lies at places that it does not look at. The names are those of the entries
as they are shown: where the entries are texts, the names tell them apart, and where the names are
different, the order of the listing does not matter. -/
theorem cases_exact (c : Config) (ws : Workspace) :
    ((∃ e, Discovery.cases c ws = .error e) ↔
      (∃ fault, ws.list c.testsRoot = .error fault) ∨
        ∃ root entries entry fault, ws.list c.testsRoot = .ok (root, entries) ∧
          entry ∈ entries ∧ Unresolved c ws entry fault) ∧
    (∀ e, Discovery.cases c ws = .error e →
      (e.path = c.testsRoot ∧ ws.list c.testsRoot = .error e.fault) ∨
        ∃ root entries entry, ws.list c.testsRoot = .ok (root, entries) ∧ entry ∈ entries ∧
          e.path = c.testsRoot.join ⟨entry⟩ ∧ Unresolved c ws entry e.fault) ∧
    ∀ cases, Discovery.cases c ws = .ok cases →
      (∃ root, ws.find true c.testsRoot = .ok (root, .directory) ∧
        (∀ case, case ∈ cases ↔ ∃ entry, IsCaseEntry c ws root entry ∧
          case = {
            name := Octets.toText entry
            directory := c.testsRoot.join ⟨entry⟩
            input := (c.testsRoot.join ⟨entry⟩).join c.caseInputDir
            output := (c.testsRoot.join ⟨entry⟩).join c.caseOutputDir
            expected := (c.testsRoot.join ⟨entry⟩).join c.caseExpectedDir }) ∧
        ((∀ entry, IsCaseEntry c ws root entry → Octets.IsText entry) →
          cases.Pairwise (fun a b => Text.encode a.name < Text.encode b.name) ∧
          ∀ case ∈ cases, case.directory = c.testsRoot.join (.ofText case.name))) ∧
      (cases.map (·.directory)).Nodup ∧
      cases.Pairwise (fun a b => Text.encode a.name ≤ Text.encode b.name) ∧
      ∀ ws' : Workspace, ws'.here = ws.here →
        (∀ loc, LooksAt c ws loc → ws'.tree.get? loc = ws.tree.get? loc) →
          ∃ other, Discovery.cases c ws' = .ok other ∧ other.Perm cases ∧
            other.map (·.name) = cases.map (·.name) ∧
            ((cases.map (·.name)).Nodup → other = cases) := by
  refine ⟨cases_eq_error_iff, fun e he => of_cases_error he, fun cases h => ?_⟩
  obtain ⟨root, hroot, -⟩ := cases_eq_ok h
  refine ⟨⟨root, hroot, fun case => ?_, fun htexts => ?_⟩, nodup_directories h, ?_,
    fun ws' hhere hsame => cases_of_same h hhere hsame⟩
  · rw [mem_cases_iff h]
    simp only [isCase_iff h hroot]
    rfl
  · have hcases : ∀ entry, IsCase c ws entry → Octets.IsText entry := fun entry hentry =>
      htexts entry ((isCase_iff h hroot).mp hentry)
    exact ⟨(pairwise_lt_names h hcases).imp fun hlt => Text.encode_lt_encode_iff.mpr hlt,
      fun case hmem => directory_eq_of_texts h hcases hmem⟩
  · exact (pairwise_le_names h).imp fun hle => Text.encode_le_encode_iff.mpr hle

end Discovery

/-! ### Cases below which the discovery looks, and cases that show alike -/

/-- The way to the directory of all cases leads through the output of a case. -/
def windingConfig : Config :=
  { testsDir := ⟨"t/a/out/../.."⟩ }

def windingCase : Workspace where
  tree :=
    { entries :=
        [(["t"], .directory), (["t", "a"], .directory), (["t", "a", "out"], .directory)]
      distinct := by decide
      rooted := by decide
      parented := by decide
      named := by decide }
  here := []

/-- A case that holds the directory of all cases. -/
def outerConfig : Config :=
  { testsDir := ⟨"t"⟩ }

def outerCase : Workspace where
  tree :=
    { entries :=
        [(["w"], .directory), (["w", "t"], .directory), (["w", "t", "a"], .link ⟨".."⟩),
          (["w", "t", "b"], .directory)]
      distinct := by decide
      rooted := by decide
      parented := by decide
      named := by decide }
  here := ["w"]

/-- Two cases with names of one byte each, neither of them a text. -/
def bytewiseConfig : Config :=
  { testsDir := ⟨"t"⟩ }

def bytewiseCases : Workspace where
  tree :=
    { entries :=
        [(["t"], .directory), (["t", "\u00ff"], .directory), (["t", "\u00fe"], .directory)]
      distinct := by decide
      rooted := by decide
      parented := by decide
      named := by decide }
  here := []

/-- The same two cases, listed the other way round. -/
def swappedCases : Workspace where
  tree :=
    { entries :=
        [(["t"], .directory), (["t", "\u00fe"], .directory), (["t", "\u00ff"], .directory)]
      distinct := by decide
      rooted := by decide
      parented := by decide
      named := by decide }
  here := []

theorem get?_swappedCases (loc : Location) :
    swappedCases.tree.get? loc = bytewiseCases.tree.get? loc := by
  by_cases hroot : loc = []
  · rw [hroot]
    rfl
  · refine Option.ext fun e => ?_
    rw [get?_eq_some_iff hroot, get?_eq_some_iff hroot]
    simp only [swappedCases, bytewiseCases, List.mem_cons, List.not_mem_nil, or_false]
    exact or_congr_right or_comm

/-- What lies strictly below a case can be where the discovery looks, although no link leads
there: on the way to the directory of all cases, or among its entries. And different cases can have
one name, which is not that of their directories and leaves them in the order of the listing. -/
theorem Discovery.cases_changed_from_below_or_alike :
    (Discovery.cases windingConfig windingCase = .ok [.named windingConfig "a"] ∧
      windingCase.find true (TestCase.named windingConfig "a").directory =
        .ok (["t", "a"], .directory) ∧
      below ["t", "a"] ["t", "a", "out"] = true ∧
      (∀ loc target, (loc, Entry.link target) ∉ windingCase.tree.entries) ∧
      Discovery.cases windingConfig
        (windingCase.withTree (windingCase.tree.prune ["t", "a", "out"])) =
          .error ⟨windingConfig.testsRoot, .notFound⟩) ∧
    Discovery.cases outerConfig outerCase = .ok [.named outerConfig "a", .named outerConfig "b"] ∧
      outerCase.find true (TestCase.named outerConfig "a").directory = .ok (["w"], .directory) ∧
      below ["w"] ["w", "t", "b"] = true ∧
      Discovery.cases outerConfig (outerCase.withTree (outerCase.tree.prune ["w", "t", "b"])) =
        .ok [.named outerConfig "a"] ∧
    let first := TestCase.named bytewiseConfig "\u00ff"
    let second := TestCase.named bytewiseConfig "\u00fe"
    Discovery.cases bytewiseConfig bytewiseCases = .ok [first, second] ∧
      first ≠ second ∧ first.name = second.name ∧
      first.directory ≠ bytewiseConfig.testsRoot.join (.ofText first.name) ∧
      swappedCases.here = bytewiseCases.here ∧
      (∀ loc, swappedCases.tree.get? loc = bytewiseCases.tree.get? loc) ∧
      Discovery.cases bytewiseConfig swappedCases = .ok [second, first] := by
  refine ⟨⟨?_, eq_ok_of_toOption (by decide +kernel), by decide, ?_, ?_⟩, ?_,
    eq_ok_of_toOption (by decide +kernel), by decide, ?_, ?_, by decide +kernel, by decide +kernel,
    by decide +kernel, rfl, get?_swappedCases, ?_⟩
  · have hlist : windingCase.list windingConfig.testsRoot = .ok (["t"], ["a"]) :=
      eq_ok_of_toOption (by decide +kernel)
    have hfound : Discovery.casesAmong windingConfig windingCase ["a"] =
        .ok [.named windingConfig "a"] := eq_ok_of_toOption (by decide +kernel)
    exact Discovery.cases_of_sorted hlist hfound (by simp)
  · simp [windingCase]
  · exact Discovery.cases_of_unlisted (by rfl)
  · have hlist : outerCase.list outerConfig.testsRoot = .ok (["w", "t"], ["a", "b"]) :=
      eq_ok_of_toOption (by decide +kernel)
    have hfound : Discovery.casesAmong outerConfig outerCase ["a", "b"] =
        .ok [.named outerConfig "a", .named outerConfig "b"] :=
      eq_ok_of_toOption (by decide +kernel)
    exact Discovery.cases_of_sorted hlist hfound (by decide +kernel)
  · have hlist : (outerCase.withTree (outerCase.tree.prune ["w", "t", "b"])).list
        outerConfig.testsRoot = .ok (["w", "t"], ["a"]) := eq_ok_of_toOption (by decide +kernel)
    have hfound : Discovery.casesAmong outerConfig
        (outerCase.withTree (outerCase.tree.prune ["w", "t", "b"])) ["a"] =
          .ok [.named outerConfig "a"] := eq_ok_of_toOption (by decide +kernel)
    exact Discovery.cases_of_sorted hlist hfound (by simp)
  · have hlist : bytewiseCases.list bytewiseConfig.testsRoot = .ok (["t"], ["\u00ff", "\u00fe"]) :=
      eq_ok_of_toOption (by decide +kernel)
    have hfound : Discovery.casesAmong bytewiseConfig bytewiseCases ["\u00ff", "\u00fe"] =
        .ok [.named bytewiseConfig "\u00ff", .named bytewiseConfig "\u00fe"] :=
      eq_ok_of_toOption (by decide +kernel)
    exact Discovery.cases_of_sorted hlist hfound (by decide +kernel)
  · have hlist : swappedCases.list bytewiseConfig.testsRoot = .ok (["t"], ["\u00fe", "\u00ff"]) :=
      eq_ok_of_toOption (by decide +kernel)
    have hfound : Discovery.casesAmong bytewiseConfig swappedCases ["\u00fe", "\u00ff"] =
        .ok [.named bytewiseConfig "\u00fe", .named bytewiseConfig "\u00ff"] :=
      eq_ok_of_toOption (by decide +kernel)
    exact Discovery.cases_of_sorted hlist hfound (by decide +kernel)

end GoldenSuite
