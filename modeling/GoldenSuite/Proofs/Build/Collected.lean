import GoldenSuite.Proofs.Build.Walk
import Mathlib.Data.List.Perm.Subperm

/-!
# The collected sources

When the walk through the source directory can be done, the sources are exactly the files below
that directory whose names from there are accepted by the pattern, each of them once and in the
order of their paths. There has to be one. Nothing depends on the order in which the directories
are listed.
-/

namespace GoldenSuite.Build

open FileTree

variable {c : Config} {pattern : Glob.Pattern} {ws ws' : Workspace} {root : Location}

/-- Names that lead from the source directory down to a file and are accepted by the pattern. -/
def IsSource (c : Config) (pattern : Glob.Pattern) (ws : Workspace) (names : List String) : Prop :=
  ∃ root, ws.find true c.sourceRoot = .ok (root, .directory) ∧
    ws.FileAt root c.sourceRoot names ∧
    pattern.accepts (Octets.toBytes ("/".intercalate names)) = true

/-! ### Matching files -/

/-- The files that the walk comes to and the pattern accepts. -/
def accepted (c : Config) (pattern : Glob.Pattern) (ws : Workspace) (root : Location) :
    List FoundFile :=
  (ws.filesBelow root c.sourceRoot []).filter fun file => pattern.accepts file.innerBytes

theorem mem_accepted_iff (hroot : ws.find true c.sourceRoot = .ok (root, .directory))
    {file : FoundFile} :
    file ∈ accepted c pattern ws root ↔
      ∃ names, IsSource c pattern ws names ∧ file = ⟨c.sourceRoot.descend names, names⟩ := by
  rw [accepted, List.mem_filter, Workspace.mem_filesBelow_iff]
  constructor
  · rintro ⟨⟨names, hat, rfl⟩, haccepts⟩
    exact ⟨names, ⟨root, hroot, hat, haccepts⟩, rfl⟩
  · rintro ⟨names, ⟨root', hroot', hat, haccepts⟩, rfl⟩
    cases hroot.symm.trans hroot'
    exact ⟨⟨names, hat, rfl⟩, haccepts⟩

theorem mem_paths_iff (hroot : ws.find true c.sourceRoot = .ok (root, .directory)) {p : Path} :
    p ∈ (accepted c pattern ws root).map (·.path) ↔
      ∃ names, IsSource c pattern ws names ∧ p = c.sourceRoot.descend names := by
  rw [List.mem_map]
  constructor
  · rintro ⟨file, hfile, rfl⟩
    obtain ⟨names, hsource, rfl⟩ := (mem_accepted_iff hroot).mp hfile
    exact ⟨names, hsource, rfl⟩
  · rintro ⟨names, hsource, rfl⟩
    exact ⟨_, (mem_accepted_iff hroot).mpr ⟨names, hsource, rfl⟩, rfl⟩

/-- Files with different names have paths with different components. -/
theorem nodup_components_accepted (hroot : ws.find true c.sourceRoot = .ok (root, .directory)) :
    (((accepted c pattern ws root).map (·.path)).map Path.components).Nodup := by
  have hbelow : ((ws.filesBelow root c.sourceRoot []).map (·.inner)).Nodup :=
    Workspace.nodup_filesBelow
  have hinner : ((accepted c pattern ws root).map (·.inner)).Nodup :=
    hbelow.sublist (List.filter_sublist.map _)
  rw [List.Nodup, List.pairwise_map] at hinner
  rw [List.map_map, List.Nodup, List.pairwise_map]
  refine hinner.imp_of_mem fun {a b} ha hb hne heq => hne ?_
  obtain ⟨names, ⟨_, _, hat, _⟩, rfl⟩ := (mem_accepted_iff hroot).mp ha
  obtain ⟨names', ⟨_, _, hat', _⟩, rfl⟩ := (mem_accepted_iff hroot).mp hb
  exact Path.eq_of_components_descend hat.isName hat'.isName heq

theorem matching_of_walkable (hroot : ws.find true c.sourceRoot = .ok (root, .directory))
    (hwalk : ws.Walkable root c.sourceRoot) :
    matching c pattern ws =
      .ok (((accepted c pattern ws root).map (·.path)).mergeSort Path.precedes) := by
  have hdone := (Workspace.unlisted?_eq_none_iff (Workspace.get?_of_find hroot)).mpr hwalk
  unfold matching
  rw [hroot]
  dsimp only
  rw [hdone]
  rfl

theorem matching_of_rootless
    (hroot : ∀ root, ws.find true c.sourceRoot ≠ .ok (root, .directory)) :
    matching c pattern ws = .error (.noSources c.sourceRoot c.sourceGlob) := by
  unfold matching
  split
  · next loc hfind => exact absurd hfind (hroot loc)
  · rfl

theorem sources_of_matching (hpattern : c.sourcePattern = .ok pattern) {found : List Path}
    (h : matching c pattern ws = .ok found) :
    sources c ws = if found = [] then .error (.error (.noSources c.sourceRoot c.sourceGlob))
      else .ok found := by
  unfold sources
  rw [hpattern]
  show ((matching c pattern ws).mapError Halt.error >>= _) = _
  rw [h]
  cases found <;> rfl

theorem sources_of_matching_error (hpattern : c.sourcePattern = .ok pattern) {e : BuildError}
    (h : matching c pattern ws = .error e) : sources c ws = .error (.error e) := by
  unfold sources
  rw [hpattern]
  show ((matching c pattern ws).mapError Halt.error >>= _) = _
  rw [h]
  rfl

/-! ### The same files listed in another order -/

section
variable (hhere : ws'.here = ws.here) (hsame : ∀ loc, ws'.tree.get? loc = ws.tree.get? loc)
include hhere hsame

theorem find_eq_of_same (p : Path) : ws'.find true p = ws.find true p :=
  Workspace.find_congr hhere fun loc _ => hsame loc

theorem fileAt_of_same {names : List String} (h : ws.FileAt root c.sourceRoot names) :
    ws'.FileAt root c.sourceRoot names := by
  refine ⟨h.ne_nil, fun above habove hne => ?_, ?_⟩
  · exact (hsame _).trans (h.directories above habove hne)
  · have hfile : ∀ p, ws'.isFile p = ws.isFile p := by
      intro p
      rw [Workspace.isFile, Workspace.isFile, find_eq_of_same hhere hsame]
    have hentry := h.entry
    unfold Workspace.IsFileEntry at hentry ⊢
    rw [hsame, hfile]
    exact hentry

theorem isSource_of_same {names : List String} (h : IsSource c pattern ws names) :
    IsSource c pattern ws' names := by
  obtain ⟨root, hroot, hat, haccepts⟩ := h
  have hroot' := (find_eq_of_same hhere hsame c.sourceRoot).trans hroot
  exact ⟨root, hroot', fileAt_of_same hhere hsame hat, haccepts⟩

theorem walkable_of_same (h : ws.Walkable root c.sourceRoot) : ws'.Walkable root c.sourceRoot := by
  intro names hdir
  obtain ⟨⟨loc, listed⟩, hlist⟩ := h names ((hsame _).symm.trans hdir)
  have hfind := (Workspace.list_eq_ok_iff.mp hlist).1
  exact ⟨_, Workspace.list_eq_ok_iff.mpr ⟨(find_eq_of_same hhere hsame _).trans hfind, rfl⟩⟩

end

/-! ### The sources -/

/-- The walk can be done, when there is a source directory. -/
def Readable (c : Config) (ws : Workspace) : Prop :=
  ∀ root, ws.find true c.sourceRoot = .ok (root, .directory) → ws.Walkable root c.sourceRoot

/-- A list of the sources: the paths of the accepted files, each of them once, in strict order. -/
structure Collected (c : Config) (pattern : Glob.Pattern) (ws : Workspace) (found : List Path) :
    Prop where
  mem_iff : ∀ p, p ∈ found ↔ ∃ names, IsSource c pattern ws names ∧ p = c.sourceRoot.descend names
  nodup : found.Nodup
  ordered : found.Pairwise Path.Before

theorem Collected.unique {found found' : List Path} (h : Collected c pattern ws found)
    (h' : Collected c pattern ws found') : found = found' := by
  have hperm : found.Perm found' :=
    (List.perm_ext_iff_of_nodup h.nodup h'.nodup).mpr fun p => by rw [h.mem_iff, h'.mem_iff]
  exact hperm.eq_of_pairwise (fun _ _ _ _ hab hba => absurd hba hab.asymm) h.ordered h'.ordered

/-- However the links lead, there are no more sources than entries in the file tree. -/
theorem Collected.length_le {found : List Path} (h : Collected c pattern ws found) :
    found.length ≤ ws.tree.entries.length := by
  by_cases hroot : ∃ root, ws.find true c.sourceRoot = .ok (root, .directory)
  · obtain ⟨root, hroot⟩ := hroot
    -- The names of a source are its location without that of the source directory.
    have hsubset : found ⊆
        ws.tree.entries.map fun entry => c.sourceRoot.descend (entry.1.drop root.length) := by
      intro p hp
      obtain ⟨names, ⟨root', hroot', hat, -⟩, rfl⟩ := (h.mem_iff p).mp hp
      cases hroot.symm.trans hroot'
      obtain ⟨e, he⟩ := hat.entry.exists_entry
      have hmem := (get?_eq_some_iff (by simp [hat.ne_nil])).mp he
      exact List.mem_map.mpr ⟨_, hmem, by simp⟩
    have hlength := (List.subperm_of_subset h.nodup hsubset).length_le
    rwa [List.length_map] at hlength
  · have hnil : found = [] := by
      refine List.eq_nil_iff_forall_not_mem.mpr fun p hp => ?_
      obtain ⟨names, ⟨root, hfind, -⟩, -⟩ := (h.mem_iff p).mp hp
      exact hroot ⟨root, hfind⟩
    simp [hnil]

theorem collected_matching (pattern : Glob.Pattern)
    (hroot : ws.find true c.sourceRoot = .ok (root, .directory)) :
    Collected c pattern ws
      (((accepted c pattern ws root).map (·.path)).mergeSort Path.precedes) := by
  have hnodup : (((accepted c pattern ws root).map (·.path)).map Path.components).Nodup :=
    nodup_components_accepted hroot
  refine ⟨fun p => ?_, ?_, Path.pairwise_before_mergeSort hnodup⟩
  · rw [List.mem_mergeSort, mem_paths_iff hroot]
  · exact (List.mergeSort_perm _ _).nodup_iff.mpr hnodup.of_map

section
variable (hpattern : c.sourcePattern = .ok pattern) (hread : Readable c ws)
include hpattern hread

theorem sources_of_source {names : List String} (h : IsSource c pattern ws names) :
    ∃ found, sources c ws = .ok found ∧ Collected c pattern ws found := by
  obtain ⟨root, hroot, -⟩ := id h
  have hcollected := collected_matching pattern hroot
  refine ⟨_, ?_, hcollected⟩
  rw [sources_of_matching hpattern (matching_of_walkable hroot (hread root hroot)), if_neg]
  exact List.ne_nil_of_mem ((hcollected.mem_iff _).mpr ⟨names, h, rfl⟩)

theorem sources_of_sourceless (h : ∀ names, ¬ IsSource c pattern ws names) :
    sources c ws = .error (.error (.noSources c.sourceRoot c.sourceGlob)) := by
  by_cases hroot : ∃ root, ws.find true c.sourceRoot = .ok (root, .directory)
  · obtain ⟨root, hroot⟩ := hroot
    have hcollected := collected_matching pattern hroot
    rw [sources_of_matching hpattern (matching_of_walkable hroot (hread root hroot)), if_pos]
    refine List.eq_nil_iff_forall_not_mem.mpr fun p hp => ?_
    obtain ⟨names, hsource, -⟩ := (hcollected.mem_iff p).mp hp
    exact h names hsource
  · exact sources_of_matching_error hpattern
      (matching_of_rootless fun root hfind => hroot ⟨root, hfind⟩)

end

/-- Whatever the files and the pattern are, when the walk can be done: there are no sources exactly
when there is no source directory or no file in it that is accepted, and otherwise the sources are
exactly those files, each of them once and in the order of their paths. In whichever order the
directories are listed, the answer is the same. -/
theorem sources_exact {c : Config} {pattern : Glob.Pattern}
    (hpattern : c.sourcePattern = .ok pattern) {ws : Workspace} (hread : Readable c ws) :
    (sources c ws = .error (.error (.noSources c.sourceRoot c.sourceGlob)) ↔
      (∀ root, ws.find true c.sourceRoot ≠ .ok (root, .directory)) ∨
        ∀ names, ¬ IsSource c pattern ws names) ∧
    ((∃ names, IsSource c pattern ws names) →
      ∃ found, sources c ws = .ok found ∧ Collected c pattern ws found ∧
        found.length ≤ ws.tree.entries.length) ∧
    ∀ ws' : Workspace, ws'.here = ws.here →
      (∀ loc, ws'.tree.get? loc = ws.tree.get? loc) → sources c ws' = sources c ws := by
  have hsourceless : (∀ root, ws.find true c.sourceRoot ≠ .ok (root, .directory)) →
      ∀ names, ¬ IsSource c pattern ws names := by
    rintro hroot names ⟨root, hfind, -⟩
    exact hroot root hfind
  refine ⟨⟨fun hnone => .inr fun names hsource => ?_, ?_⟩, ?_, fun ws' hhere hsame => ?_⟩
  · obtain ⟨found, hfound, -⟩ := sources_of_source hpattern hread hsource
    rw [hfound] at hnone
    cases hnone
  · rintro (hroot | hnone)
    · exact sources_of_sourceless hpattern hread (hsourceless hroot)
    · exact sources_of_sourceless hpattern hread hnone
  · rintro ⟨names, hsource⟩
    obtain ⟨found, hfound, hcollected⟩ := sources_of_source hpattern hread hsource
    exact ⟨found, hfound, hcollected, hcollected.length_le⟩
  · have hread' : Readable c ws' := fun root hroot =>
      walkable_of_same hhere hsame (hread root ((find_eq_of_same hhere hsame _).symm.trans hroot))
    have hback : ∀ names, IsSource c pattern ws' names → IsSource c pattern ws names :=
      fun names => isSource_of_same hhere.symm fun loc => (hsame loc).symm
    have hforth : ∀ names, IsSource c pattern ws names → IsSource c pattern ws' names :=
      fun names => isSource_of_same hhere hsame
    by_cases hsource : ∃ names, IsSource c pattern ws names
    · obtain ⟨names, hsource⟩ := hsource
      obtain ⟨found, hfound, hcollected⟩ := sources_of_source hpattern hread hsource
      obtain ⟨found', hfound', hcollected'⟩ :=
        sources_of_source hpattern hread' (hforth names hsource)
      have hmoved : Collected c pattern ws found' := by
        refine ⟨fun p => (hcollected'.mem_iff p).trans ?_, hcollected'.nodup, hcollected'.ordered⟩
        exact exists_congr fun names => and_congr_left fun _ => ⟨hback names, hforth names⟩
      rw [hfound, hfound', hcollected.unique hmoved]
    · rw [sources_of_sourceless hpattern hread fun names h => hsource ⟨names, h⟩,
        sources_of_sourceless hpattern hread' fun names h => hsource ⟨names, hback names h⟩]

/-! ### Sources among links -/

/-- Files, and links to a file, to a directory, to nothing and to themselves. -/
def linkedSources : Workspace where
  tree :=
    { entries :=
        [(["src"], .directory), (["src", "p"], .directory), (["src", "p", "B.java"], .file []),
          (["src", "p.java"], .link ⟨"p/B.java"⟩), (["src", "q.java"], .link ⟨"p"⟩),
          (["src", "r.java"], .link ⟨"gone"⟩), (["src", "s.java"], .link ⟨"s.java"⟩),
          (["src", "up"], .link ⟨".."⟩), (["src", "notes"], .file []),
          (["src", "A.java"], .file [])]
      distinct := by decide
      rooted := by decide
      parented := by decide
      named := by decide }
  here := []

theorem linkedSources_collected :
    ∃ pattern, Config.sourcePattern {} = .ok pattern ∧ Readable {} linkedSources ∧
      sources {} linkedSources =
        .ok [⟨"./src/A.java"⟩, ⟨"./src/p/B.java"⟩, ⟨"./src/p.java"⟩] ∧
      Collected {} pattern linkedSources
        [⟨"./src/A.java"⟩, ⟨"./src/p/B.java"⟩, ⟨"./src/p.java"⟩] := by
  have hfind : linkedSources.find true (({} : Config).sourceRoot) = .ok (["src"], .directory) :=
    eq_ok_of_toOption (by decide +kernel)
  have hread : Readable {} linkedSources := by
    intro root hroot
    cases hfind.symm.trans hroot
    exact (Workspace.unlisted?_eq_none_iff (Workspace.get?_of_find hfind)).mp (by decide +kernel)
  let pattern : Glob.Pattern :=
    ((Glob.Pattern.ofText ({} : Config).sourceGlob).toOption).getD ⟨[]⟩
  have hpattern : Config.sourcePattern {} = .ok pattern :=
    Config.sourcePattern_eq_ok_iff.mpr ⟨eq_ok_of_toOption (by rfl), by decide +kernel⟩
  have hsource : IsSource {} pattern linkedSources ["A.java"] :=
    ⟨["src"], hfind, Workspace.fileAt_singleton.mpr (.inl ⟨[], by decide +kernel⟩),
      by decide +kernel⟩
  obtain ⟨-, hsome, -⟩ := sources_exact hpattern hread
  obtain ⟨found, hfound, hcollected, -⟩ := hsome ⟨_, hsource⟩
  have haccepted : ((accepted {} pattern linkedSources ["src"]).map (·.path)) =
      [⟨"./src/p/B.java"⟩, ⟨"./src/p.java"⟩, ⟨"./src/A.java"⟩] := by decide +kernel
  have hsorted : found = [⟨"./src/A.java"⟩, ⟨"./src/p/B.java"⟩, ⟨"./src/p.java"⟩] := by
    rw [hcollected.unique (collected_matching pattern hfind), haccepted]
    refine Path.mergeSort_eq_of_perm (by decide) ?_
    have hprecedes : List.Pairwise
        (fun p q : Path => p.precedes q = true ∧ p.components ≠ q.components)
        [⟨"./src/A.java"⟩, ⟨"./src/p/B.java"⟩, ⟨"./src/p.java"⟩] := by decide +kernel
    exact hprecedes.imp fun h => Path.before_of_precedes h.1 h.2
  rw [hsorted] at hfound hcollected
  exact ⟨pattern, hpattern, hread, hfound, hcollected⟩

end GoldenSuite.Build
