import GoldenSuite.Proofs.Build.Collected
import GoldenSuite.Proofs.Build.Depth
import GoldenSuite.Proofs.Glob.Language

/-!
# Java sources

The default pattern stands for every file whose name ends in `.java`, however deep it lies and
whatever else is in its name. The sources are those files and nothing else, unless there is none
or the walk comes to a directory whose path is too long to be followed.
-/

namespace GoldenSuite.Build

open FileTree

variable {c : Config} {ws : Workspace} {root : Location} {names : List String} {name : String}

/-! ### The ending of a name -/

theorem toBytes_append (a b : String) :
    Octets.toBytes (a ++ b) = Octets.toBytes a ++ Octets.toBytes b := by
  simp [Octets.toBytes]

/-- Names in a row end in the last of them, and a slash stands before it unless it is alone. -/
theorem exists_before_last (hlast : names.getLast? = some name) :
    ∃ before, Octets.toBytes ("/".intercalate names) = before ++ Octets.toBytes name ∧
      (before = [] ∨ Octets.toBytes "/" <:+ before) := by
  induction names with
  | nil => cases hlast
  | cons first others ih =>
    by_cases hothers : others = []
    · subst hothers
      obtain rfl : first = name := by simpa using hlast
      exact ⟨[], by rw [String.intercalate_singleton, List.nil_append], .inl rfl⟩
    · rw [List.getLast?_cons_of_ne_nil hothers] at hlast
      obtain ⟨before, hbefore, hslash⟩ := ih hlast
      refine ⟨Octets.toBytes first ++ Octets.toBytes "/" ++ before, ?_, .inr ?_⟩
      · rw [String.intercalate_cons_of_ne_nil hothers, toBytes_append, toBytes_append, hbefore,
          List.append_assoc _ before]
      · rcases hslash with rfl | hslash
        · rw [List.append_nil]
          exact List.suffix_append _ _
        · exact hslash.trans (List.suffix_append _ _)

/-- Without a slash, an ending of names in a row is one of the last of them. -/
theorem suffix_intercalate_iff {ending : Bytes} (hslash : Octets.toByte '/' ∉ ending)
    (hlast : names.getLast? = some name) :
    ending <:+ Octets.toBytes ("/".intercalate names) ↔ ending <:+ Octets.toBytes name := by
  obtain ⟨before, hbefore, hend⟩ := exists_before_last hlast
  have hname : Octets.toBytes name <:+ Octets.toBytes ("/".intercalate names) :=
    ⟨before, hbefore.symm⟩
  refine ⟨fun h => ?_, fun h => h.trans hname⟩
  rcases List.suffix_or_suffix_of_suffix h hname with hshort | ⟨more, hmore⟩
  · exact hshort
  · -- A longer ending would reach the slash before the last name.
    have hmorebefore : more <:+ before := by
      rw [hbefore, ← hmore] at h
      obtain ⟨first, hfirst⟩ := h
      rw [← List.append_assoc] at hfirst
      exact ⟨first, List.append_cancel_right hfirst⟩
    by_cases hnil : more = []
    · rw [← hmore, hnil, List.nil_append]
    · rcases hend with rfl | hend
      · exact absurd (List.suffix_nil.mp hmorebefore) hnil
      · have hshort : (Octets.toBytes "/").length ≤ more.length := List.length_pos_iff.mpr hnil
        have hmem := (List.suffix_of_suffix_length_le hend hmorebefore hshort).subset
        refine absurd ?_ hslash
        rw [← hmore]
        exact List.mem_append_left _ (hmem (List.mem_singleton.mpr rfl))

/-! ### Files whose names end in `.java` -/

/-- The tokens of the default pattern. -/
def javaPattern : Glob.Pattern :=
  ⟨.leadingDirectories :: .gap :: ".java".toList.map .literal⟩

theorem sourcePattern_of_glob (h : c.sourceGlob = "**/*.java") :
    c.sourcePattern = .ok javaPattern := by
  refine Config.sourcePattern_eq_ok_iff.mpr ⟨?_, by decide +kernel⟩
  rw [h]
  rfl

/-- Names that lead from the source directory down to a file, the last of which ends in `.java`. -/
def IsJavaSource (c : Config) (ws : Workspace) (names : List String) : Prop :=
  ∃ root name, ws.find true c.sourceRoot = .ok (root, .directory) ∧
    ws.FileAt root c.sourceRoot names ∧ names.getLast? = some name ∧
      Text.encode ".java" <:+ Octets.toBytes name

/-- Names that lead from the source directory down to a directory; without names it is the source
directory itself. -/
def IsSourceDirectory (c : Config) (ws : Workspace) (names : List String) : Prop :=
  ∃ root, ws.find true c.sourceRoot = .ok (root, .directory) ∧ ws.tree.IsDirectory (root ++ names)

theorem isSource_iff : IsSource c javaPattern ws names ↔ IsJavaSource c ws names := by
  have hending : ∀ name, names.getLast? = some name →
      (javaPattern.accepts (Octets.toBytes ("/".intercalate names)) = true ↔
        Text.encode ".java" <:+ Octets.toBytes name) := by
    intro name hlast
    rw [javaPattern, Glob.accepts_ending_iff]
    exact suffix_intercalate_iff (by decide +kernel) hlast
  constructor
  · rintro ⟨root, hroot, hat, haccepts⟩
    have hlast := List.getLast?_eq_some_getLast hat.ne_nil
    exact ⟨root, _, hroot, hat, hlast, (hending _ hlast).mp haccepts⟩
  · rintro ⟨root, name, hroot, hat, hlast, hjava⟩
    exact ⟨root, hroot, hat, (hending name hlast).mpr hjava⟩

/-- No directory is at the end of the way to a file. -/
theorem descend_ne_of_directory {names' : List String} (hdir : IsSourceDirectory c ws names)
    (hjava : IsJavaSource c ws names') :
    c.sourceRoot.descend names ≠ c.sourceRoot.descend names' := by
  obtain ⟨root, hroot, hdir⟩ := hdir
  obtain ⟨root', -, hroot', hat, -, -⟩ := hjava
  cases hroot.symm.trans hroot'
  intro heq
  have hnames : ∀ name ∈ names, IsName name := fun name hname =>
    isName_of_mem hdir (List.mem_append_right _ hname)
  have hsame := Path.eq_of_components_descend hnames hat.isName (congrArg Path.components heq)
  subst hsame
  rcases hat.entry with ⟨contents, he⟩ | ⟨⟨target, he⟩, -⟩
  · cases hdir.symm.trans he
  · cases hdir.symm.trans he

/-! ### Stopped walks -/

theorem matching_of_unlisted {pattern : Glob.Pattern} {p : Path} {fault : Fault}
    (hroot : ws.find true c.sourceRoot = .ok (root, .directory))
    (h : ws.unlisted? root c.sourceRoot = some (p, fault)) :
    matching c pattern ws = .error (.unreadableSources p fault) := by
  unfold matching
  rw [hroot]
  dsimp only
  rw [h]

/-- When the path to some directory is too long, the search fails at such a directory. -/
theorem sources_of_long {pattern : Glob.Pattern} (hpattern : c.sourcePattern = .ok pattern)
    (hdir : IsSourceDirectory c ws names)
    (hlong : longestPath < (c.sourceRoot.descend names).size) :
    ∃ names, IsSourceDirectory c ws names ∧ longestPath < (c.sourceRoot.descend names).size ∧
      sources c ws =
        .error (.error (.unreadableSources (c.sourceRoot.descend names) .nameTooLong)) := by
  obtain ⟨root, hroot, hdir⟩ := hdir
  obtain ⟨deep, hdeep, hdeeplong, hstop⟩ := Workspace.unlisted?_of_long hroot hdir hlong
  exact ⟨deep, ⟨root, hroot, hdeep⟩, hdeeplong,
    sources_of_matching_error hpattern (matching_of_unlisted hroot hstop)⟩

theorem readable_of_short
    (h : ∀ names, IsSourceDirectory c ws names → (c.sourceRoot.descend names).size ≤ longestPath) :
    Readable c ws :=
  fun root hroot => Workspace.walkable_of_short hroot fun names hdir => h names ⟨root, hroot, hdir⟩

/-! ### All of them -/

/-- With the default pattern the sources are exactly the files, at any depth, whose names end in
`.java`: none of the directories is among them, whatever it is called, and without any such file
there are no sources. Only a directory whose path is too long makes the search fail otherwise. -/
theorem javaSources_exact {c : Config} (hglob : c.sourceGlob = "**/*.java") (ws : Workspace) :
    ((∃ names, IsSourceDirectory c ws names ∧ longestPath < (c.sourceRoot.descend names).size) →
      ∃ names, IsSourceDirectory c ws names ∧ longestPath < (c.sourceRoot.descend names).size ∧
        sources c ws =
        .error (.error (.unreadableSources (c.sourceRoot.descend names) .nameTooLong))) ∧
    ((∀ names, IsSourceDirectory c ws names → (c.sourceRoot.descend names).size ≤ longestPath) →
      (sources c ws = .error (.error (.noSources c.sourceRoot c.sourceGlob)) ↔
        ∀ names, ¬ IsJavaSource c ws names) ∧
      ((∃ names, IsJavaSource c ws names) →
        ∃ found, sources c ws = .ok found ∧ found.Nodup ∧
          (∀ p, p ∈ found ↔ ∃ names, IsJavaSource c ws names ∧ p = c.sourceRoot.descend names) ∧
          ∀ names, IsSourceDirectory c ws names → c.sourceRoot.descend names ∉ found)) := by
  have hpattern := sourcePattern_of_glob hglob
  constructor
  · rintro ⟨names, hdir, hlong⟩
    exact sources_of_long hpattern hdir hlong
  · intro hshort
    have hread := readable_of_short hshort
    have hsome : (∃ names, IsJavaSource c ws names) →
        ∃ found, sources c ws = .ok found ∧ Collected c javaPattern ws found := by
      rintro ⟨names, hjava⟩
      exact sources_of_source hpattern hread (isSource_iff.mpr hjava)
    refine ⟨⟨fun hnone names hjava => ?_, fun hnone => ?_⟩, fun hjava => ?_⟩
    · obtain ⟨found, hfound, -⟩ := hsome ⟨names, hjava⟩
      rw [hfound] at hnone
      cases hnone
    · exact sources_of_sourceless hpattern hread fun names h => hnone names (isSource_iff.mp h)
    · obtain ⟨found, hfound, hcollected⟩ := hsome hjava
      have hmem : ∀ p, p ∈ found ↔
          ∃ names, IsJavaSource c ws names ∧ p = c.sourceRoot.descend names := by
        intro p
        rw [hcollected.mem_iff]
        exact exists_congr fun names => and_congr_left fun _ => isSource_iff
      refine ⟨found, hfound, hcollected.nodup, hmem, fun names hdir hthere => ?_⟩
      obtain ⟨names', hjava', hsame⟩ := (hmem _).mp hthere
      exact descend_ne_of_directory hdir hjava' hsame

/-! ### Unusual names -/

/-- Files and links with unusual names, and a directory that is called like a file. -/
def unusualNames : Workspace where
  tree :=
    { entries :=
        [(["src"], .directory), (["src", ".java"], .file []), (["src", ".A.java"], .file []),
          (["src", "A\nB.java"], .file []), (["src", "[A]*?\x7bB,C\x7d.java"], .file []),
          (["src", "A.b.java"], .file []), (["src", "p.java"], .directory),
          (["src", "p.java", "Q.java"], .file []), (["src", "l.java"], .link ⟨"p.java/Q.java"⟩),
          (["src", "d.java"], .link ⟨"p.java"⟩), (["src", "A.javac"], .file []),
          (["src", "A.JAVA"], .file [])]
      distinct := by decide
      rooted := by decide
      parented := by decide
      named := by decide }
  here := []

theorem unusualNames_sources :
    ({} : Config).sourceGlob = "**/*.java" ∧
    (∀ names, IsSourceDirectory {} unusualNames names →
      (({} : Config).sourceRoot.descend names).size ≤ longestPath) ∧
    (∃ names, IsJavaSource {} unusualNames names) ∧
    ∃ found, sources {} unusualNames = .ok found ∧
      (∀ names ∈ [[".java"], [".A.java"], ["A\nB.java"], ["[A]*?\x7bB,C\x7d.java"], ["A.b.java"],
          ["p.java", "Q.java"], ["l.java"]],
        ({} : Config).sourceRoot.descend names ∈ found) ∧
      ({} : Config).sourceRoot.descend ["p.java"] ∉ found := by
  have hroot : unusualNames.find true ({} : Config).sourceRoot = .ok (["src"], .directory) :=
    eq_ok_of_toOption (by decide +kernel)
  have hshort : ∀ names, IsSourceDirectory {} unusualNames names →
      (({} : Config).sourceRoot.descend names).size ≤ longestPath := by
    rintro names ⟨root, hroot', hdir⟩
    cases hroot.symm.trans hroot'
    have hentry := (get?_eq_some_iff (by simp)).mp hdir
    have hall : ∀ entry ∈ unusualNames.tree.entries, entry.2 = .directory →
        (({} : Config).sourceRoot.descend (entry.1.drop 1)).size ≤ longestPath := by
      decide +kernel
    exact hall _ hentry rfl
  have hjava : ∀ names ∈ [[".java"], [".A.java"], ["A\nB.java"], ["[A]*?\x7bB,C\x7d.java"],
      ["A.b.java"], ["p.java", "Q.java"], ["l.java"]], IsJavaSource {} unusualNames names := by
    have hentry : ∀ names name, names.getLast? = some name →
        Text.encode ".java" <:+ Octets.toBytes name →
        unusualNames.IsFileEntry (["src"] ++ names) (({} : Config).sourceRoot.descend names) →
        IsJavaSource {} unusualNames names := by
      intro names name hlast hjava h
      have hne : names ≠ [] := by
        rintro rfl
        cases hlast
      exact ⟨_, name, hroot, Workspace.fileAt_of_entry hne h, hlast, hjava⟩
    simp only [List.forall_mem_cons]
    refine ⟨?_, ?_, ?_, ?_, ?_, ?_, ?_, by simp⟩
    · exact hentry _ _ rfl (by decide +kernel) (.inl ⟨[], by decide +kernel⟩)
    · exact hentry _ _ rfl (by decide +kernel) (.inl ⟨[], by decide +kernel⟩)
    · exact hentry _ _ rfl (by decide +kernel) (.inl ⟨[], by decide +kernel⟩)
    · exact hentry _ _ rfl (by decide +kernel) (.inl ⟨[], by decide +kernel⟩)
    · exact hentry _ _ rfl (by decide +kernel) (.inl ⟨[], by decide +kernel⟩)
    · exact hentry _ _ rfl (by decide +kernel) (.inl ⟨[], by decide +kernel⟩)
    · have hlink : unusualNames.tree.get? ["src", "l.java"] = some (.link ⟨"p.java/Q.java"⟩) := by
        decide +kernel
      exact hentry _ _ rfl (by decide +kernel) (.inr ⟨⟨_, hlink⟩, by decide +kernel⟩)
  have hglob : ({} : Config).sourceGlob = "**/*.java" := rfl
  obtain ⟨-, hsome⟩ := javaSources_exact hglob unusualNames
  obtain ⟨-, hexact⟩ := hsome hshort
  have hfirst : IsJavaSource {} unusualNames [".java"] := hjava _ (by simp)
  obtain ⟨found, hfound, -, hmem, hdirectory⟩ := hexact ⟨_, hfirst⟩
  refine ⟨hglob, hshort, ⟨_, hfirst⟩, found, hfound, fun names hnames => ?_, ?_⟩
  · exact (hmem _).mpr ⟨names, hjava names hnames, rfl⟩
  · exact hdirectory _ ⟨_, hroot, by decide +kernel⟩

/-! ### No sources at all -/

/-- The working directory, spelled with this many separators at the end. -/
def spread (n : Nat) : Path :=
  ⟨String.ofList ('.' :: List.replicate n '/')⟩

theorem size_spread (n : Nat) : (spread n).size = n + 1 := by
  rw [Path.size, spread, String.length_ofList, List.length_cons, List.length_replicate]

theorem names_spread (n : Nat) : (spread n).names = ["."] := by
  have hchars : (spread n).chars = ['.'] ++ List.replicate n '/' := by simp [spread, Path.chars]
  rw [Path.names_eq, hchars, Path.namesIn_segments_replicate]
  rfl

theorem endsInSeparator_spread {n : Nat} (h : 0 < n) : (spread n).endsInSeparator = true := by
  obtain ⟨m, rfl⟩ := Nat.exists_eq_succ_of_ne_zero (Nat.ne_of_gt h)
  have hchars : (spread (m + 1)).chars = ('.' :: List.replicate m '/') ++ ['/'] := by
    rw [List.cons_append, ← List.replicate_succ']
    exact String.toList_ofList
  rw [Path.endsInSeparator, hchars, List.getLast?_concat]
  rfl

/-- However many separators it is spelled with, it leads to the working directory. -/
theorem find_spread {n : Nat} (h : n < longestPath) (hhere : ws.tree.IsDirectory ws.here) :
    ws.find true (spread n) = .ok (ws.here, .directory) := by
  have hchars : (spread n).chars = '.' :: List.replicate n '/' := by simp [spread, Path.chars]
  have husable : (spread n).Usable := by
    refine ⟨by simp [hchars], by simp [spread], ?_⟩
    have hsize := size_spread n
    unfold Path.size at hsize
    omega
  have hstart : start ws.here (spread n) = ws.here := by
    simp [start, Path.isAbsolute, hchars]
  refine Workspace.find_eq_ok_iff.mpr ⟨⟨husable, ?_⟩, hhere⟩
  obtain ⟨stay, hsteps, rfl | rfl⟩ := (spread n).steps_eq
  · rw [hstart, hsteps, names_spread, List.append_nil, follow_current hhere, follow_nil]
  · rw [hstart, hsteps, names_spread, List.singleton_append, follow_current hhere,
      follow_current hhere, follow_nil]

/-- A source directory with nothing in it. -/
def bareSources : Workspace where
  tree :=
    { entries := [(["src"], .directory)]
      distinct := by decide
      rooted := by decide
      parented := by decide
      named := by decide }
  here := []

/-- A file and a directory in the source directory. -/
def shallowSources : Workspace where
  tree :=
    { entries :=
        [(["src"], .directory), (["src", "A.java"], .file []), (["src", "p"], .directory)]
      distinct := by decide
      rooted := by decide
      parented := by decide
      named := by decide }
  here := []

/-- When the path to the source directory is as long as it can be, a file in it is not found
because of the directory next to it. -/
theorem shallowSources_of_spread {n : Nat} (h : n + 4 = longestPath) :
    IsJavaSource { root := spread n } shallowSources ["A.java"] ∧
      ∃ e, sources { root := spread n } shallowSources = .error e := by
  let c : Config := { root := spread n }
  have hwork : shallowSources.find true (spread n) = .ok ([], .directory) :=
    find_spread (by omega) rfl
  have hwritten := Workspace.written_of_find hwork
  have hsrc : IsName "src" := by decide
  have hsize : c.sourceRoot.size = longestPath := by
    have hjoin : c.sourceRoot.size = (spread n).withSeparator.size + 3 := hwritten.size_join hsrc
    have hpos : 0 < n := by
      unfold longestPath at h
      omega
    rw [hjoin, Path.withSeparator_of_endsInSeparator (endsInSeparator_spread hpos), size_spread]
    omega
  have hroot : shallowSources.find true c.sourceRoot = .ok (["src"], .directory) := by
    have husable := (hwritten.join hsrc).usable (Nat.le_of_eq hsize)
    exact Workspace.find_entry hwork husable (by decide +kernel) (by simp)
  constructor
  · have hentry : shallowSources.IsFileEntry (["src"] ++ ["A.java"])
        (c.sourceRoot.descend ["A.java"]) := .inl ⟨[], by decide +kernel⟩
    exact ⟨_, "A.java", hroot, Workspace.fileAt_of_entry (by simp) hentry, rfl,
      by decide +kernel⟩
  · have hp : IsName "p" := by decide
    have hdir : IsSourceDirectory c shallowSources ["p"] := ⟨_, hroot, by decide +kernel⟩
    have hlong : longestPath < (c.sourceRoot.descend ["p"]).size := by
      have hjoin : (c.sourceRoot.join ⟨"p"⟩).size =
          c.sourceRoot.withSeparator.size + "p".length :=
        (Workspace.written_of_find hroot).size_join hp
      have hone : "p".length = 1 := by decide
      have hdescend : c.sourceRoot.descend ["p"] = c.sourceRoot.join ⟨"p"⟩ := rfl
      have hwith := c.sourceRoot.size_le_size_withSeparator
      rw [hdescend]
      omega
    obtain ⟨deep, -, -, hstop⟩ := sources_of_long (sourcePattern_of_glob rfl) hdir hlong
    exact ⟨_, hstop⟩

theorem bareSources_sourceless :
    (∀ names, ¬ IsJavaSource {} bareSources names) ∧ ∃ e, sources {} bareSources = .error e := by
  refine ⟨?_, exists_error_of_toOption (by decide +kernel)⟩
  rintro names ⟨root, name, hroot, hat, -⟩
  have hsrc : bareSources.find true ({} : Config).sourceRoot = .ok (["src"], .directory) :=
    eq_ok_of_toOption (by decide +kernel)
  cases hsrc.symm.trans hroot
  obtain ⟨e, he⟩ := hat.entry.exists_entry
  have hmem := (get?_eq_some_iff (by simp)).mp he
  exact hat.ne_nil (by simpa [bareSources] using congrArg Prod.fst (List.mem_singleton.mp hmem))

/-- Neither a source directory in which some directory has too long a path nor one without any such
file gives a list of these files. -/
theorem javaSources_unlisted :
    let c : Config := { root := spread 4091 }
    (IsJavaSource c shallowSources ["A.java"] ∧
      ¬ ∃ found, sources c shallowSources = .ok found ∧ ∀ p, p ∈ found ↔
        ∃ names, IsJavaSource c shallowSources names ∧ p = c.sourceRoot.descend names) ∧
      (∀ names, ¬ IsJavaSource {} bareSources names) ∧
      ¬ ∃ found, sources {} bareSources = .ok found ∧ ∀ p, p ∈ found ↔ ∃ names,
        IsJavaSource {} bareSources names ∧ p = ({} : Config).sourceRoot.descend names := by
  obtain ⟨hjava, e, hstop⟩ := shallowSources_of_spread (n := 4091) rfl
  obtain ⟨hbare, e', hnone⟩ := bareSources_sourceless
  refine ⟨⟨hjava, ?_⟩, hbare, ?_⟩
  · rintro ⟨found, hfound, -⟩
    cases hstop.symm.trans hfound
  · rintro ⟨found, hfound, -⟩
    cases hnone.symm.trans hfound

end GoldenSuite.Build
