import GoldenSuite.Build.Basic
import GoldenSuite.Case.Execution
import GoldenSuite.Proofs.Case.Discovered
import GoldenSuite.Proofs.Path.Names
import GoldenSuite.Proofs.Workspace.Finding

/-!
# What the compiler and the simulator are told

A configuration whose root has been seen from an absolute directory hands out absolute paths
only: the sources and the build directory that the compiler gets, and the build directory and the
input that the simulator gets. The two programs start in the same directory and are told about
the same places, whatever spellings the configuration uses for them.
-/

namespace GoldenSuite

/-! ### Absolute paths -/

namespace Path

variable {base p : Path}

theorem isAbsolute_withSeparator (h : p.isAbsolute = true) :
    p.withSeparator.isAbsolute = true := by
  obtain ⟨rest, hrest⟩ : ∃ rest, p.chars = '/' :: rest := by
    simpa [isAbsolute, List.head?_eq_some_iff] using h
  unfold withSeparator
  split
  · exact h
  · simp only [chars] at hrest
    simp [isAbsolute, chars, hrest]

/-- What is joined to an absolute path is absolute, however it is spelled. -/
theorem isAbsolute_join_of_base (h : base.isAbsolute = true) (p : Path) :
    (base.join p).isAbsolute = true := by
  by_cases hp : p.isAbsolute = true
  · rwa [join_of_isAbsolute hp]
  · rw [isAbsolute_join (by simpa using hp)]
    exact h

theorem components_withSeparator (h : p.isAbsolute = true) :
    p.withSeparator.components = p.components := by
  by_cases hend : p.endsInSeparator = true
  · rw [withSeparator_of_endsInSeparator hend]
  · have hchars : p.withSeparator.chars = p.chars ++ '/' :: [] := by
      rw [withSeparator, if_neg hend]
      simp [chars]
    have hleading : p.withSeparator.leading = p.leading := by
      rw [leading, leading, if_pos h, if_pos (isAbsolute_withSeparator h)]
    rw [components, components, hleading, hchars, segments_append_slash, List.filterMap_append]
    simp [segments, Component.ofSegment?]

/-- A path that is another one, closed by one separator at its end. -/
structure Closes (closed p : Path) : Prop where
  isAbsolute : closed.isAbsolute = true
  endsInSeparator : closed.endsInSeparator = true
  components_eq : closed.components = p.components
  eq_of_closed : p.endsInSeparator = true → closed = p
  text_eq_of_open : p.endsInSeparator = false → closed.text = p.text ++ "/"

theorem closes_withSeparator (h : p.isAbsolute = true) : p.withSeparator.Closes p where
  isAbsolute := isAbsolute_withSeparator h
  endsInSeparator := endsInSeparator_withSeparator p
  components_eq := components_withSeparator h
  eq_of_closed := withSeparator_of_endsInSeparator
  text_eq_of_open := by
    intro hopen
    simp [withSeparator, hopen]

end Path

theorem Workspace.isAbsolute_of_mem_filesBelow {ws : Workspace} {loc : Location}
    {shown : Path} {inner : List String} {file : FoundFile} (hshown : shown.isAbsolute = true)
    (h : file ∈ ws.filesBelow loc shown inner) : file.path.isAbsolute = true := by
  induction loc, shown, inner using Workspace.filesBelow.induct ws with
  | case1 loc shown inner ih =>
    rw [Workspace.filesBelow, List.mem_flatMap] at h
    obtain ⟨child, -, hfile⟩ := h
    have hchild := Path.isAbsolute_join_of_base hshown ⟨child.val⟩
    dsimp only at hfile
    split at hfile
    · next hentry => exact ih child hchild hfile
    · rw [List.mem_singleton.mp hfile]
      exact hchild
    · split at hfile
      · rw [List.mem_singleton.mp hfile]
        exact hchild
      · simp at hfile
    · simp at hfile

namespace Build

theorem sources_eq_ok {c : Config} {ws : Workspace} {found : List Path}
    (h : sources c ws = .ok found) :
    found ≠ [] ∧ ∃ pattern, c.sourcePattern = .ok pattern ∧
      matching c pattern ws = .ok found := by
  unfold sources at h
  obtain ⟨pattern, hpattern, h⟩ := exists_of_bind_eq_ok h
  obtain ⟨all, hm, h⟩ := exists_of_bind_eq_ok h
  cases all with
  | nil => cases h
  | cons first others =>
    cases h
    exact ⟨by simp, pattern, eq_ok_of_mapError hpattern, eq_ok_of_mapError hm⟩

theorem isAbsolute_of_mem_sources {c : Config} {ws : Workspace} {found : List Path}
    (hroot : c.sourceRoot.isAbsolute = true) (h : sources c ws = .ok found) {p : Path}
    (hp : p ∈ found) : p.isAbsolute = true := by
  obtain ⟨-, pattern, -, hm⟩ := sources_eq_ok h
  unfold matching at hm
  split at hm
  · next loc _ =>
    split at hm
    · cases hm
    · cases hm
      rw [List.mem_mergeSort] at hp
      obtain ⟨file, hfile, rfl⟩ := List.mem_map.mp hp
      exact Workspace.isAbsolute_of_mem_filesBelow hroot (List.mem_filter.mp hfile).1
  · cases hm

end Build

/-! ### Commands -/

namespace Child.Command

/-- A command gives its program these arguments in this directory. When one of its texts holds the
character that ends texts, a stand-in is written down for it and the command is never started. -/
structure Gives (command : Command) (program : String) (arguments : List String)
    (directory : Path) : Prop where
  arguments_eq : command.arguments = arguments.map handed
  directory_eq : command.directory = some ⟨handed directory.text⟩
  spoiled_iff : command.spoiled = true ↔
    ∃ text ∈ program :: arguments ++ [directory.text], '\x00' ∈ text.toList
  exact_of_not_spoiled : command.spoiled = false →
    command.arguments = arguments ∧ command.directory = some directory
  refused_of_spoiled : command.spoiled = true →
    ∀ launcher before ws, command.start launcher before ws = .error .nulInArgument

theorem gives_of (program : String) (arguments : List String) (directory : Path) :
    (of program arguments (some directory)).Gives program arguments directory where
  arguments_eq := rfl
  directory_eq := rfl
  spoiled_iff := by
    simp [of, holdsNul]
  exact_of_not_spoiled := by
    intro hclean
    have hall : ∀ text ∈ program :: arguments ++ [directory.text], holdsNul text = false := by
      intro text htext
      have := List.any_eq_false.mp hclean text htext
      simpa using this
    have harguments : arguments.map handed = arguments := by
      have hsame : arguments.map handed = arguments.map id := by
        refine List.map_congr_left fun text htext => ?_
        exact handed_of_not_holdsNul (hall text (by simp [htext]))
      rw [hsame, List.map_id]
    have hdirectory : handed directory.text = directory.text :=
      handed_of_not_holdsNul (hall directory.text (by simp))
    exact ⟨harguments, by simp [of, hdirectory]⟩
  refused_of_spoiled := by
    intro hspoiled launcher before ws
    simp [start, hspoiled]

end Child.Command

/-! ### Places -/

theorem Config.resolveRoot_resolveRoot {c : Config} {w : Path} (hw : w.isAbsolute = true)
    (w' : Path) : (c.resolveRoot w).resolveRoot w' = c.resolveRoot w :=
  resolveRoot_of_isAbsolute (Path.isAbsolute_join_of_base hw c.root)

/-- With its root seen from an absolute directory, a configuration tells the compiler and the
simulator about the same absolute places, in the same starting directory: the sources that were
found and the build directory, and the build directory and the input of a case, both with one
separator at their ends. Seeing the root from anywhere else changes nothing any more. -/
theorem commands_share_places (c : Config) {w : Path} (hw : w.isAbsolute = true)
    (ws : Workspace) :
    let c' := c.resolveRoot w
    c'.buildRoot.isAbsolute = true ∧
      (∀ sources, Build.sources c' ws = .ok sources →
        sources ≠ [] ∧ (∀ source ∈ sources, source.isAbsolute = true) ∧
          (Build.compilerCommand c' sources c'.buildRoot).Gives (Octets.ofText c'.compiler)
            (c'.compilerArgs.map Octets.ofText ++ sources.map (·.text) ++
              [Octets.ofText c'.outputFlag, c'.buildRoot.text])
            c'.root) ∧
      (∀ cases, Discovery.cases c' ws = .ok cases → ∀ case ∈ cases, ∃ classes input : Path,
        classes.Closes c'.buildRoot ∧ input.Closes case.input ∧
          (Execution.simulatorCommand c' case).Gives (Octets.ofText c'.runtime)
            ([Octets.ofText c'.classpathFlag, classes.text, Octets.ofText c'.entryPoint,
              input.text] ++ c'.simulatorArgs.map Octets.ofText)
            c'.root) ∧
      ∀ w', c'.resolveRoot w' = c' := by
  intro c'
  have hroot : c'.root.isAbsolute = true := Path.isAbsolute_join_of_base hw c.root
  have hbuild : c'.buildRoot.isAbsolute = true := Path.isAbsolute_join_of_base hroot _
  refine ⟨hbuild, ?_, ?_, Config.resolveRoot_resolveRoot hw⟩
  · intro sources hsources
    have hsourceRoot : c'.sourceRoot.isAbsolute = true := Path.isAbsolute_join_of_base hroot _
    refine ⟨(Build.sources_eq_ok hsources).1, fun source hsource => ?_, Child.Command.gives_of ..⟩
    exact Build.isAbsolute_of_mem_sources hsourceRoot hsources hsource
  · intro cases hcases case hcase
    obtain ⟨name, -, rfl⟩ := (Discovery.mem_cases_iff hcases).mp hcase
    have htests : c'.testsRoot.isAbsolute = true := Path.isAbsolute_join_of_base hroot _
    have hdirectory := Path.isAbsolute_join_of_base htests ⟨name⟩
    have hinput : (TestCase.named c' name).input.isAbsolute = true :=
      Path.isAbsolute_join_of_base hdirectory c'.caseInputDir
    exact ⟨_, _, Path.closes_withSeparator hbuild, Path.closes_withSeparator hinput,
      Child.Command.gives_of ..⟩

/-! ### A workspace with one source and one case -/

def smallTree : FileTree where
  entries :=
    [(["w"], .directory), (["w", "p"], .directory), (["w", "p", "A.java"], .file []),
      (["w", "p", "t"], .directory), (["w", "p", "t", "a"], .directory)]
  distinct := by decide
  rooted := by decide
  parented := by decide
  named := by decide

def smallSuite : Config :=
  { root := ⟨"p/."⟩, sourceDir := ⟨""⟩, buildDir := ⟨"../b//"⟩, testsDir := ⟨"./t"⟩,
    caseInputDir := ⟨""⟩ }

theorem smallSuite_commands :
    let c' := smallSuite.resolveRoot ⟨"/w"⟩
    Build.sources c' ⟨smallTree, []⟩ = .ok [⟨"/w/p/./A.java"⟩] ∧
      Discovery.cases c' ⟨smallTree, []⟩ = .ok [.named c' "a"] ∧
      (Build.compilerCommand c' [⟨"/w/p/./A.java"⟩] c'.buildRoot).arguments =
        ["/w/p/./A.java", "-d", "/w/p/./../b//"] ∧
      (Execution.simulatorCommand c' (.named c' "a")).arguments =
        ["-cp", "/w/p/./../b//", "Source.HDLSim", "/w/p/././t/a/"] := by
  intro c'
  have hlist : (Workspace.mk smallTree []).list c'.testsRoot = .ok (["w", "p", "t"], ["a"]) :=
    eq_ok_of_toOption (by decide +kernel)
  have hfound : Discovery.casesAmong c' ⟨smallTree, []⟩ ["a"] = .ok [.named c' "a"] :=
    eq_ok_of_toOption (by decide +kernel)
  have hcases := Discovery.cases_of_sorted hlist hfound (by simp)
  have hsources : Build.sources c' ⟨smallTree, []⟩ = .ok [⟨"/w/p/./A.java"⟩] :=
    eq_ok_of_toOption (by decide +kernel)
  obtain ⟨-, hcompiler, hsimulator, -⟩ :=
    commands_share_places smallSuite (w := ⟨"/w"⟩) (by decide) ⟨smallTree, []⟩
  obtain ⟨-, -, hgiven⟩ := hcompiler _ hsources
  obtain ⟨classes, input, hclasses, hinput, hgiven'⟩ := hsimulator _ hcases _ List.mem_cons_self
  refine ⟨hsources, hcases, ?_, ?_⟩
  · exact (hgiven.exact_of_not_spoiled (by decide +kernel)).1
  · rw [(hgiven'.exact_of_not_spoiled (by decide +kernel)).1,
      hclasses.eq_of_closed (by decide +kernel), hinput.eq_of_closed (by decide +kernel)]
    decide +kernel

/-- A build directory whose path holds the character that ends texts is handed to nobody: a
stand-in takes its place, which is no absolute path, and the simulator is not started. -/
theorem spoiled_place_not_handed :
    let c := { smallSuite with buildDir := ⟨"b\x00n"⟩ }
    let c' := c.resolveRoot ⟨"/w"⟩
    let command := Execution.simulatorCommand c' (.named c' "a")
    Discovery.cases c' ⟨smallTree, []⟩ = .ok [.named c' "a"] ∧
      command.arguments = ["-cp", "<string-with-nul>", "Source.HDLSim", "/w/p/././t/a/"] ∧
      (¬ ∃ classes input : Path, classes.isAbsolute = true ∧
        command.arguments =
          [Octets.ofText c'.classpathFlag, classes.text, Octets.ofText c'.entryPoint,
            input.text] ++ c'.simulatorArgs.map Octets.ofText) ∧
      ∀ launcher before ws, command.start launcher before ws = .error .nulInArgument := by
  intro c c' command
  have hlist : (Workspace.mk smallTree []).list c'.testsRoot = .ok (["w", "p", "t"], ["a"]) :=
    eq_ok_of_toOption (by decide +kernel)
  have hfound : Discovery.casesAmong c' ⟨smallTree, []⟩ ["a"] = .ok [.named c' "a"] :=
    eq_ok_of_toOption (by decide +kernel)
  have harguments : command.arguments =
      ["-cp", "<string-with-nul>", "Source.HDLSim", "/w/p/././t/a/"] := by
    decide +kernel
  refine ⟨Discovery.cases_of_sorted hlist hfound (by simp), harguments, ?_, ?_⟩
  · rintro ⟨classes, input, habsolute, heq⟩
    rw [harguments] at heq
    have htext : "<string-with-nul>" = classes.text := by
      simpa using congrArg (fun texts => texts.getD 1 "") heq
    have hnot : (Path.mk "<string-with-nul>").isAbsolute = false := by decide
    rw [htext] at hnot
    exact absurd habsolute (by simp [hnot])
  · intro launcher before ws
    have hspoiled : command.spoiled = true := by decide +kernel
    simp [Child.Command.start, hspoiled]

end GoldenSuite
