import GoldenSuite.Proofs.CommandLine.Channels
import GoldenSuite.Proofs.Config.Acceptance

/-!
# Where the values of a configuration come from

The value of a field is the one that the options give, or else the one that the configuration file
gives, or else the default, and in the end the root is seen from the working directory. A file that
is named has to be read; the usual one counts only when it is a regular file.
-/

namespace GoldenSuite

open Json

/-! ### What the file gives -/

namespace Config

/-- A file gives these assignments, and no file gives none. -/
inductive FileGives (ws : Workspace) : Option Path → List Assignment → Prop
  | nothing : FileGives ws none []
  | contents {path : Path} {text : String} {members : List Assignment} :
      ws.readText path = .ok text → Document Given text members →
      FileGives ws (some path) members

theorem nodup_of_document {text : String} {members : List Assignment}
    (h : Document Given text members) : (members.map Assignment.field).Nodup := by
  rcases document_given_iff.mp h with ⟨hnodup, -⟩ | ⟨hfields, -⟩
  · exact hnodup
  · exact nodup_of_leading hfields

theorem FileGives.nodup {ws : Workspace} {file : Option Path} {members : List Assignment}
    (h : FileGives ws file members) : (members.map Assignment.field).Nodup := by
  cases h with
  | nothing => exact List.nodup_nil
  | contents _ hdocument => exact nodup_of_document hdocument

theorem ofSource_eq (source : Path) (text : String) :
    ofSource source text = match readWhole (Cursor.ofText text) with
      | .ok (c, _) => .ok c
      | .error problem => .error (.malformed source problem) := rfl

theorem ofSource_eq_ok_iff {source : Path} {text : String} {c : Config} :
    ofSource source text = .ok c ↔ ofText text = .ok c := by
  rw [ofSource_eq, ofText_eq]
  cases readWhole (Cursor.ofText text) <;> simp

/-- Whatever a text comes from, it is malformed in the same way. -/
theorem ofSource_eq_error_iff {source : Path} {text : String} {e : ConfigError} :
    ofSource source text = .error e ↔ ∃ problem, e = .malformed source problem ∧
      ofText text = .error (.malformed inlineSource problem) := by
  rw [ofSource_eq, ofText_eq]
  cases readWhole (Cursor.ofText text) with
  | ok answer => simp
  | error problem => simp [eq_comm]

theorem ofFile_of_readText {ws : Workspace} {path : Path} {text : String}
    (h : ws.readText path = .ok text) : ofFile ws path = ofSource path text := by
  simp only [ofFile, h]

theorem ofFile_of_unreadable {ws : Workspace} {path : Path} {fault : Fault}
    (h : ws.readText path = .error fault) : ofFile ws path = .error (.unreadable path fault) := by
  simp only [ofFile, h]

theorem ofFile_eq_ok_iff {ws : Workspace} {path : Path} {c : Config} :
    ofFile ws path = .ok c ↔ ∃ members, FileGives ws (some path) members ∧ Gives members c := by
  cases hread : ws.readText path with
  | error fault =>
    rw [ofFile_of_unreadable hread]
    refine iff_of_false nofun ?_
    rintro ⟨members, hfile, -⟩
    cases hfile with
    | contents hcontents _ =>
      rw [hread] at hcontents
      cases hcontents
  | ok text =>
    rw [ofFile_of_readText hread, ofSource_eq_ok_iff, ofText_eq_ok_iff]
    constructor
    · rintro ⟨members, rfl, hdocument⟩
      exact ⟨members, .contents hread hdocument, gives_assign (nodup_of_document hdocument)⟩
    · rintro ⟨members, hfile, hgives⟩
      cases hfile with
      | contents hcontents hdocument =>
        obtain rfl := Except.ok.inj (hread.symm.trans hcontents)
        exact ⟨members, eq_assign_of_gives hgives (nodup_of_document hdocument), hdocument⟩

theorem gives_nil_iff {c : Config} : Gives [] c ↔ c = {} := by
  constructor
  · intro h
    exact eq_of_valueOf fun field => h.others field (by simp)
  · rintro rfl
    exact ⟨by simp, fun _ _ => rfl⟩

/-! ### Fields in the end -/

/-- The value of a field, seen from a working directory when it is the root. -/
def anchored (workingDir : Path) : (field : Field) → field.kind.Carrier → field.kind.Carrier
  | .root, root => workingDir.join root
  | .sourceDir, value | .sourceGlob, value | .buildDir, value | .testsDir, value
  | .caseInputDir, value | .caseOutputDir, value | .caseExpectedDir, value
  | .logArtifact, value | .resultArtifact, value | .compiler, value | .compilerArgs, value
  | .outputFlag, value | .runtime, value | .classpathFlag, value | .entryPoint, value
  | .simulatorArgs, value | .buildTimeoutSecs, value | .testTimeoutSecs, value
  | .logPolicy, value | .cleanOutputs, value => value

theorem valueOf_resolveRoot (c : Config) (workingDir : Path) (field : Field) :
    (c.resolveRoot workingDir).valueOf field = anchored workingDir field (c.valueOf field) := by
  cases field <;> rfl

end Config

namespace CommandLine

/-! ### What the options give -/

/-- The value that the options give for a field. There are no options for nine of the fields, the
two switches can give one value each, and no arguments are not a list of arguments. -/
def Options.flag? (o : Options) : (field : Config.Field) → Option field.kind.Carrier
  | .root => o.root
  | .sourceDir => o.sourceDir
  | .buildDir => o.buildDir
  | .testsDir => o.testsDir
  | .compiler => o.compiler
  | .runtime => o.runtime
  | .entryPoint => o.entryPoint
  | .simulatorArgs => if o.simArgs = [] then none else some o.simArgs
  | .buildTimeoutSecs => o.buildTimeout
  | .testTimeoutSecs => o.testTimeout
  | .logPolicy => if o.strictLogs then some LogPolicy.strict else none
  | .cleanOutputs => if o.clean then some true else none
  | .sourceGlob | .caseInputDir | .caseOutputDir | .caseExpectedDir => none
  | .logArtifact | .resultArtifact | .compilerArgs | .outputFlag | .classpathFlag => none

theorem valueOf_apply (o : Options) (c : Config) (field : Config.Field) :
    (o.apply c).valueOf field = (o.flag? field).getD (c.valueOf field) := by
  cases field with
  | simulatorArgs =>
    simp only [Config.valueOf, Options.apply, Options.flag?]
    cases o.simArgs <;> rfl
  | logPolicy =>
    simp only [Config.valueOf, Options.apply, Options.flag?]
    cases o.strictLogs <;> rfl
  | cleanOutputs =>
    simp only [Config.valueOf, Options.apply, Options.flag?]
    cases o.clean <;> rfl
  | _ => rfl

/-! ### The configuration that is run -/

variable {ws : Workspace} {workingDir : Path} {options : Options}

theorem isFile_iff {p : Path} :
    ws.isFile p = true ↔ ∃ loc contents, ws.find true p = .ok (loc, .file contents) := by
  unfold Workspace.isFile
  split
  · next hfind => simp [hfind]
  · next hnot =>
    simp only [Bool.false_eq_true, false_iff, not_exists]
    exact hnot

theorem configFile?_of_named {path : Path} (h : options.config = some path) :
    configFile? ws workingDir options.config = some (workingDir.join path) := by
  rw [h]
  rfl

theorem configFile?_of_unnamed (h : options.config = none) {path : Path} :
    configFile? ws workingDir options.config = some path ↔
      path = workingDir.join Config.defaultFile ∧
        ∃ loc contents, ws.find true path = .ok (loc, .file contents) := by
  rw [h]
  simp only [configFile?, ← isFile_iff]
  by_cases hfile : ws.isFile (workingDir.join Config.defaultFile) = true
  · simp only [hfile, if_true, Option.some.injEq]
    constructor
    · rintro rfl
      exact ⟨rfl, hfile⟩
    · rintro ⟨rfl, -⟩
      rfl
  · simp only [hfile, Bool.false_eq_true, if_false, reduceCtorEq, false_iff, not_and]
    rintro rfl
    exact hfile

theorem baseConfig_eq_ok_iff {base : Config} :
    baseConfig ws workingDir options = .ok base ↔ ∃ members,
      Config.FileGives ws (configFile? ws workingDir options.config) members ∧
        Config.Gives members base := by
  unfold baseConfig
  cases configFile? ws workingDir options.config with
  | some path => exact Config.ofFile_eq_ok_iff
  | none =>
    constructor
    · intro h
      obtain rfl : {} = base := Except.ok.inj h
      exact ⟨[], .nothing, Config.gives_nil_iff.mpr rfl⟩
    · rintro ⟨members, ⟨⟩, hgives⟩
      rw [Config.gives_nil_iff.mp hgives]

theorem effectiveConfig_of_base {base : Config}
    (h : baseConfig ws workingDir options = .ok base) :
    effectiveConfig ws workingDir options = .ok ((options.apply base).resolveRoot workingDir) := by
  rw [effectiveConfig, h]
  rfl

theorem effectiveConfig_of_error {e : ConfigError}
    (h : baseConfig ws workingDir options = .error e) :
    effectiveConfig ws workingDir options = .error e := by
  rw [effectiveConfig, h]
  rfl

theorem effectiveConfig_eq_ok_iff {c : Config} :
    effectiveConfig ws workingDir options = .ok c ↔ ∃ members base,
      Config.FileGives ws (configFile? ws workingDir options.config) members ∧
        Config.Gives members base ∧ ∀ field, c.valueOf field =
          Config.anchored workingDir field ((options.flag? field).getD (base.valueOf field)) := by
  constructor
  · intro h
    cases hbase : baseConfig ws workingDir options with
    | error e =>
      rw [effectiveConfig_of_error hbase] at h
      cases h
    | ok base =>
      rw [effectiveConfig_of_base hbase] at h
      obtain rfl := Except.ok.inj h
      obtain ⟨members, hfile, hgives⟩ := baseConfig_eq_ok_iff.mp hbase
      refine ⟨members, base, hfile, hgives, fun field => ?_⟩
      rw [Config.valueOf_resolveRoot, valueOf_apply]
  · rintro ⟨members, base, hfile, hgives, hvalues⟩
    rw [effectiveConfig_of_base (baseConfig_eq_ok_iff.mpr ⟨members, hfile, hgives⟩)]
    refine congrArg Except.ok (Config.eq_of_valueOf fun field => ?_)
    rw [Config.valueOf_resolveRoot, valueOf_apply, hvalues]

theorem effectiveConfig_of_file_error {path : Path} {e : ConfigError}
    (hfile : configFile? ws workingDir options.config = some path)
    (he : Config.ofFile ws path = .error e) :
    effectiveConfig ws workingDir options = .error e := by
  refine effectiveConfig_of_error ?_
  unfold baseConfig
  rw [hfile]
  exact he

section
variable {request : Request} (hread : request.read = .ok options)
  (hdir : request.workingDir = .ok workingDir)

include hread hdir

theorem reaches_iff {c : Config} : Reaches request options c ↔
    effectiveConfig request.workspace workingDir options = .ok c := by
  constructor
  · rintro ⟨-, other, hother, hconfig⟩
    obtain rfl := Except.ok.inj (hdir.symm.trans hother)
    exact hconfig
  · exact fun hconfig => ⟨hread, workingDir, hdir, hconfig⟩

/-- A file that does not give a configuration ends the command line. -/
theorem ends_of_file_error {path : Path} {e : ConfigError}
    (hfile : configFile? request.workspace workingDir options.config = some path)
    (he : Config.ofFile request.workspace path = .error e) :
    (∀ c, ¬ Reaches request options c) ∧ ∀ launcher,
      (run launcher request).diagnostic = some e.diagnostic ∧
        (run launcher request).code = e.diagnostic.exitCode := by
  have hconfig := effectiveConfig_of_file_error hfile he
  constructor
  · intro c hreach
    rw [reaches_iff hread hdir, hconfig] at hreach
    cases hreach
  · intro launcher
    simp only [run, hread, runOptions, hdir, runIn, hconfig]
    exact ⟨rfl, rfl⟩

end

/-- The configuration that a command line runs. Its file is the one that is named, seen from the
working directory, or else the usual one when it is a regular file; a file that cannot be read or is
malformed ends the command line, and it is malformed as its text is. The value of each field is the
one that the options give, or else the one that the file gives, or else the default, and the root is
seen from the working directory. -/
theorem options_before_file_before_defaults {request : Request} {options : Options}
    {workingDir : Path} (hread : request.read = .ok options)
    (hdir : request.workingDir = .ok workingDir) :
    let ws := request.workspace
    let file := configFile? ws workingDir options.config
    (∀ path, options.config = some path → file = some (workingDir.join path)) ∧
    (options.config = none → ∀ path, file = some path ↔
      path = workingDir.join Config.defaultFile ∧
        ∃ loc contents, ws.find true path = .ok (loc, .file contents)) ∧
    (∀ path, file = some path →
      (∀ fault, ws.readText path = .error fault → (∀ c, ¬ Reaches request options c) ∧
        ∀ launcher, (run launcher request).code = 3 ∧ (run launcher request).diagnostic =
          some ⟨.system, "IO.CONFIG", s!"failed to read config '{path.shown}': {fault.message}"⟩) ∧
      ∀ text, ws.readText path = .ok text →
        (∀ c, Config.ofFile ws path = .ok c ↔ Config.ofText text = .ok c) ∧
        ∀ e, Config.ofFile ws path = .error e →
          (∃ problem, e = .malformed path problem ∧
            Config.ofText text = .error (.malformed Config.inlineSource problem)) ∧
          (∀ c, ¬ Reaches request options c) ∧
            ∀ launcher, (run launcher request).diagnostic = some e.diagnostic) ∧
    ∀ c, Reaches request options c ↔ ∃ members base, Config.FileGives ws file members ∧
      Config.Gives members base ∧ ∀ field, c.valueOf field =
        Config.anchored workingDir field ((options.flag? field).getD (base.valueOf field)) := by
  intro ws file
  refine ⟨fun path => configFile?_of_named, fun h path => configFile?_of_unnamed h, ?_, ?_⟩
  · intro path hfile
    constructor
    · intro fault hfault
      obtain ⟨hnone, hrun⟩ :=
        ends_of_file_error hread hdir hfile (Config.ofFile_of_unreadable hfault)
      exact ⟨hnone, fun launcher => ⟨(hrun launcher).2, (hrun launcher).1⟩⟩
    · intro text htext
      rw [Config.ofFile_of_readText htext]
      refine ⟨fun c => Config.ofSource_eq_ok_iff,
        fun e he => ⟨Config.ofSource_eq_error_iff.mp he, ?_⟩⟩
      obtain ⟨hnone, hrun⟩ :=
        ends_of_file_error hread hdir hfile ((Config.ofFile_of_readText htext).trans he)
      exact ⟨hnone, fun launcher => (hrun launcher).1⟩
  · intro c
    rw [reaches_iff hread hdir, effectiveConfig_eq_ok_iff]

/-! ### A file with keys and one without -/

/-- A working directory where the usual file has this text, and what is run in it. -/
def requestWith (text : String) (arguments : List String) : Request where
  arguments := arguments.map Text.encode
  workspace :=
    { tree :=
        { entries := [(["w"], .directory), (["w", "simcheck.json"], .file (Text.encode text))]
          distinct := by simp
          rooted := by simp
          parented := by simp
          named := by simp +decide }
      here := [] }
  workingDir := .ok ⟨"/w"⟩
  logging := none
  terminal := false

theorem read_requestWith {text : String} {arguments : List String} {options : Options}
    (h : CommandLine.read arguments = .ok options) :
    (requestWith text arguments).read = .ok options := by
  rw [Request.read_of_texts (Text.mapM_decode?_encode arguments), h]
  rfl

/-- Options go before the file for the root and the arguments, and the file before the defaults for
the compiler. A file that is named and missing ends the run. -/
theorem flags_override_file :
    let text := "\x7b\"root\":\"r\",\"compiler\":\"cc\",\"simulatorArgs\":[\"a\"]\x7d"
    let options : Options := { root := some ⟨"x"⟩, strictLogs := true, simArgs := ["-v", "b"] }
    Reaches (requestWith text
        ["--root", "x", "--strict-logs", "--sim-arg", "-v", "--sim-arg", "b"]) options
      { root := ⟨"/w/x"⟩, compiler := "cc", logPolicy := .strict, simulatorArgs := ["-v", "b"] } ∧
    ∀ launcher, (run launcher (requestWith text ["--config", "other.json"])).code = 3 := by
  intro text options
  constructor
  · have hread : read ["--root", "x", "--strict-logs", "--sim-arg", "-v", "--sim-arg", "b"] =
        .ok options := by
      decide +kernel
    have hfile : configFile? (requestWith text []).workspace ⟨"/w"⟩ none =
        some ⟨"/w/simcheck.json"⟩ := by
      decide +kernel
    have hbase : Config.ofFile (requestWith text []).workspace ⟨"/w/simcheck.json"⟩ =
        .ok { root := ⟨"r"⟩, compiler := "cc", simulatorArgs := ["a"] } := by
      decide +kernel
    obtain ⟨members, hgiven, hgives⟩ := Config.ofFile_eq_ok_iff.mp hbase
    have hroot : (⟨"/w/x"⟩ : Path) = (⟨"/w"⟩ : Path).join ⟨"x"⟩ := by decide +kernel
    obtain ⟨-, -, -, hreached⟩ := @options_before_file_before_defaults
      (requestWith text ["--root", "x", "--strict-logs", "--sim-arg", "-v", "--sim-arg", "b"])
      options ⟨"/w"⟩ (read_requestWith hread) rfl
    refine (hreached _).mpr ⟨members, _, hfile.symm ▸ hgiven, hgives, fun field => ?_⟩
    cases field with
    | root => exact hroot
    | _ => rfl
  · intro launcher
    have hread : read ["--config", "other.json"] = .ok { config := some ⟨"other.json"⟩ } := by
      decide +kernel
    obtain ⟨hnamed, -, hended, -⟩ := @options_before_file_before_defaults
      (requestWith text ["--config", "other.json"]) _ ⟨"/w"⟩
      (read_requestWith hread) rfl
    have hmissing : (requestWith text []).workspace.readText ⟨"/w/other.json"⟩ =
        .error .notFound := by
      decide +kernel
    exact (((hended _ (hnamed _ rfl)).1 _ hmissing).2 launcher).1

/-- A value without a key gets into the configuration: the file is a list, which has no keys at all,
and the root is not the default one. -/
theorem keyless_file_sets_root :
    let text := "[\"p\"]"
    Reaches (requestWith text []) {} { root := ⟨"/w/p"⟩ } ∧
      (requestWith text []).workspace.readText ⟨"/w/simcheck.json"⟩ = .ok text ∧
      (∀ keys, ¬ Config.AnyObject text keys) ∧
      ((⟨"/w"⟩ : Path).join ({} : Config).root).text = "/w/." := by
  intro text
  refine ⟨⟨rfl, ⟨"/w"⟩, rfl, by decide +kernel⟩, by decide +kernel, ?_, by decide +kernel⟩
  rintro keys ⟨_, ⟨_, hblanks, ⟨-⟩⟩, -⟩
  change Blanks "[\"p\"]".toList _ at hblanks
  have hbrace := hblanks.next_unique (d := '[') .none (by decide) (by decide)
  exact absurd hbrace.1 (by decide)

end CommandLine

end GoldenSuite
