import GoldenSuite.CommandLine.Help
import GoldenSuite.CommandLine.Reading
import GoldenSuite.Config.Reading
import GoldenSuite.Journal.Filter
import GoldenSuite.Suite.Run

/-!
# Running a command line

A command line is read, the configuration is found and changed as the options say, and the
suite is run with child processes and a console. The exit code is that of the summary, or that
of the diagnostic that ended the run before it. A command line with an argument that is no text
is not read at all: the program panics.
-/

namespace GoldenSuite.CommandLine

/-- What a command line is run with. -/
structure Request where
  /-- The arguments as the system hands them over, which need not be texts. -/
  arguments : List Bytes
  workspace : Workspace
  /-- The directory that the command line is run in, or why the system cannot tell it. -/
  workingDir : Except Fault Path
  /-- The wish for notes that the environment expresses. -/
  logging : Option String
  /-- Whether the output goes to a terminal. -/
  terminal : Bool
  /-- What the reader of the arguments adds below the wording of a usage error: a tip, how the
  program is called, where help is found. -/
  hint : UsageError → String := fun _ => ""

/-- What is read of a command line. -/
def Request.read (request : Request) : Except (Halt Stop) Options :=
  match request.arguments.mapM Text.decode? with
  | some arguments => (CommandLine.read arguments).mapError Halt.error
  | none => .error .panic

/-- What comes of a command line. -/
structure Response where
  code : Nat
  output : String
  /-- What ended the run before its summary; a panic leaves no diagnostic. -/
  diagnostic : Option Diagnostic
  /-- The notes that are shown. -/
  notes : List Note
  workspace : Workspace

namespace Response

/-- The lines about what ended the run. -/
def errorLines (r : Response) : List String :=
  match r.diagnostic with
  | some d => [d.line, d.exitLine]
  | none => []

end Response

/-! ### The configuration -/

/-- The file that the configuration is read from, when there is one: the one that is named, or
else the usual one in the working directory when it is there. -/
def configFile? (ws : Workspace) (workingDir : Path) (named : Option Path) : Option Path :=
  match named with
  | some path => some (workingDir.join path)
  | none =>
    let usual := workingDir.join Config.defaultFile
    if ws.isFile usual then some usual else none

/-- The configuration before the options are applied. -/
def baseConfig (ws : Workspace) (workingDir : Path) (options : Options) :
    Except ConfigError Config :=
  match configFile? ws workingDir options.config with
  | some path => Config.ofFile ws path
  | none => .ok {}

/-- The note on where the configuration comes from. -/
def loadingRemark (ws : Workspace) (workingDir : Path) (options : Options) : Note :=
  match configFile? ws workingDir options.config with
  | some path =>
    Part.settings.info ["path"] s!"loading harness configuration: {path.shown}"
  | none => Part.settings.debug [] "no configuration file found, using defaults"

/-- The configuration that is run. -/
def effectiveConfig (ws : Workspace) (workingDir : Path) (options : Options) :
    Except ConfigError Config := do
  let base ← baseConfig ws workingDir options
  pure ((options.apply base).resolveRoot workingDir)

/-! ### The run -/

/-- Which notes are shown: the environment goes before the options when what it says can be
read. -/
def noteFilter (request : Request) (options : Options) : Journal.Filter :=
  (request.logging.bind Journal.Filter.ofText?).getD
    (.ofThreshold (.ofRequests options.verbosity))

/-- Ends before anything was printed. -/
def refuse (request : Request) (h : Halt Diagnostic) (notes : List Note) : Response :=
  ⟨h.exitCode, "", h.diagnostic?, notes, request.workspace⟩

/-- Ends with a text that was asked for. -/
def answer (request : Request) (text : String) : Response :=
  ⟨0, text, none, [], request.workspace⟩

/-- A usage error with what is added to its wording, up to its last letter. -/
def Request.usageDiagnostic (request : Request) (e : UsageError) : Diagnostic :=
  ⟨.input, "INPUT.CLI_USAGE",
    String.ofList (Text.trimEnd (e.message ++ request.hint e).toList)⟩

/-- Runs the suite of a configuration. -/
def runSuite (launcher : Child.Launcher) (request : Request) (options : Options) (c : Config) :
    Except (Halt Diagnostic) Summary × Suite.State (List Child.Command) (Console String) :=
  let colors := (options.color.getD .auto).enabled request.terminal
  let reporter := Console.reporter .collecting colors
  let start : Suite.State (List Child.Command) (Console String) :=
    { workspace := request.workspace, tools := [], audience := { sink := "" } }
  match (Suite.run (.external launcher) reporter c).run start with
  | .ok summary left => (.ok summary, left)
  | .error h left => (.error h, left)

/-- What is said when the system cannot tell the working directory. -/
def workingDirDiagnostic (fault : Fault) : Diagnostic :=
  ⟨.system, "IO.CLI", s!"failed to read current working directory: {fault.message}"⟩

/-- Runs with options in a working directory. -/
def runIn (launcher : Child.Launcher) (request : Request) (workingDir : Path)
    (options : Options) : Response :=
  let shown := (noteFilter request options).shown
  let loading := loadingRemark request.workspace workingDir options
  match effectiveConfig request.workspace workingDir options with
  | .error e => refuse request e.diagnostic (shown [loading])
  | .ok c =>
    let resolved :=
      Part.commandLine.debug ["root"] s!"resolved harness configuration: {c.root.shown}"
    let (result, left) := runSuite launcher request options c
    let notes := shown ([loading, resolved] ++ left.notes)
    match result with
    | .ok summary => ⟨summary.exitCode, left.audience.sink, none, notes, left.workspace⟩
    | .error h => ⟨h.exitCode, left.audience.sink, h.diagnostic?, notes, left.workspace⟩

/-- Runs with options. -/
def runOptions (launcher : Child.Launcher) (request : Request) (options : Options) : Response :=
  match request.workingDir with
  | .error fault => refuse request (workingDirDiagnostic fault) []
  | .ok workingDir => runIn launcher request workingDir options

/-- Runs a command line. -/
def run (launcher : Child.Launcher) (request : Request) : Response :=
  match request.read with
  | .error (.error .help) => answer request helpText
  | .error (.error .version) => answer request versionText
  | .error (.error (.usage e)) => refuse request (request.usageDiagnostic e) []
  | .error .panic => refuse request .panic []
  | .ok options => runOptions launcher request options

end GoldenSuite.CommandLine
