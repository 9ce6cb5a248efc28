import GoldenSuite.Config.Basic
import GoldenSuite.Suite.Console
import GoldenSuite.Text.Plain

/-!
# Options

The options of the command line: settings, which take a value, and switches, which do not. What
is wrong with a command line is a usage error, and each has its wording.
-/

namespace GoldenSuite.CommandLine

/-! ### Settings and switches -/

/-- An option that takes a value. -/
inductive Setting where
  | root
  | config
  | sourceDir
  | buildDir
  | testsDir
  | compiler
  | runtime
  | entryPoint
  | simArg
  | buildTimeout
  | testTimeout
  | color
deriving DecidableEq, Repr

namespace Setting

def all : List Setting :=
  [.root, .config, .sourceDir, .buildDir, .testsDir, .compiler, .runtime, .entryPoint, .simArg,
   .buildTimeout, .testTimeout, .color]

/-- The name of a setting, without the dashes. -/
def name : Setting → String
  | .root => "root"
  | .config => "config"
  | .sourceDir => "source-dir"
  | .buildDir => "build-dir"
  | .testsDir => "tests-dir"
  | .compiler => "compiler"
  | .runtime => "runtime"
  | .entryPoint => "entry-point"
  | .simArg => "sim-arg"
  | .buildTimeout => "build-timeout"
  | .testTimeout => "test-timeout"
  | .color => "color"

/-- What stands for the value of a setting in messages. -/
def placeholder : Setting → String
  | .root => "DIR"
  | .config => "FILE"
  | .sourceDir => "DIR"
  | .buildDir => "DIR"
  | .testsDir => "DIR"
  | .compiler => "PROG"
  | .runtime => "PROG"
  | .entryPoint => "SYM"
  | .simArg => "ARG"
  | .buildTimeout => "SECS"
  | .testTimeout => "SECS"
  | .color => "WHEN"

/-- A setting as it is shown in messages. -/
def shown (setting : Setting) : String :=
  s!"--{setting.name} <{setting.placeholder}>"

def ofName? (name : String) : Option Setting :=
  all.find? fun setting => setting.name == name

end Setting

/-- An option that takes no value. -/
inductive Switch where
  | strictLogs
  | clean
  | verbose
  | help
  | version
deriving DecidableEq, Repr

namespace Switch

def all : List Switch :=
  [.strictLogs, .clean, .verbose, .help, .version]

/-- The name of a switch, without the dashes. -/
def name : Switch → String
  | .strictLogs => "strict-logs"
  | .clean => "clean"
  | .verbose => "verbose"
  | .help => "help"
  | .version => "version"

def letter? : Switch → Option Char
  | .verbose => some 'v'
  | .help => some 'h'
  | .version => some 'V'
  | .strictLogs => none
  | .clean => none

/-- A switch as it is shown in messages; one that counts is followed by dots. -/
def shown : Switch → String
  | .verbose => "--verbose..."
  | switch => "--" ++ switch.name

def ofName? (name : String) : Option Switch :=
  all.find? fun switch => switch.name == name

def ofLetter? (letter : Char) : Option Switch :=
  all.find? fun switch => switch.letter? == some letter

end Switch

/-! ### Usage errors -/

/-- Why a text is not a number of seconds. -/
inductive NumberProblem where
  | empty
  | invalidDigit
  | tooLarge
deriving DecidableEq, Repr

/-- The wording of a problem with a number. -/
def NumberProblem.message : NumberProblem → String
  | .empty => "cannot parse integer from empty string"
  | .invalidDigit => "invalid digit found in string"
  | .tooLarge => "number too large to fit in target type"

/-- What is wrong with a command line. -/
inductive UsageError where
  | unexpected (argument : String)
  | missingValue (setting : Setting)
  | badNumber (setting : Setting) (value : String) (problem : NumberProblem)
  | badChoice (setting : Setting) (value : String)
  /-- An option that may be given once was given again; it is named as shown. -/
  | repeated (shown : String)
  | needlessValue (switch : Switch) (value : String)
deriving DecidableEq, Repr

/-- The wording of a usage error. What the user wrote is quoted without control sequences. -/
def UsageError.message : UsageError → String
  | .unexpected argument => s!"error: unexpected argument '{Text.plain argument}' found"
  | .missingValue setting =>
    s!"error: a value is required for '{setting.shown}' but none was supplied"
  | .badNumber setting value problem =>
    s!"error: invalid value '{Text.plain value}' for '{setting.shown}': {problem.message}"
  | .badChoice setting value =>
    s!"error: invalid value '{Text.plain value}' for '{setting.shown}'"
  | .repeated shown => s!"error: the argument '{shown}' cannot be used multiple times"
  | .needlessValue switch value =>
    s!"error: unexpected value '{Text.plain value}' for '{switch.shown}' found; " ++
      "no more were expected"

/-! ### Values -/

/-- The largest number of seconds. -/
def mostSeconds : Nat := Nat.pow 2 64 - 1

/-- Reads decimal digits after those that have been read. -/
def readDigits (value : Nat) : List Char → Except NumberProblem Nat
  | [] => .ok value
  | c :: rest =>
    if ¬ c.isDigit then .error .invalidDigit
    else
      let next := value * 10 + (c.toNat - '0'.toNat)
      if mostSeconds < next then .error .tooLarge else readDigits next rest

/-- Reads a number of seconds, with a plus sign before it if there is one. -/
def readSeconds (text : String) : Except NumberProblem Nat :=
  match text.toList with
  | [] => .error .empty
  | ['+'] => .error .invalidDigit
  | '+' :: digits => readDigits 0 digits
  | digits => readDigits 0 digits

/-- The choices for colours, with their names. -/
def colorChoices : List (String × ColorChoice) :=
  [("auto", .auto), ("always", .always), ("never", .never)]

/-! ### Options that were given -/

/-- What a command line asks for. -/
structure Options where
  root : Option Path := none
  config : Option Path := none
  sourceDir : Option Path := none
  buildDir : Option Path := none
  testsDir : Option Path := none
  compiler : Option String := none
  runtime : Option String := none
  entryPoint : Option String := none
  /-- In their order; this setting alone may be given again. -/
  simArgs : List String := []
  buildTimeout : Option Nat := none
  testTimeout : Option Nat := none
  strictLogs : Bool := false
  clean : Bool := false
  color : Option ColorChoice := none
  /-- How often more notes were asked for. -/
  verbosity : Nat := 0
deriving DecidableEq, Repr

namespace Options

/-- Whether a setting that may be given once has been given. -/
def given (o : Options) : Setting → Bool
  | .root => o.root.isSome
  | .config => o.config.isSome
  | .sourceDir => o.sourceDir.isSome
  | .buildDir => o.buildDir.isSome
  | .testsDir => o.testsDir.isSome
  | .compiler => o.compiler.isSome
  | .runtime => o.runtime.isSome
  | .entryPoint => o.entryPoint.isSome
  | .simArg => false
  | .buildTimeout => o.buildTimeout.isSome
  | .testTimeout => o.testTimeout.isSome
  | .color => o.color.isSome

/-- The path that a value names; it cannot be empty. -/
def pathValue (setting : Setting) (value : String) : Except UsageError Path :=
  if value = "" then .error (.missingValue setting) else .ok (.ofText value)

/-- The number of seconds that a value shows. -/
def secondsValue (setting : Setting) (value : String) : Except UsageError Nat :=
  (readSeconds value).mapError (UsageError.badNumber setting value)

/-- The choice that a value names. -/
def colorValue (value : String) : Except UsageError ColorChoice :=
  if value = "" then .error (.missingValue .color)
  else match colorChoices.lookup value with
    | some choice => .ok choice
    | none => .error (.badChoice .color value)

/-- Gives a setting its value. -/
def set (o : Options) (setting : Setting) (value : String) : Except UsageError Options :=
  match setting with
  | .root => do pure { o with root := some (← pathValue .root value) }
  | .config => do pure { o with config := some (← pathValue .config value) }
  | .sourceDir => do pure { o with sourceDir := some (← pathValue .sourceDir value) }
  | .buildDir => do pure { o with buildDir := some (← pathValue .buildDir value) }
  | .testsDir => do pure { o with testsDir := some (← pathValue .testsDir value) }
  | .compiler => .ok { o with compiler := some value }
  | .runtime => .ok { o with runtime := some value }
  | .entryPoint => .ok { o with entryPoint := some value }
  | .simArg => .ok { o with simArgs := o.simArgs ++ [value] }
  | .buildTimeout => do pure { o with buildTimeout := some (← secondsValue .buildTimeout value) }
  | .testTimeout => do pure { o with testTimeout := some (← secondsValue .testTimeout value) }
  | .color => do pure { o with color := some (← colorValue value) }

/-- The configuration that is run: what the options say goes before what it says itself. -/
def apply (o : Options) (c : Config) : Config :=
  { c with
    root := o.root.getD c.root
    sourceDir := o.sourceDir.getD c.sourceDir
    buildDir := o.buildDir.getD c.buildDir
    testsDir := o.testsDir.getD c.testsDir
    compiler := o.compiler.getD c.compiler
    runtime := o.runtime.getD c.runtime
    entryPoint := o.entryPoint.getD c.entryPoint
    simulatorArgs := if o.simArgs.isEmpty then c.simulatorArgs else o.simArgs
    buildTimeoutSecs := o.buildTimeout.getD c.buildTimeoutSecs
    testTimeoutSecs := o.testTimeout.getD c.testTimeoutSecs
    logPolicy := if o.strictLogs then .strict else c.logPolicy
    cleanOutputs := o.clean || c.cleanOutputs }

end Options

end GoldenSuite.CommandLine
