import GoldenSuite.CommandLine.Options

/-!
# Reading a command line

The arguments are read from left to right. The value of a setting may be attached to its name
by an equals sign or be the next argument. A value that is the next argument is judged only
when the following option, or the end, is reached; an argument that is no option at all is
refused at once. A request for help or for the version ends the reading where it stands.
-/

namespace GoldenSuite.CommandLine

/-- Why the reading ends without options to run with. -/
inductive Stop where
  | help
  | version
  | usage (error : UsageError)
deriving DecidableEq, Repr

/-- What has been read of a command line. -/
structure Progress where
  options : Options := {}
  /-- The setting that was named last and its value, once that has come. -/
  pending : Option (Setting × Option String) := none

namespace Progress

/-- Gives a setting a value, or none at all. -/
def give (options : Options) (setting : Setting) (value : Option String) : Except Stop Options :=
  match value with
  | none => .error (.usage (.missingValue setting))
  | some value =>
    if options.given setting then .error (.usage (.repeated setting.shown))
    else (options.set setting value).mapError Stop.usage

/-- Judges the value that is pending. -/
def settle (p : Progress) : Except Stop Options :=
  match p.pending with
  | none => .ok p.options
  | some (setting, value) => give p.options setting value

def throwSwitch (options : Options) : Switch → Except Stop Options
  | .strictLogs =>
    if options.strictLogs then .error (.usage (.repeated Switch.strictLogs.shown))
    else .ok { options with strictLogs := true }
  | .clean =>
    if options.clean then .error (.usage (.repeated Switch.clean.shown))
    else .ok { options with clean := true }
  | .verbose => .ok { options with verbosity := options.verbosity + 1 }
  | .help => .error .help
  | .version => .error .version

/-- The setting that waits for its value. -/
def awaiting? (p : Progress) : Option Setting :=
  match p.pending with
  | some (setting, none) => some setting
  | _ => none

/-- Takes an argument as the value that is waited for. -/
def takeValue (p : Progress) (setting : Setting) (argument : String) : Progress :=
  { p with pending := some (setting, some argument) }

/-- Takes an option that is written out, with the value attached to it. -/
def takeLong (p : Progress) (name : String) (attached : Option String) :
    Except Stop Progress := do
  match Setting.ofName? name, Switch.ofName? name with
  | some setting, _ =>
    let options ← p.settle
    match attached with
    | some value => pure { options := ← give options setting (some value) }
    | none => pure { options, pending := some (setting, none) }
  | none, some switch =>
    match attached with
    | some value => throw (.usage (.needlessValue switch value))
    | none =>
      let options ← p.settle
      pure { options := ← throwSwitch options switch }
  | none, none => throw (.usage (.unexpected ("--" ++ name)))

/-- Takes the letters of switches. -/
def takeLetters (p : Progress) : List Char → Except Stop Progress
  | [] => .ok p
  | letter :: rest =>
    match Switch.ofLetter? letter with
    | none => .error (.usage (.unexpected (String.ofList ['-', letter])))
    | some switch => do
      let options ← p.settle
      takeLetters { options := ← throwSwitch options switch } rest

end Progress

/-- What an argument looks like. -/
inductive Shape where
  /-- The mark after which nothing is an option. -/
  | escape
  | long (name : String) (attached : Option String)
  | letters (letters : List Char)
  | other
deriving DecidableEq, Repr

/-- What an argument looks like. -/
def Shape.ofArgument (argument : String) : Shape :=
  match argument.toList with
  | ['-', '-'] => .escape
  | '-' :: '-' :: text =>
    let name := text.takeWhile (· ≠ '=')
    match text.drop name.length with
    | [] => .long (String.ofList name) none
    | _ :: value => .long (String.ofList name) (some (String.ofList value))
  | '-' :: first :: others => .letters (first :: others)
  | _ => .other

/-- Reads arguments. -/
def readFrom (p : Progress) : List String → Except Stop Options
  | [] => p.settle
  | argument :: rest =>
    match p.awaiting?, Shape.ofArgument argument with
    | some .simArg, _ => readFrom (p.takeValue .simArg argument) rest
    | _, .escape =>
      match rest with
      | [] => p.settle
      | first :: _ => .error (.usage (.unexpected first))
    | _, .long name attached => do readFrom (← p.takeLong name attached) rest
    | _, .letters letters => do readFrom (← p.takeLetters letters) rest
    | some setting, .other => readFrom (p.takeValue setting argument) rest
    | none, .other => .error (.usage (.unexpected argument))

/-- Reads a command line. -/
def read (arguments : List String) : Except Stop Options :=
  readFrom {} arguments

example : read ["--root", "a", "-v", "--sim-arg", "--clean"] =
    .ok { root := some ⟨"a"⟩, verbosity := 1, simArgs := ["--clean"] } := by cbv

example : read ["--test-timeout", "x", "--bogus"] =
    .error (.usage (.unexpected "--bogus")) := by cbv

end GoldenSuite.CommandLine
