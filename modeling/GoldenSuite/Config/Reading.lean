import GoldenSuite.Config.Error
import GoldenSuite.Config.Field
import GoldenSuite.Json.Value
import GoldenSuite.Workspace.Basic

/-!
# Reading a configuration

A configuration is one JSON value. As an object it gives some of the fields, each at most once
and under its own key; as a list it gives the first fields in their order. Fields that are not
given keep their defaults.
-/

namespace GoldenSuite.Config

open Json

/-! ### Values of the fields -/

def policyNamed (name : String) : Reader LogPolicy :=
  match [LogPolicy.lenient, .strict].find? fun policy => policy.name == name with
  | some policy => pure policy
  | none => Reader.fail (.unknownVariant name [LogPolicy.lenient.name, LogPolicy.strict.name])

/-- Reads a policy: its name, or an object whose only key is its name and whose value is
`null`. -/
def readPolicy : Reader LogPolicy := do
  match ← Reader.peekToken with
  | some '"' => do policyNamed (← Reader.text "variant identifier")
  | some '\x7b' =>
    Reader.advance
    let policy ← policyNamed (← Reader.text "variant identifier")
    Reader.colon
    Reader.null
    match ← Reader.peekToken with
    | some '\x7d' => do Reader.advance; pure policy
    | some _ => Reader.fail .expectedValue
    | none => Reader.fail .endInObject
  | some _ => Reader.failNext .expectedValue
  | none => Reader.failNext .endInValue

def readPath : Reader Path := do
  pure (.ofText (← Reader.text "path string"))

/-- Reads a text. -/
def readString : Reader String :=
  Reader.text "a string"

/-- Reads the value of a field into a configuration. -/
def readValue (c : Config) : Field → Reader Config
  | .root => do pure { c with root := ← readPath }
  | .sourceDir => do pure { c with sourceDir := ← readPath }
  | .sourceGlob => do pure { c with sourceGlob := ← readString }
  | .buildDir => do pure { c with buildDir := ← readPath }
  | .testsDir => do pure { c with testsDir := ← readPath }
  | .caseInputDir => do pure { c with caseInputDir := ← readPath }
  | .caseOutputDir => do pure { c with caseOutputDir := ← readPath }
  | .caseExpectedDir => do pure { c with caseExpectedDir := ← readPath }
  | .logArtifact => do pure { c with logArtifact := ← readString }
  | .resultArtifact => do pure { c with resultArtifact := ← readString }
  | .compiler => do pure { c with compiler := ← readString }
  | .compilerArgs => do pure { c with compilerArgs := ← Reader.list readString }
  | .outputFlag => do pure { c with outputFlag := ← readString }
  | .runtime => do pure { c with runtime := ← readString }
  | .classpathFlag => do pure { c with classpathFlag := ← readString }
  | .entryPoint => do pure { c with entryPoint := ← readString }
  | .simulatorArgs => do pure { c with simulatorArgs := ← Reader.list readString }
  | .buildTimeoutSecs => do pure { c with buildTimeoutSecs := ← Reader.natural }
  | .testTimeoutSecs => do pure { c with testTimeoutSecs := ← Reader.natural }
  | .logPolicy => do pure { c with logPolicy := ← readPolicy }
  | .cleanOutputs => do pure { c with cleanOutputs := ← Reader.boolean }

/-! ### Configurations -/

/-- Reads the values of these fields from the elements of a list, as long as there are any. -/
def readElements (c : Config) (first : Bool) : List Field → Reader Config
  | [] => pure c
  | field :: others => do
    if ← Reader.anotherElement first then
      readElements (← readValue c field) false others
    else pure c

/-- Reads the fields of an object. `seen` are the fields that have been given; an object has no
more fields than `most`, of which there are never more than characters in the text. -/
def readFields (c : Config) (seen : List Field) : Nat → Reader Config
  | 0 => pure c
  | most + 1 => do
    if ← Reader.anotherField seen.isEmpty then
      let key ← Reader.fieldName
      match Field.ofKey? key with
      | none => Reader.failAfterName (.unknownField key Field.keys)
      | some field =>
        if field ∈ seen then Reader.failAfterName (.repeatedField key)
        else
          Reader.colon
          readFields (← readValue c field) (field :: seen) most
    else pure c

def readConfig : Reader Config := do
  let start : Config := {}
  match ← Reader.peekToken with
  | some '[' =>
    Reader.advance
    let c ← readElements start true Field.all
    Reader.endOfList
    pure c
  | some '\x7b' =>
    Reader.advance
    let c ← readFields start [] ((← get).rest.length + 1)
    Reader.endOfObject
    pure c
  | _ => Reader.mismatch "struct HarnessConfig"

/-- Reads the text of a configuration; `source` is what messages say it comes from. -/
def ofSource (source : Path) (text : String) : Except ConfigError Config :=
  let whole : Reader Config := do
    let c ← readConfig
    Reader.endOfText
    pure c
  match whole.run (Cursor.ofText text) with
  | .ok (c, _) => .ok c
  | .error problem => .error (.malformed source problem)

/-- What messages say a configuration comes from that is in no file. -/
def inlineSource : Path := ⟨"<inline-config>"⟩

/-- Reads the text of a configuration that is in no file. -/
def ofText (text : String) : Except ConfigError Config :=
  ofSource inlineSource text

/-- Reads the file of a configuration. -/
def ofFile (ws : Workspace) (path : Path) : Except ConfigError Config :=
  match ws.readText path with
  | .error fault => .error (.unreadable path fault)
  | .ok text => ofSource path text

end GoldenSuite.Config
