import GoldenSuite.Shell.Access
import GoldenSuite.Shell.Arithmetic
import GoldenSuite.Shell.Flags

/-!
# Making directories

The program that makes directories, on demand with those on the way that are missing.
-/

namespace GoldenSuite.Shell

/-- Makes the directory that a path names. -/
def Run.makeDirectory (path : String) : Run (Except Fault Unit) := do
  let ws ← Run.workspace
  let path : Path := ⟨path⟩
  if path.isAbsolute && path.names.isEmpty then pure (.error .alreadyExists)
  else match ws.tree.resolve ws.here false (Workspace.trimmed path) with
    | .error fault => pure (.error fault)
    | .ok (.existing _) => pure (.error .alreadyExists)
    | .ok (.vacant directory name) => do
      Run.changeTree fun tree => tree.add directory name .directory
      pure (.ok ())

namespace Utility

namespace Mkdir

/-- The options. -/
def flags : List Flag :=
  [{ key := "Z", letters := ['Z'], names := ["context"], value := .optional },
   { key := "m", letters := ['m'], names := ["mode"], value := .always },
   { key := "p", letters := ['p'], names := ["parents"] },
   { key := "v", letters := ['v'], names := ["verbose"] }]

/-! ### Modes -/

/-- Whether a text says what is allowed, after the letters for whom. -/
def isChange : List Char → Bool
  | [] => false
  | sign :: rest =>
    let allowed := rest.takeWhile (· ∈ ['r', 'w', 'x', 'X', 's', 't'])
    let copied := rest.length = 1 && rest.all (· ∈ ['u', 'g', 'o'])
    sign ∈ ['+', '-', '='] && (copied || allowed.length = rest.length)

/-- Whether a text is a mode: octal digits, or what is allowed for whom. -/
def isMode (text : String) : Bool :=
  let chars := text.toList
  let octal := !chars.isEmpty && chars.all fun c => '0' ≤ c && c ≤ '7'
  if octal then (Arithmetic.takeDigits 8 0 chars).1 < Nat.pow 8 4
  else (text.splitOn ",").all fun clause =>
    isChange (clause.toList.dropWhile (· ∈ ['u', 'g', 'o', 'a']))

/-! ### Directories -/

/-- Says, when that is wanted, that a directory has been made. -/
def announce (name : String) (call : Call) (path : String) : Run Unit :=
  if call.has "v" then Run.sayLine s!"{name}: created directory {Mention.always path}" else pure ()

/-- Says that a directory cannot be made. -/
def blame (name path : String) (fault : Fault) : Run Nat :=
  Run.objectWith 1 name s!"cannot create directory {Mention.quoted path}: {fault.plain}"

/-- The starts of a path that end before a slash. -/
def starts (before : List Char) : List Char → List String
  | [] => []
  | '/' :: rest =>
    if before.isEmpty || before.head? == some '/' then starts ('/' :: before) rest
    else if rest.all (· = '/') then []
    else String.ofList before.reverse :: starts ('/' :: before) rest
  | c :: rest => starts (c :: before) rest

/-- Makes the directories on the way to another one; the one that cannot be reached, and why. -/
def makeWay (name : String) (call : Call) : List String → Run (Option (String × Fault))
  | [] => pure none
  | path :: others => do
    let made ← Run.makeDirectory path
    if made.isOk then announce name call path
    match made, (← Run.workspace).find true ⟨path⟩ with
    | _, .ok (_, .directory) => makeWay name call others
    | _, .ok _ => pure (some (path, .notADirectory))
    | .error fault, .error .notFound => pure (some (path, fault))
    | _, .error fault => pure (some (path, fault))

/-- Makes a directory; the status. -/
def make (name : String) (call : Call) (path : String) : Run Nat := do
  let obstacle ←
    if call.has "p" then makeWay name call (starts [] path.toList) else pure none
  match obstacle with
  | some (obstacle, fault) => blame name obstacle fault
  | none =>
    match ← Run.makeDirectory path with
    | .ok () => do
      announce name call path
      pure 0
    | .error fault =>
      if call.has "p" && (← Run.workspace).isDirectory ⟨path⟩ then pure 0
      else blame name path fault

end Mkdir

/-- Makes directories. -/
def mkdir (name : String) (arguments : List String) : Run Nat :=
  Run.withCall name Mkdir.flags arguments fun call => do
    if call.operands.isEmpty then Run.misused name "missing operand"
    else
      let mode := call.value? "m"
      match mode.filter fun mode => !Mkdir.isMode mode with
      | some mode => Run.objectWith 1 name s!"invalid mode {Mention.quoted mode}"
      | none => do
        let statuses ← call.operands.mapM (Mkdir.make name call)
        Run.closeSpeech name (statuses.foldl max 0)

end Utility

end GoldenSuite.Shell
