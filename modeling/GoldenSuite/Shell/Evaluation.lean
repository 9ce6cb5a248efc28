import GoldenSuite.Shell.Heading
import GoldenSuite.Shell.Spawning
import GoldenSuite.Shell.Utility

/-!
# Running scripts

The commands of a script are run one after the other on the machine. The depth of the run is
bounded, and every round of a loop counts; a script that goes deeper is taken to go on forever.
What a command stops with may leave loops, functions, files and processes, and is caught where
what it leaves was entered.
-/

namespace GoldenSuite.Shell

/-- In what position a command stands. -/
structure Position where
  /-- Whether its failure is looked at. -/
  tested : Bool := false
  /-- Whether nothing comes after it in its process. -/
  last : Bool := false

/-- How a part of a round of a loop comes out. -/
inductive Round where
  | done (status : Nat)
  /-- The loop goes on with the next round. -/
  | again
  /-- The loop is left. -/
  | left
deriving DecidableEq, Repr

/-- How many functions a command can be in. -/
def deepest : Nat := 1000

namespace Run

/-! ### Stops -/

/-- Runs a part of a round of a loop. -/
def round (body : Run Nat) : Run Round := fun m =>
  match body m with
  | .ok status m => .ok (.done status) m
  | .error (.broken 0) m => .ok .left m
  | .error (.broken (levels + 1)) m => .error (.broken levels) m
  | .error (.continued 0) m => .ok .again m
  | .error (.continued (levels + 1)) m => .error (.continued levels) m
  | .error stop m => .error stop m

/-- Runs the body of a function, or of a script that is read in. -/
def called (body : Run Nat) : Run Nat := fun m =>
  match body m with
  | .error (.returned status) m => .ok status m
  | answer => answer

/-- Runs a whole script; its status, unless something else stops. -/
def whole (body : Run Nat) : Run Nat := fun m =>
  match body m with
  | .ok status m => .ok status m
  | .error (.exited status) m => .ok status m
  | .error (.returned status) m => .ok status m
  | .error .failed m => .ok m.process.status m
  | .error (.broken _) m => .ok 0 m
  | .error (.continued _) m => .ok 0 m
  | .error stop m => .error stop m

/-- Ends a script whose last command has been run. -/
def finish (position : Position) (status : Nat) : Run Nat := do
  if position.last then throw (.exited status) else pure status

/-- Takes in the status of a command; `strict` says that a failure can end the script. -/
def conclude (position : Position) (strict : Bool) (status : Nat) : Run Nat := do
  if strict && status ≠ 0 && !position.tested && (← get).has .errexit then
    throw (.exited status)
  else finish position status

/-! ### Redirections and assignments -/

/-- The machine with descriptors as they were before. -/
def redirectedBack (before : Machine) (redirects : List Redirect) (m : Machine) : Machine :=
  let descriptors := redirects.map Redirect.descriptor
  let old := before.process.descriptors.filter fun pair => pair.1 ∈ descriptors
  let others := m.process.descriptors.filter fun pair => pair.1 ∉ descriptors
  tidied before { m with process := { m.process with descriptors := old ++ others } }

/-- Runs something while descriptors are redirected; nothing comes out when that is not possible.
The redirections may be meant to last. -/
def redirected (capture : Capture) (redirects : List Redirect) (lasting : Bool)
    (body : Run Nat) : Run (Option Nat) := do
  let before ← get
  let all : Run (Option Nat) := do
    match ← attempt (redirectAll capture [] redirects) with
    | some _ => do return some (← body)
    | none => pure none
  if redirects.isEmpty then return some (← body)
  else fun m =>
    match all m with
    | .ok (some status) m =>
      .ok (some status) (if lasting then m else redirectedBack before redirects m)
    | .ok none m => .ok none (redirectedBack before redirects m)
    | .error stop m => .error stop (redirectedBack before redirects m)

/-- Carries out an assignment before a command. -/
def assignBefore (temporary exported : Bool) (text : String) : Run Unit := do
  let (name, value) := assignmentOf text
  if temporary then keep name
  assign name (value.getD "")
  if temporary || exported then changeVariable name fun v => { v with exported := true }

/-- Carries out the assignments before a command; their texts. -/
def assignAll (capture : Capture) (temporary exported : Bool) (words : List Word) :
    Run (List String) :=
  words.mapM fun word => do
    let text ← word.assignmentText capture
    assignBefore temporary exported text
    pure text

/-- What comes first on a line that shows a command. It is expanded, or stands for itself when that
is not possible; no command is shown meanwhile. -/
def traceLead (capture : Capture) : Run String := do
  let m ← get
  let text := (m.valueOf? "PS4").getD ""
  let (parsed, exhausted) := Word.ofQuoted m.process.exhausted text.toList
  change fun p => { p with exhausted }
  match parsed with
  | .error unreadable => do
    change fun p => { p with line := unreadable.line }
    complainHere s!"Syntax error: {unreadable.confusion.message}"
    pure text
  | .ok word => do
    change fun p => { p with tracing := true }
    let expanded ← always (fun m => { m with process := { m.process with tracing := false } })
      (attempt (Word.documentText capture word))
    pure (expanded.getD text)

/-- Shows a command before it is run, when that is asked for, where errors went before it. -/
def trace (capture : Capture) (before : Machine) (texts : List String) : Run Unit := do
  let m ← get
  if m.has .xtrace && !m.process.tracing then
    let lead ← traceLead capture
    let line := Octets.toBytes (lead ++ " ".intercalate texts ++ "\n")
    match before.streamOf? 2 with
    | some (number, stream) => discard (writeTo number stream line)
    | none => discard (write 2 line)

/-! ### Choices -/

/-- Whether one of several patterns accepts a text. -/
def acceptsAny (capture : Capture) (text : List Char) : List Word → Run Bool
  | [] => pure false
  | word :: others => do
    if Pattern.accepts (← word.pattern capture) text then pure true
    else acceptsAny capture text others

/-- The command of the first case with a pattern that accepts a text. -/
def chosen (capture : Capture) (text : List Char) :
    List (List Word × Command) → Run Command
  | [] => pure .nothing
  | (patterns, command) :: others => do
    if ← acceptsAny capture text patterns then pure command else chosen capture text others

/-! ### Commands of the shell -/

/-- Writes what a command of the shell has said; a failure shows in the status. -/
def deliver (name : String) (status : Nat) : Run Nat := do
  match ← utter with
  | none => pure status
  | some _ => do
    complainHere s!"{name}: I/O error"
    pure (status ||| 1)

/-- Runs a command of the shell under its name. An error ends the script only if the command is
special. -/
def underName (name : String) (special : Bool) (body : Run Nat) : Run Nat := do
  let outer ← process
  let restore (m : Machine) : Machine :=
    { m with process := { m.process with command := outer.command, spoken := outer.spoken } }
  change fun p => { p with command := some name, spoken := [] }
  always restore fun m =>
    match body m with
    | .ok status m => deliver name status m
    | .error stop m =>
      let after := match utter m with
        | .ok _ m => m
        | .error _ m => m
      if stop = .failed && !special then .ok 2 after else .error stop after

/-! ### Shells -/

/-- The signals that have been sent to the process and for which something is to be run. -/
def collectSignals : Run Unit := do
  let m ← get
  let p := m.process
  let signals := (m.world.scene.sent.filter fun sent => sent.process = p.number).map Sent.signal
  if !signals.isEmpty then
    act (·.collect p.number)
    let caught := signals.filter fun signal =>
      p.traps.any fun trap => trap.1 = signal && trap.2 ≠ ""
    change fun p => { p with caught := (p.caught ++ caught).eraseDups }

/-- The directories in which a program is looked for, from the one on where it has been found. -/
def pathsFrom (paths : List String) (path : String) : List String :=
  paths.dropWhile (· ≠ path)

/-- The variables with which a shell starts. -/
def startVariables (p : Process) (directory : String) : List (String × Variable) :=
  let usual : List (String × String) :=
    [("IFS", String.ofList Draft.usualSeparators), ("OPTIND", "1"), ("PPID", toString p.parent),
     ("PS1", "# "), ("PS2", "> ")]
  let given := p.bindings.filter fun entry =>
    entry.2.exported && entry.2.value.isSome && usual.all (·.1 ≠ entry.1) && entry.1 ≠ "PWD"
  let trace := if given.any (·.1 = "PS4") then [] else [("PS4", "+ ")]
  let set := (usual ++ trace).map fun entry => (entry.1, { value := some entry.2 })
  ("PWD", { value := some directory, exported := true }) ::
    set ++ given.map fun entry => (entry.1, { entry.2 with fixed := false })

/-- The process as it is when a shell starts in it. -/
def started (m : Machine) (name : String) (p : Process) : Process :=
  let physical := Builtin.physicalPath m
  let given := (p.bindings.lookup "PWD").bind Variable.value
  let isHere (path : String) : Bool :=
    path.startsWith "/" && Builtin.directoryAt? m path = some p.here
  let directory := (given.filter isHere).getD physical
  { number := p.number, root := p.number, parent := p.parent, waiting := p.waiting, here := p.here
    directory, name, bindings := startVariables p directory, ignored := p.ignored
    descriptors := p.descriptors, mask := p.mask }

/-- The text of a script in a file. Nothing can be read from a directory. -/
def scriptAt (path : String) : Run (List Char) := do
  match ← readPath path with
  | .ok bytes => pure ((bytes.filter (· ≠ 0)).map Octets.ofByte)
  | .error .isADirectory => pure []
  | .error fault => cannotOpen false path fault

/-- The path of the script that a name stands for. -/
def scriptPath (name : String) : Run String := do
  if '/' ∈ name.toList then pure name
  else
    let m ← get
    let paths := candidates m.searchPath name
    match paths.find? fun path => (m.kindAt true path) matches .ok (_, .regular) with
    | some path => pure path
    | none => giveUp s!"{name}: not found"

end Run

mutual

/-- Runs a command. -/
def execute : Nat → Position → Command → Run Nat
  | 0, _, _ => throw .endless
  | fuel + 1, position, command => do
    if (← get).has .noexec then Run.finish position (← Run.process).status
    else
      attend fuel
      let settle (strict : Bool) (status : Nat) : Run Nat := do
        Run.change fun p => { p with status }
        attend fuel
        Run.conclude position strict status
      let inside : Position := { tested := position.tested }
      let test : Position := { tested := true }
      match command with
      | .nothing => settle false 0
      | .definition line name body => do
        Run.change fun p =>
          let others := p.functions.filter fun entry => entry.1 ≠ name
          { p with functions := (name, { line, body }) :: others }
        settle false 0
      | .sequence first second => do
        discard (execute fuel inside first)
        execute fuel position second
      | .either onSuccess first second => do
        let status ← execute fuel test first
        if (status == 0) == onSuccess then execute fuel position second
        else Run.finish position status
      | .negated inner => do
        let status ← execute fuel test inner
        settle false (if status = 0 then 1 else 0)
      | .branch condition yes no => do
        let status ← execute fuel test condition
        execute fuel position (if status = 0 then yes else no)
      | .loop whileTrue condition body => do
        settle false (← looping (rounds fuel position whileTrue condition body 0))
      | .each line name words body => do
        Run.change fun p => { p with line }
        let texts ← Word.allFields (capture fuel) words
        settle false (← looping (eachOf fuel position name body texts 0))
      | .choice line subject cases => do
        Run.change fun p => { p with line }
        let text ← Word.text (capture fuel) subject
        execute fuel position (← Run.chosen (capture fuel) text.toList cases)
      | .pipeline commands => do
        commands.forM (Builtin.locateAhead Builtin.isKnown)
        let bodies := commands.map fun command =>
          closing fuel (execute fuel { position with last := true } command)
        settle true (← Run.pipeline bodies.dropLast (bodies.getLast?.getD (pure 0)))
      | .subshell line inner redirections => do
        Run.change fun p => { p with line }
        let redirects ← redirections.mapM (Run.expandRedirection (capture fuel))
        let body : Run Nat := closing fuel do
          redirects.forM (Run.redirect (capture fuel))
          execute fuel { position with last := true } inner
        if position.last && !(← Run.process).hasTraps then
          Run.change Process.inner
          throw (.exited (← body))
        else settle true (← Run.await Process.inner body)
      | .background inner => do
        match inner with
        | .redirected line inner redirections => do
          Run.change fun p => { p with line }
          let redirects ← redirections.mapM (Run.expandRedirection (capture fuel))
          Run.startJob (redirects.map Redirect.descriptor) (closing fuel do
            redirects.forM (Run.redirect (capture fuel))
            execute fuel { last := true } inner)
        | _ => Run.startJob [] (closing fuel (execute fuel { last := true } inner))
        settle true 0
      | .redirected line inner redirections => do
        Run.change fun p => { p with line }
        let redirects ← redirections.mapM (Run.expandRedirection (capture fuel))
        match ← Run.redirected (capture fuel) redirects false (execute fuel inside inner) with
        | some status => settle false status
        | none => settle true 2
      | .simple line assignments words redirections => do
        Run.change fun p => { p with line, substituted := 0 }
        settle true (← simple fuel position assignments words redirections)
where
  /-- Runs the rounds of a loop. -/
  looping (body : Run Nat) : Run Nat := do
    let loops := (← Run.process).loops
    Run.change fun p => { p with loops := loops + 1 }
    Run.always (fun m => { m with process := { m.process with loops } }) body

/-- Runs the rounds of a loop; `status` is that of the last round. -/
def rounds : Nat → Position → Bool → Command → Command → Nat → Run Nat
  | 0, _, _, _, _, _ => throw .endless
  | fuel + 1, position, whileTrue, test, body, status => do
    match ← Run.round (execute fuel { tested := true } test) with
    | .left => pure status
    | .again => rounds fuel position whileTrue test body status
    | .done answer =>
      if (answer == 0) == whileTrue then
        match ← Run.round (execute fuel { tested := position.tested } body) with
        | .left => pure 0
        | .again => rounds fuel position whileTrue test body 0
        | .done status => rounds fuel position whileTrue test body status
      else pure status

/-- Runs a command once for each text; `status` is that of the last round. -/
def eachOf : Nat → Position → String → Command → List String → Nat → Run Nat
  | 0, _, _, _, _, _ => throw .endless
  | _, _, _, _, [], status => pure status
  | fuel + 1, position, name, body, text :: others, _ => do
    Run.assign name text
    match ← Run.round (execute fuel { tested := position.tested } body) with
    | .left => pure 0
    | .again => eachOf fuel position name body others 0
    | .done status => eachOf fuel position name body others status

/-- Runs what is to be run because of signals that have reached the process. -/
def attend : Nat → Run Unit
  | 0 => pure ()
  | fuel + 1 => do
    Run.collectSignals
    let p ← Run.process
    match p.caught.min? with
    | none => pure ()
    | some signal => do
      Run.change fun p => { p with caught := p.caught.filter (· ≠ signal) }
      let status := p.leaving.getD p.status
      match p.traps.lookup signal with
      | none => pure ()
      | some action => do
        Run.change fun p => { p with leaving := some status }
        let back (m : Machine) : Machine :=
          { m with process := { m.process with leaving := p.leaving } }
        let answer : Run Unit := fun m =>
          match interpret fuel {} false action.toList m with
          | .ok _ m => .ok () (back m)
          | .error (.returned status) m => .error (.returned status) (back m)
          | .error stop m => .error stop m
        answer
        Run.change fun p => { p with status }
      attend fuel

/-- Runs a whole script, and what is to be run at its end. -/
def closing : Nat → Run Nat → Run Nat
  | 0, _ => throw .endless
  | fuel + 1, body => do
    let status ← Run.whole body
    match (← Run.process).traps.lookup 0 with
    | none => pure status
    | some action => do
      Run.change fun p =>
        { p with
          traps := p.traps.filter fun trap => trap.1 ≠ 0, status, leaving := some status
          calls := 0, loops := 0, command := none }
      Run.whole do
        discard (Run.called (do
          discard (interpret fuel {} false action.toList)
          pure status))
        pure status

/-- Runs a simple command. -/
def simple : Nat → Position → List Word → List Word → List Redirection → Run Nat
  | 0, _, _, _, _ => throw .endless
  | fuel + 1, position, assignments, words, redirections => do
    let heading ← Heading.ofWords (capture fuel) words
    let before ← get
    let count := before.process.scopes.length
    let leave (m : Machine) : Machine := { m with process := m.process.leaveScopes count }
    Run.always leave do
      if heading.temporary then Run.change Process.enterScope
      let redirects ← redirections.mapM (Run.expandRedirection (capture fuel))
      let exported := heading.lasting && 1 < heading.command.length
      let body : Run Nat := do
        let texts ← Run.assignAll (capture fuel) heading.temporary exported assignments
        Run.trace (capture fuel) before (texts ++ heading.fields.found)
        invoke fuel position heading
      match ← Run.redirected (capture fuel) redirects heading.lasting body with
      | some status => pure status
      | none => do
        Run.change fun p => { p with status := 2 }
        if heading.special then throw .failed else pure 2

/-- Runs what a name stands for: a function, a command of the shell or a program. -/
def invoke : Nat → Position → Heading → Run Nat
  | 0, _, _ => throw .endless
  | fuel + 1, position, heading => do
    let p ← Run.process
    match heading.command with
    | [] => pure p.substituted
    | name :: arguments =>
      let function := if heading.direct then none else p.functions.lookup name
      match function, Builtin.isKnown name with
      | some function, _ => call fuel position function arguments
      | none, true =>
        Run.underName name heading.special (builtin fuel position name arguments)
      | none, false => external fuel position heading.usualPath name arguments

/-- Runs a command of the shell. -/
def builtin : Nat → Position → String → List String → Run Nat
  | 0, _, _, _ => throw .endless
  | fuel + 1, position, name, arguments => do
    match name, arguments with
    | "eval", _ =>
      interpret fuel { tested := position.tested } false (" ".intercalate arguments).toList
    | "exec", [] => pure 0
    | "exec", program :: operands => do
      let m ← get
      let paths := if '/' ∈ program.toList then [program] else candidates m.searchPath program
      throw (.exited (← launch fuel paths program operands))
    | ".", _ => do
      match ← Builtin.takeOperands arguments with
      | [] => pure 0
      | name :: _ => do
        let path ← Run.scriptPath name
        let text ← Run.scriptAt path
        Run.change fun p => { p with command := some path }
        Run.called (interpret fuel {} true text)
    | "command", _ => Builtin.command Builtin.isKnown arguments
    | _, _ =>
      match Builtin.ofName? name with
      | some builtin => builtin arguments
      | none => pure 127

/-- Runs a function with its arguments. -/
def call : Nat → Position → Function → List String → Run Nat
  | 0, _, _, _ => throw .endless
  | fuel + 1, position, function, arguments => do
    let p ← Run.process
    if deepest ≤ p.calls then
      Run.giveUp s!"Maximum function recursion depth ({deepest}) reached"
    else
      Run.change fun p =>
        { p with
          arguments, optionIndex := 1, optionLetters := none, calls := p.calls + 1, loops := 0 }
      let back (m : Machine) : Machine :=
        { m with process := { m.process with
            arguments := p.arguments, optionIndex := p.optionIndex
            optionLetters := p.optionLetters, calls := p.calls, loops := p.loops } }
      Run.always back (Run.called (execute fuel { tested := position.tested } function.body))

/-- Runs a program that has to be found first. -/
def external : Nat → Position → Bool → String → List String → Run Nat
  | 0, _, _, _, _ => throw .endless
  | fuel + 1, position, usualPath, name, arguments => do
    let m ← get
    let paths := candidates (if usualPath then programPath else m.searchPath) name
    let found ←
      if '/' ∈ name.toList then pure (.ok name)
      else if usualPath then pure ((searchProgram m.workspace .notFound paths).map Prod.snd)
      else Builtin.locate name
    match found with
    | .error fault => do
      Run.complainHere s!"{name}: {startWording fault}"
      pure 127
    | .ok path =>
      let paths := if '/' ∈ name.toList then [name] else Run.pathsFrom paths path
      let body := launch fuel paths name arguments
      if position.last && !m.process.hasTraps then throw (.exited (← body))
      else
        Run.settle
        Run.await id body

/-- Starts a program at the first of several paths where that is possible. -/
def launch : Nat → List String → String → List String → Run Nat
  | 0, _, _, _ => throw .endless
  | fuel + 1, paths, name, arguments => do
    match searchProgram (← Run.workspace) .notFound paths with
    | .error fault => do
      Run.complainHere s!"{name}: {startWording fault}"
      pure (startStatus fault)
    | .ok (program, _) => do
      Run.change Process.forProgram
      programRun fuel program name arguments

/-- Runs a program under a name with its arguments. -/
def programRun : Nat → String → String → List String → Run Nat
  | 0, _, _, _ => throw .endless
  | fuel + 1, program, name, arguments =>
    match Utility.programs.lookup program with
    | some utility => utility name arguments
    | none => shell fuel name arguments

/-- Runs a shell with its arguments. -/
def shell : Nat → String → List String → Run Nat
  | 0, _, _ => throw .endless
  | fuel + 1, name, arguments => do
    let m ← get
    Run.change (Run.started m name)
    closing fuel do
      let rest ← Builtin.takeSettings true arguments
      discard (Run.deliver name 0)
      let fromInput : Run Nat := do
        match ← Run.readAll 0 with
        | .ok bytes => interpret fuel {} true ((bytes.filter (· ≠ 0)).map Octets.ofByte)
        | .error _ => pure 0
      let reading := (← get).has .stdin
      match rest.isInline, rest.arguments with
      | true, [] => Run.giveUp "-c requires an argument"
      | true, script :: operands => do
        Run.change fun p =>
          { p with name := operands.head?.getD name, arguments := operands.drop 1 }
        let status ← interpret fuel { last := !reading } false script.toList
        if reading then fromInput else pure status
      | false, [] => do
        Builtin.switch true .stdin
        fromInput
      | false, file :: operands =>
        if reading then
          Run.change fun p => { p with arguments := file :: operands }
          fromInput
        else
          let text ← Run.scriptAt file
          Run.change fun p => { p with name := file, arguments := operands }
          interpret fuel {} true text

/-- Runs the text of a script. -/
def interpret : Nat → Position → Bool → List Char → Run Nat
  | 0, _, _, _ => throw .endless
  | fuel + 1, position, shown, text => do
    lines fuel position shown (Reader.ofText text) 0

/-- Runs a script line by line; `status` is that of the last command. Lines are shown as they are
read when that is asked for. -/
def lines : Nat → Position → Bool → Reader → Nat → Run Nat
  | 0, _, _, _, _ => throw .endless
  | fuel + 1, position, shown, reader, status => do
    let p ← Run.process
    let (parsed, after) :=
      { reader with aliases := p.aliases, nextDocument := p.nextDocument }.line
    Run.change fun p =>
      { p with
        documents := after.documents ++ p.documents, nextDocument := after.nextDocument
        exhausted := after.atEnd }
    if shown && Setting.verbose ∈ p.settings then
      let taken := reader.source.base.length - after.source.base.length
      Run.print 2 (String.ofList (reader.source.base.take taken))
    match parsed with
    | .error unreadable => do
      Run.change fun p => { p with line := unreadable.line }
      Run.giveUp s!"Syntax error: {unreadable.confusion.message}"
    | .ok .ended => pure status
    | .ok .nothing => lines fuel position shown after status
    | .ok (.command command) => do
      let status ← execute fuel { position with last := position.last && after.atEnd } command
      lines fuel position shown after status

/-- What a command writes, as a process of its own. -/
def capture : Nat → Capture
  | 0, _ => throw .endless
  | _, .nothing => pure []
  | fuel + 1, command => do
    let (text, status) ← Run.captured (closing fuel (execute fuel { last := true } command))
    Run.change fun p => { p with substituted := status }
    pure text

end

end GoldenSuite.Shell
