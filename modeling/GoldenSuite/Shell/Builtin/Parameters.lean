import GoldenSuite.Shell.Builtin.Basic
import GoldenSuite.Shell.Mention

/-!
# Commands on variables and arguments

The commands that mark variables, take them away or list them, switch settings, and go through
the arguments of a script.
-/

namespace GoldenSuite.Shell.Builtin

/-! ### Variables -/

/-- Lists variables in the order of their names, behind what is to stand before them. -/
def listVariables (lead : String) (shown : Variable → Bool) : Run Nat := do
  let all := (← Run.process).bindings.filter fun pair => shown pair.2
  let sorted := all.mergeSort fun a b => a.1 ≤ b.1
  for (name, v) in sorted do
    match v.value with
    | some value => Run.sayLine s!"{lead}{name}={Mention.reusable value}"
    | none => Run.sayLine s!"{lead}{name}"
  pure 0

/-- Marks variables, which may get values at the same time, or lists those that are marked. -/
def declare (name : String) (mark : Variable → Variable) (isMarked : Variable → Bool) : Builtin :=
  fun arguments => do
    match ← takeLetter ['p'] arguments with
    | (none, first :: others) =>
      for argument in first :: others do
        let (name, value) := Run.assignmentOf argument
        match value with
        | some value => Run.assign name value
        | none => pure ()
        Run.changeVariable name mark
      pure 0
    | _ => listVariables (name ++ " ") isMarked

/-- Lets programs that are started see variables. -/
def export_ : Builtin :=
  declare "export" (fun v => { v with exported := true }) Variable.exported

/-- Fixes variables. -/
def readonly : Builtin :=
  declare "readonly" (fun v => { v with fixed := true }) Variable.fixed

/-- Lets the end of a function put back variables, or all settings. -/
def local_ : Builtin := fun arguments => do
  if (← Run.process).scopes.isEmpty then Run.giveUp "not in a function"
  else
    for argument in ← takeOperands arguments do
      if argument = "-" then
        Run.change fun p => p.save (.settings p.settings)
      else
        let (name, value) := Run.assignmentOf argument
        Run.keep name
        match value with
        | some value => Run.assign name value
        | none => Run.checkName name
    pure 0

/-- Takes away variables or functions. -/
def unset : Builtin := fun arguments => do
  let (options, names) ← takeOptions [('v', false), ('f', false)] arguments
  let functions := options.getLast?.any fun option => option.1 = 'f'
  for name in names do
    if functions then
      Run.change fun p => { p with functions := p.functions.filter fun pair => pair.1 ≠ name }
    else Run.forget (Run.assignmentOf name).1
  pure 0

/-! ### Settings -/

/-- What is left of arguments behind the settings at their start. -/
structure Remainder where
  arguments : List String
  /-- Whether there are no arguments on purpose. -/
  isMeant : Bool := false
  /-- Whether a script stands among the arguments itself. -/
  isInline : Bool := false

/-- Lists all settings, in words or as commands. -/
def listSettings (asWords : Bool) : Run Unit := do
  let active := (← Run.process).settings
  if asWords then Run.sayLine "Current option settings"
  for (setting, name, _) in Setting.all do
    let on := setting ∈ active
    if asWords then
      let gap := String.ofList (List.replicate (16 - name.length) ' ')
      Run.sayLine (name ++ gap ++ if on then "on" else "off")
    else Run.sayLine ((if on then "set -o " else "set +o ") ++ name)

/-- Switches a setting on or off. -/
def switch (on : Bool) (setting : Setting) : Run Unit := do
  if setting = .monitor && on then
    Run.complainHere "can't access tty; job control turned off"
  else Run.change fun p => { p with settings := Setting.switch on setting p.settings }

/-- Switches the setting with a name. -/
def switchNamed (on : Bool) (name : String) : Run Unit :=
  match Setting.ofName? name with
  | some setting => switch on setting
  | none => Run.giveUp s!"Illegal option -o {name}"

/-- Switches the settings with these letters; names for them come from the arguments that
follow. When a shell is called, a letter says that the script stands among the arguments. -/
def switchLetters (inCall on : Bool) : List Char → Remainder → Run Remainder
  | [], rest => pure rest
  | letter :: letters, rest => do
    if letter = 'c' && inCall then switchLetters inCall on letters { rest with isInline := true }
    else if letter = 'l' && inCall then switchLetters inCall on letters rest
    else if letter = 'o' then
      match rest.arguments with
      | [] => do
        listSettings on
        switchLetters inCall on letters rest
      | name :: others => do
        switchNamed on name
        switchLetters inCall on letters { rest with arguments := others }
    else match Setting.ofLetter? letter with
      | some setting => do
        switch on setting
        switchLetters inCall on letters rest
      | none => Run.giveUp s!"Illegal option -{letter}"

/-- Switches the settings at the start of arguments; at most `fuel` arguments are looked at. -/
def switchAll (inCall : Bool) : Nat → Remainder → Run Remainder
  | 0, rest => pure rest
  | fuel + 1, rest => do
    match rest.arguments with
    | [] => pure rest
    | argument :: others =>
      let after := { rest with arguments := others }
      match argument.toList with
      | ['-'] => do
        if !inCall then
          switch false .xtrace
          switch false .verbose
        pure after
      | ['-', '-'] => pure { after with isMeant := true }
      | '-' :: letters => do switchAll inCall fuel (← switchLetters inCall true letters after)
      | '+' :: letters => do switchAll inCall fuel (← switchLetters inCall false letters after)
      | _ => pure rest

/-- Switches the settings at the start of arguments. -/
def takeSettings (inCall : Bool) (arguments : List String) : Run Remainder :=
  switchAll inCall (arguments.length + 1) { arguments }

/-- Gives the script new arguments. -/
def setArguments (arguments : List String) : Run Unit :=
  Run.change fun p => { p with arguments, optionIndex := 1, optionLetters := none }

/-- Switches settings, replaces the arguments or lists all variables. -/
def set_ : Builtin := fun arguments => do
  if arguments.isEmpty then listVariables "" fun v => v.value.isSome
  else
    let rest ← takeSettings false arguments
    if rest.isMeant || !rest.arguments.isEmpty then setArguments rest.arguments
    pure 0

/-! ### Arguments -/

/-- Drops arguments. -/
def shift : Builtin := fun arguments => do
  let count ← match arguments with
    | [] => pure 1
    | argument :: _ => Run.argumentNumber argument
  let present := (← Run.process).arguments
  if present.length < count then Run.giveUp "can't shift that many"
  else
    setArguments (present.drop count)
    pure 0

/-- Whether a list of letters has a letter, and whether a value comes with it. -/
def demandOf? (letter : Char) : List Char → Option Bool
  | [] => none
  | known :: rest =>
    if known = letter then some (rest.head? = some ':')
    else match rest with
      | ':' :: others => demandOf? letter others
      | others => demandOf? letter others

/-- What is found when the options among arguments are gone through. -/
inductive Found where
  | nothing
  | option (letter : Char) (value : String)
  | unknown (letter : Char)
  | lacking (letter : Char)
deriving DecidableEq, Repr

/-- Looks for the next option: what is found, the number of the next argument and how many
characters of the one before it have been looked at. -/
def nextOption (known : List Char) (arguments : List String) (index : Nat)
    (letters : Option Nat) : Found × Nat × Option Nat :=
  let begun : List Char := match letters with
    | some count => if 1 < index then ((arguments[index - 2]?.getD "").toList.drop count) else []
    | none => []
  let fresh := (arguments[index - 1]?.getD "").toList
  /- The letters to go on with, how many characters were there before them, and the argument
  after them. -/
  let next : Except Nat (List Char × Nat × Nat) :=
    if !begun.isEmpty then .ok (begun, letters.getD 0, index)
    else match fresh with
      | ['-', '-'] => .error (index + 1)
      | '-' :: letter :: rest => .ok (letter :: rest, 1, index + 1)
      | _ => .error index
  match next with
  | .error index => (.nothing, index, none)
  | .ok ([], _, index) => (.nothing, index, none)
  | .ok (letter :: rest, count, index) =>
    match demandOf? letter known, rest, arguments[index - 1]? with
    | none, _, _ => (.unknown letter, index, some (count + 1))
    | some false, _, _ => (.option letter "", index, some (count + 1))
    | some true, [], none => (.lacking letter, index, none)
    | some true, [], some value => (.option letter value, index + 1, none)
    | some true, value, _ => (.option letter (String.ofList value), index, none)

/-- Gives variables the next option among the arguments. -/
def getopts : Builtin := fun arguments => do
  match ← takeOperands arguments with
  | known :: variable_ :: given => do
    let p ← Run.process
    let texts := if given.isEmpty then p.arguments else given
    let (index, letters) :=
      if p.optionIndex ≤ texts.length + 1 then (p.optionIndex, p.optionLetters) else (1, none)
    let (found, index, letters) := nextOption known.toList texts index letters
    let quiet := known.toList.head? = some ':'
    let letter ← match found with
      | .nothing => pure '?'
      | .option letter value => do
        Run.assign "OPTARG" value
        pure letter
      | .unknown letter => do
        if quiet then Run.assign "OPTARG" letter.toString
        else
          Run.complain s!"Illegal option -{letter}"
          Run.forget "OPTARG"
        pure '?'
      | .lacking letter => do
        if quiet then Run.assign "OPTARG" letter.toString
        else
          Run.complain s!"No arg for -{letter} option"
          Run.forget "OPTARG"
        pure (if quiet then ':' else '?')
    Run.changeVariable "OPTIND" fun v => { v with value := some (toString index) }
    Run.assign variable_ letter.toString
    Run.change fun p => { p with optionIndex := index, optionLetters := letters }
    pure (if found = .nothing then 1 else 0)
  | _ => Run.giveUp "Usage: getopts optstring var [arg...]"

end GoldenSuite.Shell.Builtin
