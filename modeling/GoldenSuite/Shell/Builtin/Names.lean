import GoldenSuite.Shell.Builtin.Basic
import GoldenSuite.Shell.Grammar
import GoldenSuite.Shell.Mention
import GoldenSuite.Shell.Program

/-!
# Commands on names

The commands that tell what a name means as a command, and that give meanings to names. What is
listed comes from tables with buckets, bucket after bucket.
-/

namespace GoldenSuite.Shell.Builtin

/-! ### Tables -/

/-- The bucket of a name in a table with so many buckets. -/
def bucket (count : Nat) (name : String) : Nat :=
  let codes := name.toList.map Char.toNat
  ((codes.head?.getD 0) * 16 + codes.foldr (· + ·) 0) % 32768 % count

/-- Entries in the order of their buckets; within one they keep their order. -/
def inBuckets {α : Type} (count : Nat) (entries : List (String × α)) : List (String × α) :=
  entries.mergeSort fun a b => bucket count a.1 ≤ bucket count b.1

/-! ### Aliases -/

/-- An alias as a script could define it. -/
def aliasText (entry : String × String) : String :=
  s!"{entry.1}={Mention.reusable entry.2}"

/-- Defines an alias, or shows one. -/
def aliasOne (argument : String) : Run Nat := do
  let text := argument.toList
  let rest := text.drop 1
  let name := String.ofList (text.take 1 ++ rest.takeWhile (· ≠ '='))
  match text, rest.dropWhile (· ≠ '=') with
  | _ :: _, '=' :: value => do
    let value := String.ofList value
    Run.change fun p =>
      if p.aliases.any fun entry => entry.1 = name then
        { p with aliases := p.aliases.map fun entry =>
            if entry.1 = name then (name, value) else entry }
      else { p with aliases := p.aliases ++ [(name, value)] }
    pure 0
  | _, _ =>
    match (← Run.process).aliases.lookup argument with
    | some value => do
      Run.sayLine (aliasText (argument, value))
      pure 0
    | none => Run.refuse 1 s!"alias: {argument} not found"

/-- Defines, shows or lists aliases. -/
def aliasAll : Builtin := fun arguments => do
  if arguments.isEmpty then
    for entry in inBuckets 39 (← Run.process).aliases do
      Run.sayLine (aliasText entry)
    pure 0
  else Run.forEach arguments aliasOne

/-- Takes aliases away. -/
def unalias : Builtin := fun arguments => do
  let (options, names) ← takeOptions [('a', false)] arguments
  if !options.isEmpty then
    Run.change fun p => { p with aliases := [] }
    pure 0
  else
    Run.forEach names fun name => do
      if (← Run.process).aliases.any fun entry => entry.1 = name then
        Run.change fun p => { p with aliases := p.aliases.filter fun entry => entry.1 ≠ name }
        pure 0
      else Run.refuse 1 s!"unalias: {name} not found"

/-! ### Programs -/

/-- Remembers where a program has been found. -/
def remember (name path : String) : Run Unit :=
  Run.change fun p =>
    if p.located.any fun entry => entry.1 = name then p
    else { p with located := p.located ++ [(name, path)] }

/-- Looks for a program on the search path, and remembers where it is. -/
def locate (name : String) : Run (Except Fault String) := do
  let m ← get
  match m.process.located.lookup name with
  | some path => pure (.ok path)
  | none =>
    match searchProgram m.workspace .notFound (candidates m.searchPath name) with
    | .ok (_, path) => do
      remember name path
      pure (.ok path)
    | .error fault => pure (.error fault)

/-- Looks for the program that a command in a pipeline names, when its name is written out and made
of letters, digits and underscores. -/
def locateAhead (isKnown : String → Bool) (command : Command) : Run Unit := do
  match command with
  | .simple _ _ (word :: _) _ =>
    match (Word.plainText? word).map fun chars => (isName chars, String.ofList chars) with
    | some (true, name) =>
      let function := (← Run.process).functions.any fun entry => entry.1 = name
      if !isKnown name && !function then discard (locate name)
    | _ => pure ()
  | _ => pure ()

/-- Looks for programs, forgets them or lists those that have been found. -/
def hash (isKnown : String → Bool) : Builtin := fun arguments => do
  let (options, names) ← takeOptions [('r', false)] arguments
  if !options.isEmpty then
    Run.change fun p => { p with located := [] }
    pure 0
  else if names.isEmpty then
    for entry in inBuckets 31 (← Run.process).located do
      Run.sayLine entry.2
    pure 0
  else
    Run.forEach names fun name => do
      let function := (← Run.process).functions.any fun entry => entry.1 = name
      if isKnown name || function || '/' ∈ name.toList then pure 0
      else
        Run.change fun p =>
          { p with located := p.located.filter fun entry => entry.1 ≠ name }
        match ← locate name with
        | .ok _ => pure 0
        | .error fault => do
          Run.complainHere s!"{name}: {startWording fault}"
          pure 1

/-! ### Meanings -/

/-- What a name means as a command. -/
inductive Meaning where
  | keyword
  | aliasFor (text : String)
  | function
  | builtin (special : Bool)
  /-- A file; `known` says that it has been found before. -/
  | file (path : String) (known : Bool)
  | unknown
deriving DecidableEq, Repr

/-- What a name means as a command; a search path can be given. -/
def meaningOf (isKnown : String → Bool) (searchPath : Option String) (m : Machine)
    (name : String) : Meaning :=
  let p := m.process
  if (Keyword.ofText? name).isSome then .keyword
  else match p.aliases.lookup name with
    | some text => .aliasFor text
    | none =>
      if p.functions.any fun entry => entry.1 = name then .function
      else if isKnown name then .builtin (name ∈ specialCommands)
      else if '/' ∈ name.toList then
        if (m.kindAt true name) matches .ok _ then .file name false else .unknown
      else match if searchPath.isNone then p.located.lookup name else none with
        | some path => .file path true
        | none =>
          let paths := candidates (searchPath.getD m.searchPath) name
          match searchProgram m.workspace .notFound paths with
          | .ok (_, path) => .file path false
          | .error _ => .unknown

/-- What is said of the meaning of a name. -/
def Meaning.wording (name : String) : Meaning → String
  | .keyword => s!"{name} is a shell keyword"
  | .aliasFor text => s!"{name} is an alias for {text}"
  | .function => s!"{name} is a shell function"
  | .builtin true => s!"{name} is a special shell builtin"
  | .builtin false => s!"{name} is a shell builtin"
  | .file path true => s!"{name} is a tracked alias for {path}"
  | .file path false => s!"{name} is {path}"
  | .unknown => s!"{name}: not found"

/-- Says what a name means, in words or in short. -/
def describe (isKnown : String → Bool) (searchPath : Option String) (inWords : Bool)
    (name : String) : Run Nat := do
  let meaning := meaningOf isKnown searchPath (← get) name
  if inWords then Run.sayLine (meaning.wording name)
  else match meaning with
    | .aliasFor text => Run.sayLine s!"alias {aliasText (name, text)}"
    | .file path _ => Run.sayLine path
    | .unknown => pure ()
    | _ => Run.sayLine name
  pure (if meaning = .unknown then 127 else 0)

/-- Says what names mean. -/
def type_ (isKnown : String → Bool) : Builtin := fun arguments =>
  Run.forEach arguments (describe isKnown none true)

/-- Says what a name means when an option asks for it. -/
def command (isKnown : String → Bool) : Builtin := fun arguments => do
  let (options, names) ← takeOptions [('p', false), ('v', false), ('V', false)] arguments
  let asks (letter : Char) : Bool := options.any fun option => option.1 = letter
  match names with
  | name :: _ =>
    if asks 'v' || asks 'V' then
      describe isKnown (if asks 'p' then some programPath else none) (asks 'V') name
    else pure 0
  | [] => pure 0

end GoldenSuite.Shell.Builtin
