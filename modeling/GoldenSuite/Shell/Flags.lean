import GoldenSuite.Shell.Mention
import GoldenSuite.Shell.Speech

/-!
# The options of programs

Options may stand anywhere among the arguments of a program, up to two hyphens. One is written as
a letter, several letters together, or as a name, of which only so much is needed as tells it
apart. A value is attached or is the next argument.
-/

namespace GoldenSuite.Shell

/-- Whether an option comes with a value. -/
inductive Demand where
  | never
  | optional
  | always
deriving DecidableEq, Repr

/-- An option of a program. Options with the same key are the same. -/
structure Flag where
  key : String
  letters : List Char := []
  names : List String := []
  value : Demand := .never
deriving DecidableEq, Repr

/-- The options that every program has. -/
def commonFlags : List Flag :=
  [{ key := "help", names := ["help"] }, { key := "version", names := ["version"] }]

/-- What arguments ask for. -/
structure Call where
  /-- The keys of the options with their values, the last one first. -/
  flags : List (String × String) := []
  operands : List String := []

/-- Why arguments cannot be understood. -/
inductive Misuse where
  | unknownLetter (letter : Char)
  | unknownName (text : String)
  | ambiguous (text : String) (names : List String)
  | needless (name : String)
  | valueOfLetter (letter : Char)
  | valueOfName (name : String)
deriving DecidableEq, Repr

/-- The wording of a misuse. -/
def Misuse.message : Misuse → String
  | .unknownLetter letter => s!"invalid option -- '{letter}'"
  | .unknownName text => s!"unrecognized option '--{text}'"
  | .ambiguous text names =>
    s!"option '--{text}' is ambiguous; possibilities:" ++
      String.join (names.map fun name => s!" '--{name}'")
  | .needless name => s!"option '--{name}' doesn't allow an argument"
  | .valueOfLetter letter => s!"option requires an argument -- '{letter}'"
  | .valueOfName name => s!"option '--{name}' requires an argument"

namespace Call

/-- Whether an option is given. -/
def has (call : Call) (key : String) : Bool :=
  call.flags.any fun flag => flag.1 = key

def value? (call : Call) (key : String) : Option String :=
  call.flags.lookup key

/-- The last one of these options that is given. -/
def last? (call : Call) (keys : List String) : Option String :=
  (call.flags.find? fun flag => flag.1 ∈ keys).map Prod.fst

/-- Takes in an option. -/
def give (call : Call) (key value : String) : Call :=
  { call with flags := (key, value) :: call.flags }

/-- The option that the start of a name stands for, with its whole name. -/
def named (known : List Flag) (text : String) : Except Misuse (Flag × String) :=
  let pairs := known.flatMap fun flag => flag.names.map fun name => (flag, name)
  match pairs.find? fun pair => pair.2 = text with
  | some found => .ok found
  | none =>
    match pairs.filter fun pair => text.toList.isPrefixOf pair.2.toList with
    | [] => .error (.unknownName text)
    | first :: others =>
      if others.all fun other => other.1.key = first.1.key then .ok first
      else .error (.ambiguous text ((first :: others).map Prod.snd))

/-- Takes in letters. The value of one is what follows it, or else the next argument; whether
that has been used is told. -/
def takeLetters (known : List Flag) (next : Option String) (call : Call) :
    List Char → Except Misuse (Call × Bool)
  | [] => .ok (call, false)
  | letter :: rest =>
    match known.find? fun flag => letter ∈ flag.letters with
    | none => .error (.unknownLetter letter)
    | some flag =>
      match flag.value, rest, next with
      | .always, [], none => .error (.valueOfLetter letter)
      | .always, [], some value => .ok (call.give flag.key value, true)
      | .always, value, _ => .ok (call.give flag.key (String.ofList value), false)
      | _, _, _ => takeLetters known next (call.give flag.key "") rest

/-- Takes in a name with the value that is attached to it. The value can also be the next
argument; whether that has been used is told. -/
def takeName (known : List Flag) (next : Option String) (call : Call) (text : List Char) :
    Except Misuse (Call × Bool) := do
  let start := text.takeWhile (· ≠ '=')
  let attached := if start.length < text.length then
      some (String.ofList (text.drop (start.length + 1)))
    else none
  let (flag, name) ← named known (String.ofList start)
  match flag.value, attached, next with
  | .never, some _, _ => throw (.needless name)
  | .always, none, none => throw (.valueOfName name)
  | .always, none, some value => pure (call.give flag.key value, true)
  | _, attached, _ => pure (call.give flag.key (attached.getD ""), false)

/-- Takes in arguments; `skip` says that the first one has been used already. -/
def takeAll (known : List Flag) (skip : Bool) (call : Call) :
    List String → Except Misuse Call
  | [] => .ok call
  | argument :: rest =>
    if skip then takeAll known false call rest
    else match argument.toList with
      | ['-', '-'] => .ok { call with operands := call.operands ++ rest }
      | '-' :: '-' :: text => do
        let (call, used) ← call.takeName known rest.head? text
        takeAll known used call rest
      | '-' :: letter :: letters => do
        let (call, used) ← call.takeLetters known rest.head? (letter :: letters)
        takeAll known used call rest
      | _ => takeAll known false { call with operands := call.operands ++ [argument] } rest

/-- What arguments ask for. -/
def ofArguments (known : List Flag) (arguments : List String) : Except Misuse Call :=
  takeAll (known ++ commonFlags) false {} arguments

end Call

namespace Run

/-- Says where a program explains how it is called. -/
def sendForHelp (name : String) : Run Nat :=
  refuse 1 s!"Try '{name} --help' for more information."

/-- Says that a program has been called in a wrong way. -/
def misused (name problem : String) : Run Nat := do
  object name problem
  sendForHelp name

/-- Goes on with what the arguments of a program ask for, unless they make no sense or ask how it
is called. -/
def withCall (name : String) (known : List Flag) (arguments : List String)
    (body : Call → Run Nat) : Run Nat :=
  match Call.ofArguments known arguments with
  | .error misuse => misused name misuse.message
  | .ok call => if call.has "help" || call.has "version" then pure 0 else body call

end Run

end GoldenSuite.Shell
