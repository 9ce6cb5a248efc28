import GoldenSuite.Shell.PathPattern
import GoldenSuite.Shell.Variables

/-!
# Expanding words

A word becomes a draft by putting values in the place of its substitutions; a draft becomes
fields by splitting, and fields that are patterns become the paths for which they stand. Where a
word is quoted nothing is split and no character means anything.
-/

namespace GoldenSuite.Shell

/-- How the output of a command is found. -/
abbrev Capture := Command → Run (List Char)

/-- For what a word is expanded. -/
structure Purpose where
  /-- It becomes fields. -/
  fields : Bool := false
  /-- A tilde at its start stands for a home directory. -/
  tilde : Bool := false
  /-- It is an assignment, in whose value a tilde can also stand after a colon. -/
  assignment : Bool := false
  /-- The value of the assignment has begun. -/
  inValue : Bool := false
  /-- It takes the place of the value of a parameter. -/
  inParameter : Bool := false
  quoted : Bool := false

namespace Purpose

/-- Whether what is plain in the word can be split. -/
def splits (purpose : Purpose) : Bool :=
  purpose.inParameter && !purpose.quoted

end Purpose

/-! ### Parameters -/

/-- The value of a parameter as cells, and how they are separated into arguments. -/
def joinedArguments (separator : Option Cell) (isQuoted : Bool) :
    List String → List Cell
  | [] => []
  | [last] => Cell.ofText isQuoted last.toList
  | argument :: others =>
    Cell.ofText isQuoted argument.toList ++ separator.toList ++
      joinedArguments separator isQuoted others

/-- The cell between the arguments when they stand together. -/
def argumentSeparator (m : Machine) (purpose : Purpose) (each : Bool) : Option Cell :=
  let first := match m.valueOf? "IFS" with
    | some text => text.toList.head?
    | none => some ' '
  if purpose.fields && purpose.quoted && each then some (.plain Draft.nul)
  else if purpose.fields && !purpose.quoted then
    some (.plain (if (m.valueOf? "IFS").isSome then Draft.nul else ' '))
  else first.map fun c => if purpose.quoted then .quoted c else .plain c

/-- The value of a parameter, if it has one. -/
def parameterCells (m : Machine) (purpose : Purpose) (name : String) : Option (List Cell) :=
  let p := m.process
  let text (value : String) : List Cell := Cell.ofText purpose.quoted value.toList
  match name with
  | "$" => some (text (toString p.root))
  | "?" => some (text (toString p.status))
  | "#" => some (text (toString p.arguments.length))
  | "!" => p.lastJob.map fun number => text (toString number)
  | "-" => some (text (String.ofList (Setting.letters p.settings)))
  | "@" =>
    some (joinedArguments (argumentSeparator m purpose true) purpose.quoted p.arguments)
  | "*" =>
    some (joinedArguments (argumentSeparator m purpose false) purpose.quoted p.arguments)
  | _ =>
    let digits := name.toList
    if digits.all Char.isDigit then
      match Arithmetic.digitsValue digits with
      | 0 => some (text p.name)
      | index + 1 => p.arguments[index]?.map text
    else (m.valueOf? name).map text

/-- Says that a parameter has no value. -/
def parameterMissing {α : Type} (name : String) (message : String) : Run α :=
  Run.giveUp s!"{name}: {message}"

/-- What is said when a parameter has no value and no message was given. -/
def missingWording (orEmpty : Bool) : String :=
  if orEmpty then "parameter not set or null" else "parameter not set"

namespace Draft

/-- Adds the value of a parameter and notes that it may be split. -/
def addValue (draft : Draft) (m : Machine) (purpose : Purpose) (name : String)
    (cells : List Cell) : Draft :=
  let start := draft.size
  let draft := { draft with cells := draft.cells ++ cells.toArray }
  if !purpose.quoted then draft.separate start false
  else if name = "@" && !m.process.arguments.isEmpty then draft.separate start true
  else draft

/-- Adds a text that is the output of a command or the value of an expression. -/
def addText (draft : Draft) (purpose : Purpose) (text : List Char) : Draft :=
  let start := draft.size
  let draft := draft.write purpose.quoted text
  if purpose.quoted then draft else draft.separate start false

end Draft

/-! ### Home directories -/

/-- The home directories of the users that every system has. -/
def homes : List (String × String) :=
  [("root", "/root"), ("daemon", "/usr/sbin"), ("bin", "/bin"), ("sys", "/dev"),
   ("sync", "/bin"), ("games", "/usr/games"), ("man", "/var/cache/man"), ("lp", "/var/spool/lpd"),
   ("mail", "/var/mail"), ("news", "/var/spool/news"), ("uucp", "/var/spool/uucp"),
   ("proxy", "/bin"), ("backup", "/var/backups"), ("list", "/var/list"), ("irc", "/run/ircd"),
   ("nobody", "/nonexistent")]

/-- The plain characters after a tilde that name a user; nothing when something else is among
them. -/
def userName? (purpose : Purpose) : Word → Option (List Char)
  | [] => some []
  | .plain c :: rest =>
    if c = '/' || (c = ':' && purpose.assignment) then some []
    else (userName? purpose rest).map (c :: ·)
  | _ :: _ => none

/-- The home directory that a tilde and the characters after it stand for, and how many
characters these are. -/
def home? (m : Machine) (purpose : Purpose) (rest : Word) : Option (String × Nat) :=
  match userName? purpose rest with
  | some [] => (m.valueOf? "HOME").map fun home => (home, 0)
  | some user => (homes.lookup (String.ofList user)).map fun home => (home, user.length)
  | none => none

/-! ### Expressions -/

/-- The value of an arithmetic expression; its assignments are carried out. -/
def arithmeticValue (text : List Char) : Run Int := do
  let m ← get
  let (value, assigned) := Arithmetic.evaluate m.valueOf? text
  assigned.reverse.forM fun pair => Run.assign pair.1 (toString pair.2)
  match value with
  | .ok value => pure value
  | .error .overflow => Run.die m.process.number 8
  | .error mistake => Run.giveUp (mistake.message text)

/-! ### Drafting -/

/-- Where the expansion of a word has got to. -/
structure Progress where
  draft : Draft
  /-- Whether the present part is in quotes. -/
  inQuotes : Bool := false
  /-- The first cell of a stretch of plain characters that may be split. -/
  stretch : Option Nat := none
  /-- Whether a tilde at this place stands for a home directory. -/
  atTilde : Bool := false
  inValue : Bool := false
  /-- How many parts have been dealt with already. -/
  skip : Nat := 0

namespace Progress

/-- Ends a stretch of plain characters. -/
def settle (progress : Progress) : Progress :=
  match progress.stretch with
  | some start =>
    { progress with draft := progress.draft.separate start false, stretch := none }
  | none => progress

/-- Adds a cell that is not plain. -/
def add (progress : Progress) (cell : Cell) : Progress :=
  let progress := progress.settle
  { progress with draft := progress.draft.push cell, atTilde := false }

/-- Adds a plain character. -/
def addPlain (progress : Progress) (purpose : Purpose) (c : Char) : Progress :=
  let begins := purpose.assignment && c = '=' && !progress.inValue
  let start := if purpose.splits && !progress.inQuotes then some progress.draft.size else none
  { progress with
    draft := progress.draft.push (.plain c)
    stretch := progress.stretch.or start
    atTilde := begins || (purpose.assignment && c = ':')
    inValue := progress.inValue || begins }

end Progress

mutual

/-- Expands parts of a word. -/
def draftParts (capture : Capture) (purpose : Purpose) : Progress → List Part → Run Draft
  | progress, [] => pure progress.settle.draft
  | progress, part :: rest => do
    match progress.skip with
    | skip + 1 => draftParts capture purpose { progress with skip } rest
    | 0 =>
      let m ← get
      let whole := match part, rest with
        | .mark, .parameter "@" .value false [] :: .mark :: _ => !progress.inQuotes
        | _, _ => false
      if whole then
        let cells := (parameterCells m { purpose with quoted := true } "@").getD []
        let progress := progress.settle
        let draft := progress.draft.addValue m { purpose with quoted := true } "@" cells
        draftParts capture purpose { progress with draft, atTilde := false, skip := 2 } rest
      else
        match part, progress.atTilde, home? m purpose rest with
        | .plain '~', true, some (home, count) =>
          let progress := progress.settle
          let draft := progress.draft.write true home.toList
          draftParts capture purpose { progress with draft, atTilde := false, skip := count } rest
        | .plain c, _, _ => draftParts capture purpose (progress.addPlain purpose c) rest
        | .quoted c, _, _ => draftParts capture purpose (progress.add (.quoted c)) rest
        | .mark, _, _ =>
          let progress := progress.add .mark
          draftParts capture purpose { progress with inQuotes := !progress.inQuotes } rest
        | part, _, _ => do
          let progress := progress.settle
          let inner := { purpose with
            quoted := purpose.quoted || progress.inQuotes, inValue := progress.inValue }
          let draft ← draftPart capture inner progress.draft part
          draftParts capture purpose { progress with draft, atTilde := false } rest

/-- Expands a substitution. -/
def draftPart (capture : Capture) (purpose : Purpose) (draft : Draft) : Part → Run Draft
  | .plain c => pure (draft.push (.plain c))
  | .quoted c => pure (draft.push (.quoted c))
  | .mark => pure (draft.push .mark)
  | .output command => do
    let text ← capture command
    let kept := (text.reverse.dropWhile (· = '\n')).reverse
    pure (draft.addText purpose kept)
  | .arithmetic expression => do
    let inner ← draftParts capture {} { draft := {} } expression
    let value ← arithmeticValue inner.text
    pure (draft.addText purpose (toString value).toList)
  | .parameter name use orEmpty word => do
    let m ← get
    let plain := { purpose with fields := false }
    let measured := match use with
      | .size => parameterCells m plain name
      | .instead => parameterCells m plain name
      | _ => parameterCells m purpose name
    let value := measured.filter fun cells => !(orEmpty && cells.isEmpty)
    let unset : Run Draft :=
      if m.has .nounset then parameterMissing name (missingWording false) else pure draft
    let inPlace : Run Draft :=
      draftParts capture { purpose with inParameter := true }
        { draft, atTilde := true, inValue := purpose.inValue } word
    let onItsOwn : Run Draft := draftParts capture {} { draft := {}, atTilde := true } word
    match use, value with
    | .senseless, _ => Run.giveUp "Bad substitution"
    | .value, some cells => pure (draft.addValue m purpose name cells)
    | .value, none => unset
    | .otherwise, some cells => pure (draft.addValue m purpose name cells)
    | .otherwise, none => inPlace
    | .instead, some _ => inPlace
    | .instead, none => pure draft
    | .required, some cells => pure (draft.addValue m purpose name cells)
    | .required, none => do
      let text := String.ofList (← onItsOwn).text
      parameterMissing name (if word.isEmpty then missingWording orEmpty else text)
    | .assigned, some cells => pure (draft.addValue m purpose name cells)
    | .assigned, none => do
      Run.assign name (String.ofList (← onItsOwn).text)
      let m ← get
      pure (draft.addValue m purpose name ((parameterCells m purpose name).getD []))
    | .size, some cells =>
      pure (draft.addValue m purpose name (Cell.ofText false (toString cells.length).toList))
    | .size, none => do
      if m.has .nounset then unset
      else pure (draft.addValue m purpose name [.plain '0'])
    | .withoutStart longest, some cells => do
      let pattern := Pattern.ofCells (← onItsOwn).cells.toList
      pure (draft.addValue m purpose name (Pattern.withoutStart longest pattern cells))
    | .withoutEnd longest, some cells => do
      let pattern := Pattern.ofCells (← onItsOwn).cells.toList
      pure (draft.addValue m purpose name (Pattern.withoutEnd longest pattern cells))
    | .withoutStart _, none => unset
    | .withoutEnd _, none => unset

end

/-! ### Words -/

/-- What a field stands for: the paths that match it when it is a pattern, and else itself. -/
def pathsOf (m : Machine) (field : List Cell) : List String :=
  let text := Cell.text field
  if m.has .noglob || !Pattern.isActive text then [String.ofList text]
  else match PathPattern.paths m.workspace (Pattern.ofCells field) with
    | [] => [String.ofList text]
    | found => found

namespace Word

def fields (capture : Capture) (word : Word) : Run (List String) := do
  let draft ← draftParts capture { fields := true } { draft := {}, atTilde := true } word
  let m ← get
  pure ((draft.fields m.separators none).flatMap (pathsOf m))

/-- The text of a word that is not split. -/
def text (capture : Capture) (word : Word) : Run String := do
  let draft ← draftParts capture {} { draft := {}, atTilde := true } word
  pure (String.ofList draft.text)

def assignmentText (capture : Capture) (word : Word) : Run String := do
  let draft ← draftParts capture { assignment := true } { draft := {} } word
  pure (String.ofList draft.text)

/-- The text of a document, in which nothing is split and no quotation counts. -/
def documentText (capture : Capture) (word : Word) : Run String := do
  let draft ← draftParts capture { quoted := true } { draft := {} } word
  pure (String.ofList draft.text)

/-- The pattern that a word stands for. -/
def pattern (capture : Capture) (word : Word) : Run (List Char) := do
  let draft ← draftParts capture {} { draft := {}, atTilde := true } word
  pure (Pattern.ofCells draft.cells.toList)

def allFields (capture : Capture) (words : List Word) : Run (List String) := do
  pure (← words.mapM (fields capture)).flatten

end Word

end GoldenSuite.Shell
