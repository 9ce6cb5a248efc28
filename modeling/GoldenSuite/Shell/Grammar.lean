import GoldenSuite.Shell.Token

/-!
# The grammar of scripts

Commands are read from tokens by recursive descent, one line of a script after the other, so
that what comes before a line that cannot be read is still run. A keyword is one only where a
command can start, and an alias is replaced only there.
-/

namespace GoldenSuite.Shell

/-- The names of the commands that no function can replace. -/
def specialCommands : List String :=
  [":", ".", "break", "continue", "eval", "exec", "exit", "export", "local", "readonly", "return",
   "set", "shift", "times", "trap", "unset"]

/-- Whether a token ends a list of commands within another command. -/
def Token.endsList : Token → Bool
  | .ending => true
  | .closeParen => true
  | .caseBreak => true
  | .keyword which =>
    which ∈ [.do_, .done, .elif, .else_, .esac, .fi, .then_, .closeBrace]
  | _ => false

/-- How a list of commands is read. -/
inductive Extent where
  /-- Up to the end of a line. -/
  | line
  /-- Within another command, with a command in it. -/
  | body
  /-- Within another command; there may be no command in it. -/
  | optional
deriving DecidableEq, Repr

/-- What was read from a script. -/
inductive Parsed where
  | command (command : Command)
  /-- A line without a command. -/
  | nothing
  | ended

namespace Reading

/-- Stops at a token that should not be there. -/
def refuse {α : Type} (expected : Option Token) : Reading α := do
  fail (.unexpected (← get).token expected)

/-- The checks where a command can start. -/
def atCommand : Checks :=
  { keywords := true, aliases := true }

/-- The checks where a command can start, maybe on a later line. -/
def atLaterCommand : Checks :=
  { lines := true, keywords := true, aliases := true }

def require (nested : Nested) (expected : Token) : Reading Unit := do
  if (← token nested) ≠ expected then refuse (some expected)

/-- Reads a token that has to be a certain keyword. -/
def requireKeyword (nested : Nested) (which : Keyword) : Reading Unit :=
  require nested (.keyword which)

/-- Reads the word of a redirection. -/
def target (nested : Nested) (lead : Lead) : Reading Redirection := do
  match lead with
  | .document _ _ => expect { delimiter := true }
  | _ => pure ()
  if (← token nested) ≠ .word then refuse none
  let r ← get
  match lead with
  | .file descriptor opening => pure (.file descriptor opening r.word)
  | .duplicate descriptor => pure (.duplicate descriptor r.word)
  | .document descriptor withoutTabs =>
    let number := r.nextDocument
    let awaited :=
      { number, delimiter := Word.unquoted r.word, literal := r.quoted, withoutTabs }
    set { r with awaited := r.awaited ++ [awaited], nextDocument := number + 1 }
    pure (.document descriptor number)

/-- Reads the redirections that follow a command. -/
def redirections (nested : Nested) : Nat → List Redirection → Reading (List Redirection)
  | 0, found => pure found.reverse
  | fuel + 1, found => do
    if (← token nested) = .redirection then
      let redirection ← target nested (← get).lead
      redirections nested fuel (redirection :: found)
    else
      unread
      pure found.reverse

/-- Reads words as long as there are any. -/
def words (nested : Nested) : Nat → List Word → Reading (List Word)
  | 0, found => pure found.reverse
  | fuel + 1, found => do
    if (← token nested) = .word then words nested fuel ((← get).word :: found)
    else pure found.reverse

/-- Reads the patterns of a case, the first one of which has been read already, and the
parenthesis after them. -/
def patterns (nested : Nested) : Nat → List Word → Reading (List Word)
  | 0, found => pure found.reverse
  | fuel + 1, found => do
    let found := (← get).word :: found
    match ← token nested with
    | .pipe => do
      discard (token nested)
      patterns nested fuel found
    | .closeParen => pure found.reverse
    | _ => refuse (some .closeParen)

/-- The parts of a simple command that have been read, each list the last one first. -/
structure Simple where
  assignments : List Word := []
  words : List Word := []
  redirections : List Redirection := []

/-- Reads the parts of a simple command. Also, the name of the function when it turns out to be
the head of a definition. -/
def simple (nested : Nested) : Nat → Simple → Reading (Simple × Option Word)
  | 0, found => pure (found, none)
  | fuel + 1, found => do
    let start := found.words.isEmpty
    expect { aliases := start }
    match ← token nested with
    | .word => do
      let word := (← get).word
      if start && word.isAssignment then
        simple nested fuel { found with assignments := word :: found.assignments }
      else simple nested fuel { found with words := word :: found.words }
    | .redirection => do
      let redirection ← target nested (← get).lead
      simple nested fuel { found with redirections := redirection :: found.redirections }
    | .openParen =>
      match found with
      | { assignments := [], words := [name], redirections := [] } => do
        require nested .closeParen
        pure (found, some name)
      | _ => do
        unread
        pure (found, none)
    | _ => do
      unread
      pure (found, none)

/-- The name of a function that is being defined. -/
def functionName (word : Word) : Reading String := do
  match word.plainText? with
  | some chars =>
    let name := String.ofList chars
    if isName chars && name ∉ specialCommands then pure name else fail .functionName
  | none => fail .functionName

mutual

/-- Reads a list of commands. -/
def commands : Nat → Extent → Option Command → Reading Parsed
  | 0, _, _ => pure .ended
  | fuel + 1, extent, before => do
    let nested := Nested.mk (enclosed fuel) (whole fuel)
    expect (if extent = .line then atCommand else atLaterCommand)
    let first ← token nested
    if first = .newline then do
      documents nested
      pure (ofOption before)
    else if first = .ending then do
      documents nested
      unread
      discard (found .ending)
      pure (if before.isNone && extent = .line then .ended else ofOption before)
    else
      unread
      if extent = .optional && first.endsList then pure (ofOption before)
      else
        let command ← alternatives fuel
        let separator ← token nested
        let command := if separator = .ampersand then .background command else command
        let command := Command.after before command
        match separator with
        | .ending => do
          documents nested
          unread
          pure (.command command)
        | .newline => do
          unread
          commands fuel (later extent) (some command)
        | .ampersand => commands fuel (later extent) (some command)
        | .semicolon => commands fuel (later extent) (some command)
        | _ =>
          if extent = .line then refuse none
          else
            unread
            pure (.command command)
where
  /-- What was read when there may be no command. -/
  ofOption : Option Command → Parsed
    | some command => .command command
    | none => .nothing
  /-- How the rest of a list is read after its first command. -/
  later : Extent → Extent
    | .line => .line
    | _ => .optional

def list : Nat → Extent → Reading Command
  | 0, _ => pure .nothing
  | fuel + 1, extent => do
    match ← commands fuel extent none with
    | .command command => pure command
    | _ => pure .nothing

/-- Reads a list of commands up to its closing parenthesis. Documents that are awaited there are
empty. -/
def enclosed : Nat → Reading Command
  | 0 => pure .nothing
  | fuel + 1 => do
    let outside := (← get).awaited
    modify fun r => { r with awaited := [] }
    let command ← list fuel .optional
    require (Nested.mk (enclosed fuel) (whole fuel)) .closeParen
    let empty (a : Awaited) : Document := { number := a.number, parts := [] }
    modify fun r =>
      { r with
        documents := r.awaited.map empty ++ r.documents, awaited := outside, again := false }
    pure command

/-- Reads the list of commands that a text starts with. -/
def whole : Nat → Reading Command
  | 0 => pure .nothing
  | fuel + 1 => list fuel .optional

/-- Reads pipelines of which one is run depending on the one before it. -/
def alternatives : Nat → Reading Command
  | 0 => pure .nothing
  | fuel + 1 => do moreAlternatives fuel (← pipeline fuel)

/-- Goes on reading after a first pipeline. -/
def moreAlternatives : Nat → Command → Reading Command
  | 0, first => pure first
  | fuel + 1, first => do
    let nested := Nested.mk (enclosed fuel) (whole fuel)
    match ← token nested with
    | .bothAnd => do
      expect atLaterCommand
      moreAlternatives fuel (.either true first (← pipeline fuel))
    | .eitherOr => do
      expect atLaterCommand
      moreAlternatives fuel (.either false first (← pipeline fuel))
    | _ => do
      unread
      pure first

def pipeline : Nat → Reading Command
  | 0 => pure .nothing
  | fuel + 1 => do
    let nested := Nested.mk (enclosed fuel) (whole fuel)
    let negated := (← token nested) = .keyword .not
    if negated then expect atCommand else unread
    let first ← command fuel
    let others ← piped fuel []
    let inner := if others.isEmpty then first else .pipeline (first :: others)
    pure (if negated then .negated inner else inner)

/-- Reads the commands of a pipeline after the first one. -/
def piped : Nat → List Command → Reading (List Command)
  | 0, found => pure found.reverse
  | fuel + 1, found => do
    let nested := Nested.mk (enclosed fuel) (whole fuel)
    if (← token nested) = .pipe then
      expect atLaterCommand
      piped fuel ((← command fuel) :: found)
    else
      unread
      pure found.reverse

def command : Nat → Reading Command
  | 0 => pure .nothing
  | fuel + 1 => do
    let nested := Nested.mk (enclosed fuel) (whole fuel)
    let line := (← get).source.line
    match ← token nested with
    | .keyword .if_ => do
      let inner ← branch fuel
      requireKeyword nested .fi
      withRedirections fuel line inner
    | .keyword .while_ => do withRedirections fuel line (← loop fuel true)
    | .keyword .until_ => do withRedirections fuel line (← loop fuel false)
    | .keyword .for_ => do withRedirections fuel line (← each fuel line)
    | .keyword .case => do withRedirections fuel line (← choice fuel line)
    | .openParen => do
      let inner ← list fuel .body
      require nested .closeParen
      expect atCommand
      pure (.subshell line inner (← redirections nested plenty []))
    | .keyword .openBrace => do
      let inner ← list fuel .body
      requireKeyword nested .closeBrace
      withRedirections fuel line inner
    | .word => do
      unread
      simpleCommand fuel
    | .redirection => do
      unread
      simpleCommand fuel
    | _ => refuse none

/-- Reads the redirections after a command that has been read. They take the place of those of a
subshell that stands alone in braces. -/
def withRedirections : Nat → Nat → Command → Reading Command
  | 0, _, inner => pure inner
  | fuel + 1, line, inner => do
    expect atCommand
    match ← redirections (Nested.mk (enclosed fuel) (whole fuel)) plenty [], inner with
    | [], _ => pure inner
    | found, .subshell line inner _ => pure (.subshell line inner found)
    | found, _ => pure (.redirected line inner found)

/-- Reads a branch after its keyword. -/
def branch : Nat → Reading Command
  | 0 => pure .nothing
  | fuel + 1 => do
    let nested := Nested.mk (enclosed fuel) (whole fuel)
    let test ← list fuel .body
    requireKeyword nested .then_
    let yes ← list fuel .body
    match ← token nested with
    | .keyword .elif => do pure (.branch test yes (← branch fuel))
    | .keyword .else_ => do pure (.branch test yes (← list fuel .body))
    | _ => do
      unread
      pure (.branch test yes .nothing)

/-- Reads a loop after its keyword. -/
def loop : Nat → Bool → Reading Command
  | 0, _ => pure .nothing
  | fuel + 1, whileTrue => do
    let nested := Nested.mk (enclosed fuel) (whole fuel)
    let test ← list fuel .body
    requireKeyword nested .do_
    let body ← list fuel .body
    requireKeyword nested .done
    pure (.loop whileTrue test body)

/-- Reads a loop over words after its keyword. -/
def each : Nat → Nat → Reading Command
  | 0, _ => pure .nothing
  | fuel + 1, line => do
    let nested := Nested.mk (enclosed fuel) (whole fuel)
    let first ← token nested
    let r ← get
    match first, r.quoted, r.word.plainText? with
    | .word, false, some name =>
      if !isName name then fail .loopName
      else
        expect atLaterCommand
        let texts ← do
          if (← token nested) = .keyword .in_ then
            let texts ← words nested plenty []
            if (← get).token ∉ [.newline, .semicolon] then refuse none
            pure texts
          else
            if (← get).token ≠ .semicolon then unread
            pure [Word.allArguments]
        expect atLaterCommand
        requireKeyword nested .do_
        let body ← list fuel .body
        requireKeyword nested .done
        pure (.each line (String.ofList name) texts body)
    | _, _, _ => fail .loopName

/-- Reads a choice after its keyword. -/
def choice : Nat → Nat → Reading Command
  | 0, _ => pure .nothing
  | fuel + 1, line => do
    let nested := Nested.mk (enclosed fuel) (whole fuel)
    require nested .word
    let subject := (← get).word
    expect atLaterCommand
    requireKeyword nested .in_
    pure (.choice line subject (← cases fuel []))

/-- Reads the cases of a choice. -/
def cases : Nat → List (List Word × Command) → Reading (List (List Word × Command))
  | 0, found => pure found.reverse
  | fuel + 1, found => do
    let nested := Nested.mk (enclosed fuel) (whole fuel)
    expect { lines := true, keywords := true }
    let first ← token nested
    if first = .keyword .esac then pure found.reverse
    else
      if first = .openParen then discard (token nested)
      let texts ← patterns nested plenty []
      let body ← list fuel .optional
      let found := (texts, body) :: found
      expect { lines := true, keywords := true }
      match ← token nested with
      | .keyword .esac => pure found.reverse
      | .caseBreak => cases fuel found
      | _ => refuse (some .caseBreak)

/-- Reads a simple command or the definition of a function. -/
def simpleCommand : Nat → Reading Command
  | 0 => pure .nothing
  | fuel + 1 => do
    let nested := Nested.mk (enclosed fuel) (whole fuel)
    let line := (← get).source.line
    match ← simple nested plenty {} with
    | (_, some word) => do
      let name ← functionName word
      expect atLaterCommand
      let line := (← get).source.line
      pure (.definition line name (← command fuel))
    | (found, none) =>
      pure (.simple line found.assignments.reverse found.words.reverse
        found.redirections.reverse)

end

end Reading

/-! ### Reading one command after the other -/

/-- How deep commands may be nested. -/
def Reader.depth : Nat := Nat.pow 2 40

def Reader.ofText (text : List Char) : Reader :=
  { source := { base := text } }

/-- Reads the next line of a script with all that belongs to it. -/
def Reader.line (r : Reader) : Except Unreadable Parsed × Reader :=
  let fresh := { r with again := false, checks := {}, awaited := [], documents := [] }
  match Reading.commands Reader.depth .line none fresh with
  | .ok parsed after => (.ok parsed, after)
  | .error unreadable after => (.error unreadable, after)

/-- Reads a text as one that stands in double quotes. -/
def Reading.quoted : Reading Word := do
  let nested := Nested.mk (Reading.enclosed depth) (Reading.whole depth)
  let goal := Goal.document [Char.ofNat 0] false
  let (w, _) ← Weaving.weave nested goal Reading.plenty (.start .double) (← Reading.joined) false
  w.check goal
  pure w.parts.reverse
where
  depth : Nat := Reader.depth

/-- The word that a text is in double quotes. `exhausted` says that the token that is used next is
the end of the script around it; also, whether this is still so. -/
def Word.ofQuoted (exhausted : Bool) (text : List Char) : Except Unreadable Word × Bool :=
  let fresh := Reader.ofText text
  let start := if exhausted then { fresh with again := true, token := .ending } else fresh
  match Reading.quoted start with
  | .ok word after => (.ok word, after.again)
  | .error unreadable after => (.error unreadable, after.again)

/-- Whether a script has come to its end with the last line that was read. -/
def Reader.atEnd (r : Reader) : Bool :=
  r.again && r.token = .ending

end GoldenSuite.Shell
