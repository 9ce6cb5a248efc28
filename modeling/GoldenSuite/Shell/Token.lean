import GoldenSuite.Shell.Source

/-!
# Tokens of scripts

A script is read token by token: operators, redirections and words. What a character means in a
word depends on the quotation around it, and a word can hold commands, which are read in the
middle of it; how a command is read is a parameter of this module. A word is woven together from
its parts: each substitution that is opened holds the parts before it until it is closed.
-/

namespace GoldenSuite.Shell

/-! ### Tokens and what can be wrong -/

/-- A token of a script. Which word or redirection it is, the reader keeps. -/
inductive Token where
  | ending
  | newline
  | semicolon
  | ampersand
  | bothAnd
  | eitherOr
  | pipe
  | openParen
  | closeParen
  | caseBreak
  | redirection
  | word
  | keyword (which : Keyword)
deriving DecidableEq, Repr

/-- How a token is called in a message. -/
def Token.description : Token → String
  | .ending => "end of file"
  | .newline => "newline"
  | .semicolon => "\";\""
  | .ampersand => "\"&\""
  | .bothAnd => "\"&&\""
  | .eitherOr => "\"||\""
  | .pipe => "\"|\""
  | .openParen => "\"(\""
  | .closeParen => "\")\""
  | .caseBreak => "\";;\""
  | .redirection => "redirection"
  | .word => "word"
  | .keyword which => "\"" ++ which.text ++ "\""

/-- Why a script cannot be read on. -/
inductive Confusion where
  | unexpected (found : Token) (expected : Option Token)
  | openQuotation
  | openParameter
  | openArithmetic
  | openOutput
  | loopName
  | functionName
deriving DecidableEq, Repr

/-- The wording of what is wrong. -/
def Confusion.message : Confusion → String
  | .unexpected found none => s!"{found.description} unexpected"
  | .unexpected found (some expected) =>
    s!"{found.description} unexpected (expecting {expected.description})"
  | .openQuotation => "Unterminated quoted string"
  | .openParameter => "Missing '\x7d'"
  | .openArithmetic => "Missing '))'"
  | .openOutput => "EOF in backquote substitution"
  | .loopName => "Bad for loop variable"
  | .functionName => "Bad function name"

/-- What is wrong with a script, and on which line. -/
structure Unreadable where
  line : Nat
  confusion : Confusion
deriving DecidableEq, Repr

/-! ### The reader -/

/-- What the next token is looked at for. -/
structure Checks where
  /-- Line ends before it are passed over. -/
  lines : Bool := false
  keywords : Bool := false
  aliases : Bool := false
  /-- It ends a document, and stands for itself. -/
  delimiter : Bool := false

/-- What either one asks for. -/
def Checks.union (a b : Checks) : Checks where
  lines := a.lines || b.lines
  keywords := a.keywords || b.keywords
  aliases := a.aliases || b.aliases
  delimiter := a.delimiter || b.delimiter

/-- The start of a redirection. -/
inductive Lead where
  | file (descriptor : Nat) (opening : Opening)
  | duplicate (descriptor : Nat)
  | document (descriptor : Nat) (withoutTabs : Bool)

/-- A document that is to follow after the line. -/
structure Awaited where
  number : Nat
  delimiter : List Char
  /-- Whether everything in it stands for itself. -/
  literal : Bool
  withoutTabs : Bool

/-- The state in which a script is read. -/
structure Reader where
  source : Source
  aliases : List (String × String) := []
  /-- The aliases that are not replaced. -/
  busy : List String := []
  /-- The aliases that are busy only up to the next character. -/
  released : List String := []
  checks : Checks := {}
  /-- Whether the last token is to be read again. -/
  again : Bool := false
  token : Token := .ending
  word : Word := []
  /-- Whether a part of the word is quoted. -/
  quoted : Bool := false
  lead : Lead := .duplicate 0
  awaited : List Awaited := []
  documents : List Document := []
  /-- The number of the next document. -/
  nextDocument : Nat := 0

/-- A step of reading, which may find that the script cannot be read. -/
abbrev Reading (α : Type) := EStateM Unreadable Reader α

namespace Reading

/-- More steps than any script takes to be read. -/
def plenty : Nat := Nat.pow 2 40

/-- Stops because the script cannot be read on. -/
def fail {α : Type} (confusion : Confusion) : Reading α := do
  throw { line := (← get).source.line, confusion }

def next : Reading (Option Char) := do
  let r ← get
  let drawn := r.source.draw
  let checks := if drawn.blank then { r.checks with aliases := true } else r.checks
  set { r with
    source := drawn.source, checks
    busy := r.busy.filter (· ∉ r.released), released := drawn.ended }
  pure drawn.char

/-- Puts back what was read. -/
def back : Option Char → Reading Unit
  | some c => modify fun r => { r with source := r.source.putBack c }
  | none => pure ()

/-- Notes that a line has come to its end. -/
def endLine : Reading Unit :=
  modify fun r => { r with source := { r.source with line := r.source.line + 1 } }

/-- Reads a character after passing over line ends that a backslash takes away. -/
def joinedWithin : Nat → Reading (Option Char)
  | 0 => pure none
  | fuel + 1 => do
    match ← next with
    | some '\\' =>
      match ← next with
      | some '\n' => do
        endLine
        joinedWithin fuel
      | other => do
        back other
        pure (some '\\')
    | other => pure other

/-- Reads a character after passing over line ends that a backslash takes away. -/
def joined : Reading (Option Char) :=
  joinedWithin plenty

/-- Reads characters as long as a test lets them through, from the given one on: those, the last
one first, and the one after them. -/
def span (test : Char → Bool) : Nat → List Char → Option Char → Reading (List Char × Option Char)
  | 0, found, c => pure (found, c)
  | fuel + 1, found, c =>
    match c with
    | some c =>
      if test c then do span test fuel (c :: found) (← joined) else pure (found, some c)
    | none => pure (found, none)

end Reading

/-! ### Quotation -/

/-- The quotation that characters are in. -/
inductive Quotation where
  | bare
  | double
  | single
  | arithmetic
deriving DecidableEq, Repr

/-- What a character is for a quotation. -/
inductive Role where
  | ordinary
  /-- It would mean something if it were not quoted. -/
  | guarded
  | newline
  | backslash
  | singleQuote
  | doubleQuote
  | endQuote
  | dollar
  | backquote
  | closeBrace
  | openParen
  | closeParen
  /-- It ends a word. -/
  | separator
deriving DecidableEq, Repr

/-- The characters that a quotation guards. -/
def guarded : List Char :=
  ['!', '*', '?', '[', '=', '~', ':', '/', '-', ']']

def Quotation.role (quotation : Quotation) (c : Char) : Role :=
  match quotation, c with
  | _, '\n' => .newline
  | .single, '\'' => .endQuote
  | .single, '\\' => .guarded
  | .single, c => if c ∈ guarded then .guarded else .ordinary
  | _, '\\' => .backslash
  | _, '$' => .dollar
  | _, '\x60' => .backquote
  | _, '\x7d' => .closeBrace
  | .double, '"' => .endQuote
  | .double, c => if c ∈ guarded then .guarded else .ordinary
  | .arithmetic, '(' => .openParen
  | .arithmetic, ')' => .closeParen
  | .arithmetic, _ => .ordinary
  | .bare, '\'' => .singleQuote
  | .bare, '"' => .doubleQuote
  | .bare, c =>
    if c ∈ ['<', '>', '(', ')', ';', '&', '|', ' ', '\t'] then .separator else .ordinary

/-- A stretch of a word within one substitution: its quotation and what is open in it. -/
structure Stretch where
  quotation : Quotation
  /-- How many parameters are open. -/
  parameters : Nat := 0
  /-- How many of them were opened in double quotes. -/
  quotedParameters : Nat := 0
  /-- How many parentheses are open. -/
  parentheses : Nat := 0
  /-- Whether the stretch is in double quotes. -/
  double : Bool := false
  /-- Whether double quotes are open within a parameter. -/
  inner : Bool := false
  /-- Whether the stretch ends with its first parameter. -/
  forParameter : Bool := false

/-- A substitution that is open, with the parts before it, the last one first. -/
inductive Opened where
  | parameter (name : String) (use : Use) (orEmpty : Bool) (before : List Part)
  | arithmetic (before : List Part)

/-- A word as far as it has been read. -/
structure Weaving where
  stretch : Stretch
  outer : List Stretch := []
  /-- The parts of the innermost open substitution, the last one first. -/
  parts : List Part := []
  opened : List Opened := []
  /-- Whether something in it is quoted. -/
  quoted : Bool := false

namespace Weaving

/-- The start of a word in a quotation. -/
def start (quotation : Quotation) : Weaving :=
  { stretch := { quotation, double := quotation = .double } }

/-- Adds a part. -/
def add (w : Weaving) (part : Part) : Weaving :=
  { w with parts := part :: w.parts }

/-- Starts another stretch within the word. -/
def enter (w : Weaving) (stretch : Stretch) : Weaving :=
  { w with stretch, outer := w.stretch :: w.outer }

/-- Goes back to the stretch around the present one. -/
def leave (w : Weaving) : Weaving :=
  match w.outer with
  | stretch :: outer => { w with stretch, outer }
  | [] => w

def openParameter (w : Weaving) (name : String) (use : Use) (orEmpty : Bool) : Weaving :=
  { w with parts := [], opened := .parameter name use orEmpty w.parts :: w.opened }

/-- Opens an arithmetic expression. -/
def openArithmetic (w : Weaving) : Weaving :=
  { w with parts := [], opened := .arithmetic w.parts :: w.opened }

/-- Closes the innermost open substitution. -/
def close (w : Weaving) : Weaving :=
  match w.opened with
  | .parameter name use orEmpty before :: opened =>
    { w with parts := .parameter name use orEmpty w.parts.reverse :: before, opened }
  | .arithmetic before :: opened =>
    { w with parts := .arithmetic w.parts.reverse :: before, opened }
  | [] => w

/-- Changes the present stretch. -/
def adjust (w : Weaving) (change : Stretch → Stretch) : Weaving :=
  { w with stretch := change w.stretch }

/-- Reads the next character of a word. Only within single quotes a line end after a backslash
stays. -/
def next (w : Weaving) : Reading (Option Char) :=
  if w.stretch.quotation = .single then Reading.next else Reading.joined

end Weaving

/-- What is read: a word, or a document up to the line with its delimiter. -/
inductive Goal where
  | word
  | document (delimiter : List Char) (withoutTabs : Bool)

namespace Goal

/-- Whether a document is read. -/
def isDocument : Goal → Bool
  | word => false
  | document _ _ => true

/-- Passes over tabs. -/
def withoutTabs : Nat → Option Char → Reading (Option Char)
  | 0, c => pure c
  | fuel + 1, c => if c = some '\t' then do withoutTabs fuel (← Reading.next) else pure c

/-- Reads on as long as characters agree with a text: how many did, the last one first, and the
character after them. -/
def agreeing : List Char → List Char → Option Char → Reading (Bool × List Char × Option Char)
  | [], found, c => pure (true, found, c)
  | expected :: others, found, c =>
    if c = some expected then do agreeing others (expected :: found) (← Reading.next)
    else pure (false, found, c)

/-- At the start of a line, with its first character: the end of the document when the line is
its delimiter. -/
def lineStart (goal : Goal) (c : Option Char) : Reading (Option Char) :=
  match goal with
  | word => pure c
  | document delimiter tabs => do
    let first ← if tabs then withoutTabs Reading.plenty c else pure c
    let (whole, found, after) ← agreeing delimiter [] first
    if whole && (after = none || after = some '\n') then do
      Reading.endLine
      pure none
    else
      match found.reverse with
      | [] => pure first
      | _ :: others => do
        Reading.back after
        others.reverse.forM fun c => Reading.back (some c)
        pure first

end Goal

/-! ### Substitutions -/

/-- How commands within a word are read. -/
structure Nested where
  /-- A command up to its closing parenthesis. -/
  enclosed : Reading Command
  /-- The command that a text of its own starts with. -/
  whole : Reading Command

namespace Weaving

/-- Whether a character is the name of a parameter that the shell keeps. -/
def isSpecial (c : Char) : Bool :=
  c ∈ ['#', '?', '$', '!', '-', '*', '@'] || c.isDigit

/-- The name of a parameter as it is read. -/
structure Named where
  name : String
  /-- Whether its size is asked for. -/
  size : Bool := false
  sensible : Bool := true
  /-- The character after the name. -/
  following : Option Char

/-- Reads a name or a number from its first character on. -/
def wordName (several size : Bool) (c : Char) : Reading Named := do
  if startsName c then
    let (found, following) ← Reading.span inName Reading.plenty [] (some c)
    pure { name := String.ofList found.reverse, size, following }
  else if several then
    let (found, following) ← Reading.span Char.isDigit Reading.plenty [] (some c)
    pure { name := String.ofList found.reverse, size, following }
  else pure { name := String.singleton c, size, following := ← Reading.joined }

/-- Reads a name after a mark that may ask for a size. -/
def sizeName : Reading Named := do
  let c ← Reading.joined
  match c with
  | some first =>
    if first = '_' || first.isAlphanum then wordName true true first
    else
      let after ← Reading.joined
      if first = '\x7d' || after ≠ some '\x7d' then
        Reading.back after
        pure { name := "#", following := c }
      else
        pure
          { name := String.singleton first, size := true, sensible := isSpecial first
            following := after }
  | none => pure { name := "#", following := none }

/-- Reads the name of a parameter from its first character on. -/
def parameterName (braced : Bool) (c : Option Char) : Reading Named := do
  match c with
  | none => pure { name := "", sensible := false, following := none }
  | some c =>
    if startsName c || c.isDigit then wordName braced false c
    else if c = '\x7d' then pure { name := "", sensible := false, following := some c }
    else if braced && c = '#' then sizeName
    else
      let sensible := isSpecial c
      let name := if sensible then String.singleton c else ""
      pure { name, sensible, following := ← Reading.joined }

/-- The use that a character after the name of a parameter stands for. -/
def use? : Option Char → Option Use
  | some '\x7d' => some .value
  | some '-' => some .otherwise
  | some '+' => some .instead
  | some '?' => some .required
  | some '=' => some .assigned
  | _ => none

/-- Reads what is done with the value of a parameter, from the character after its name on;
also whether an empty value counts as none. -/
def useOf (named : Named) : Reading (Use × Bool) := do
  if !named.sensible then
    Reading.back named.following
    pure (.senseless, false)
  else if named.size then
    Reading.back named.following
    pure (if named.following = some '\x7d' then .size else .senseless, false)
  else
    match named.following with
    | some ':' => do pure ((use? (← Reading.joined)).getD .senseless, true)
    | some '#' => trimming '#' Use.withoutStart
    | some '%' => trimming '%' Use.withoutEnd
    | other => pure ((use? other).getD .senseless, false)
where
  /-- Reads whether a mark is doubled. -/
  trimming (mark : Char) (use : Bool → Use) : Reading (Use × Bool) := do
    let c ← Reading.joined
    if c = some mark then pure (use true, false)
    else
      Reading.back c
      pure (use false, false)

/-- Whether a use takes its word as a pattern. -/
def isTrimming : Use → Bool
  | .withoutStart _ => true
  | .withoutEnd _ => true
  | _ => false

/-- Opens a parameter whose word follows. -/
def openWord (w : Weaving) (name : String) (use : Use) (orEmpty : Bool) : Weaving :=
  let quotation :=
    if isTrimming use then .bare
    else if w.stretch.quotation = .arithmetic then .double
    else w.stretch.quotation
  let w :=
    if quotation ≠ w.stretch.quotation || w.stretch.inner then
      w.enter { quotation, double := quotation ≠ .bare, forParameter := true }
    else w
  (w.openParameter name use orEmpty).adjust fun s =>
    { s with
      parameters := s.parameters + 1
      quotedParameters := if s.double then s.quotedParameters + 1 else s.quotedParameters }

/-- Reads a parameter after its dollar sign, from the next character on. -/
def parameter (w : Weaving) (c : Option Char) : Reading Weaving := do
  if c = some '\x7b' then
    let named ← parameterName true (← Reading.joined)
    let (use, orEmpty) ← useOf named
    if use = .value && !orEmpty then pure (w.add (.parameter named.name .value false []))
    else pure (w.openWord named.name use orEmpty)
  else
    let named ← parameterName false c
    Reading.back named.following
    pure (w.add (.parameter named.name .value false []))

/-- Reads what follows a dollar sign. -/
def dollar (nested : Nested) (w : Weaving) : Reading Weaving := do
  let literal := (← get).checks.delimiter
  let c ← Reading.joined
  let means := c.any fun c => c = '(' || c = '\x7b' || startsName c || isSpecial c
  if literal || !means then
    Reading.back c
    pure (w.add (.plain '$'))
  else if c = some '(' then
    let d ← Reading.joined
    if d = some '(' then
      pure (w.openArithmetic.enter { quotation := .arithmetic, double := true })
    else
      Reading.back d
      pure (w.add (.output (← nested.enclosed)))
  else w.parameter c

/-- Reads the text of a command up to its closing backquote. -/
def backquoted (double : Bool) : Nat → List Char → Reading (List Char)
  | 0, found => pure found.reverse
  | fuel + 1, found => do
    match ← Reading.joined with
    | none => Reading.fail .openOutput
    | some '\x60' => pure found.reverse
    | some '\\' =>
      match ← Reading.next with
      | none => Reading.fail .openOutput
      | some c =>
        if c = '\\' || c = '\x60' || c = '$' || (double && c = '"') then
          backquoted double fuel (c :: found)
        else backquoted double fuel (c :: '\\' :: found)
    | some '\n' => do
      Reading.endLine
      backquoted double fuel ('\n' :: found)
    | some c => backquoted double fuel (c :: found)

/-- Reads a command in backquotes. -/
def backquote (nested : Nested) (w : Weaving) : Reading Weaving := do
  if (← get).checks.delimiter then pure (w.add (.plain '\x60'))
  else
    let text ← backquoted w.stretch.double Reading.plenty []
    let before ← get
    set { before with source := { base := text }, awaited := [] }
    let command ← nested.whole
    modify fun r =>
      { r with source := before.source, awaited := before.awaited, again := false }
    pure (w.add (.output command))

/-! ### Words -/

/-- Takes in a quotation mark of a word; in a document it leaves no trace. -/
def mark (goal : Goal) (w : Weaving) : Weaving :=
  if goal.isDocument then w else w.add .mark

/-- Takes in a double quote. Within a parameter it opens or closes an inner quotation. -/
def toggle (goal : Goal) (w : Weaving) : Weaving :=
  let flip (s : Stretch) : Stretch :=
    if s.parameters = 0 then s else { s with inner := !s.inner }
  (w.adjust flip).mark goal

/-- Takes in what follows a backslash. -/
def escape (goal : Goal) (w : Weaving) : Reading Weaving := do
  match ← Reading.next with
  | none => pure (w.add (.quoted '\\'))
  | some c =>
    let s := w.stretch
    let means := c = '\\' || c = '\x60' || c = '$' ||
      (c = '"' && !(goal.isDocument && s.parameters = 0)) || (c = '\x7d' && s.parameters ≠ 0)
    let w := if s.double && !means then w.add (.quoted '\\') else w
    pure { w.add (.quoted c) with quoted := true }

/-- Takes in a quote that may end a quotation. -/
def endQuote (goal : Goal) (w : Weaving) (c : Char) : Weaving :=
  if goal.isDocument && w.stretch.parameters = 0 then w.add (.plain c)
  else
    let unquote (s : Stretch) : Stretch :=
      if s.quotedParameters = 0 then { s with quotation := .bare, double := false } else s
    let w := { w.adjust unquote with quoted := true }
    if c = '"' then w.toggle goal else w.mark goal

/-- Takes in a brace that may close a parameter. -/
def closeBrace (w : Weaving) : Weaving :=
  let s := w.stretch
  if s.inner || s.parameters = 0 then w.add (.plain '\x7d')
  else if s.parameters = 1 && s.forParameter then w.close.leave
  else
    w.close.adjust fun s =>
      { s with parameters := s.parameters - 1, quotedParameters := s.quotedParameters - 1 }

/-- Takes in a parenthesis that may close an arithmetic expression. -/
def closeParen (w : Weaving) : Reading Weaving := do
  if 0 < w.stretch.parentheses then
    pure ((w.add (.plain ')')).adjust fun s => { s with parentheses := s.parentheses - 1 })
  else
    let c ← Reading.joined
    if c = some ')' then pure w.close.leave
    else
      Reading.back c
      pure (w.add (.plain ')'))

/-- Takes in a character by its role. -/
def step (nested : Nested) (goal : Goal) (w : Weaving) (c : Char) : Role → Reading Weaving
  | .ordinary => pure (w.add (.plain c))
  | .separator => pure (w.add (.plain c))
  | .newline => pure (w.add (.plain c))
  | .guarded =>
    pure (w.add (if goal.isDocument && !w.stretch.double then .plain c else .quoted c))
  | .backslash => w.escape goal
  | .singleQuote => pure ((w.adjust fun s => { s with quotation := .single }).mark goal)
  | .doubleQuote =>
    pure ((w.adjust fun s => { s with quotation := .double, double := true }).toggle goal)
  | .endQuote => pure (w.endQuote goal c)
  | .dollar => w.dollar nested
  | .backquote => w.backquote nested
  | .closeBrace => pure w.closeBrace
  | .openParen =>
    pure ((w.add (.plain c)).adjust fun s => { s with parentheses := s.parentheses + 1 })
  | .closeParen => w.closeParen

/-- Reads a word or a document from the given character on, up to the character that ends it.
`fresh` says whether a line starts here. -/
def weave (nested : Nested) (goal : Goal) :
    Nat → Weaving → Option Char → Bool → Reading (Weaving × Option Char)
  | 0, w, c, _ => pure (w, c)
  | fuel + 1, w, c, fresh => do
    match ← if fresh then goal.lineStart c else pure c with
    | none => pure (w, none)
    | some c =>
      let role := w.stretch.quotation.role c
      let outside := w.stretch.quotation = .bare && w.stretch.parameters = 0
      if outside && (role = .newline || role = .separator) then pure (w, some c)
      else
        if role = .newline then Reading.endLine
        let w ← w.step nested goal c role
        weave nested goal fuel w (← w.next) (role = .newline)

/-- Refuses a word in which something is still open. -/
def check (goal : Goal) (w : Weaving) : Reading Unit := do
  let s := w.stretch
  if s.quotation = .arithmetic then Reading.fail .openArithmetic
  else if s.quotation ≠ .bare && !goal.isDocument then Reading.fail .openQuotation
  else if s.parameters ≠ 0 then Reading.fail .openParameter

end Weaving

/-! ### Tokens -/

namespace Reading

/-- Reads the start of a redirection after its first character. -/
def lead (descriptor : Option Nat) (c : Char) : Reading Lead := do
  let d ← joined
  if c = '>' then
    let descriptor := descriptor.getD 1
    match d with
    | some '>' => pure (.file descriptor .appending)
    | some '|' => pure (.file descriptor .overwriting)
    | some '&' => pure (.duplicate descriptor)
    | _ => do
      back d
      pure (.file descriptor .output)
  else
    let descriptor := descriptor.getD 0
    match d with
    | some '<' => do
      let e ← joined
      if e = some '-' then pure (.document descriptor true)
      else
        back e
        pure (.document descriptor false)
    | some '&' => pure (.duplicate descriptor)
    | some '>' => pure (.file descriptor .both)
    | _ => do
      back d
      pure (.file descriptor .input)

/-- The descriptor that a word names when a redirection follows it: none when the word is empty
or a digit, and nothing at all when it is any other word. -/
def descriptor? (w : Weaving) : Option (Option Nat) :=
  match w.parts with
  | [] => if w.quoted then none else some none
  | [.plain c] => if c.isDigit && !w.quoted then some (some (c.toNat - '0'.toNat)) else none
  | _ => none

/-- Notes which token was read. -/
def found (token : Token) : Reading Token := do
  modify fun r => { r with token }
  pure token

/-- Reads a word, or a redirection, from its first character on. -/
def wordToken (nested : Nested) (c : Char) : Reading Token := do
  let (w, after) ← Weaving.weave nested .word plenty (.start .bare) (some c) false
  w.check .word
  match after, descriptor? w with
  | some '<', some descriptor => do
    let lead ← lead descriptor '<'
    modify fun r => { r with lead }
    found .redirection
  | some '>', some descriptor => do
    let lead ← lead descriptor '>'
    modify fun r => { r with lead }
    found .redirection
  | _, _ => do
    back after
    modify fun r => { r with word := w.parts.reverse, quoted := w.quoted }
    found .word

/-- Passes over a comment. -/
def skipComment : Nat → Reading Unit
  | 0 => pure ()
  | fuel + 1 => do
    match ← next with
    | none => pure ()
    | some '\n' => back (some '\n')
    | some _ => skipComment fuel

/-- Reads a token that may be doubled. -/
def doubled (c : Char) (single double : Token) : Reading Token := do
  let d ← joined
  if d = some c then found double
  else
    back d
    found single

/-- Reads a token, whatever it is looked at for. -/
def rawToken (nested : Nested) : Nat → Reading Token
  | 0 => found .ending
  | fuel + 1 => do
    match ← joined with
    | none => found .ending
    | some ' ' => rawToken nested fuel
    | some '\t' => rawToken nested fuel
    | some '#' => do
      skipComment plenty
      rawToken nested fuel
    | some '\n' => do
      endLine
      found .newline
    | some '&' => doubled '&' .ampersand .bothAnd
    | some '|' => doubled '|' .pipe .eitherOr
    | some ';' => doubled ';' .semicolon .caseBreak
    | some '(' => found .openParen
    | some ')' => found .closeParen
    | some c => wordToken nested c

/-- Reads a token, or the last one once more. -/
def anyToken (nested : Nested) : Reading Token := do
  let r ← get
  if r.again then
    set { r with again := false }
    pure r.token
  else rawToken nested plenty

/-- Reads the documents that are awaited. -/
def documents (nested : Nested) : Reading Unit := do
  let awaited := (← get).awaited
  modify fun r => { r with awaited := [] }
  awaited.forM fun a => do
    let goal := Goal.document a.delimiter a.withoutTabs
    let c ← if a.literal then next else joined
    let quotation := if a.literal then .single else .double
    let (w, _) ← Weaving.weave nested goal plenty (.start quotation) c true
    w.check goal
    let document := { number := a.number, parts := w.parts.reverse }
    modify fun r => { r with documents := document :: r.documents }

/-- Passes over line ends; the documents of each line follow it. -/
def skipLines (nested : Nested) : Nat → Token → Reading Token
  | 0, token => pure token
  | fuel + 1, token =>
    if token = .newline then do
      documents nested
      modify fun r => { r with checks := {} }
      skipLines nested fuel (← anyToken nested)
    else pure token

/-- Reads a token that is looked at for the given checks. The name of an alias is replaced by
its text. -/
def checkedToken (nested : Nested) : Nat → Checks → Reading Token
  | 0, _ => found .ending
  | fuel + 1, checks => do
    let first ← anyToken nested
    let token ← if checks.lines then skipLines nested plenty first else pure first
    let r ← get
    let checks := checks.union r.checks
    let r := { r with checks := {} }
    set r
    match token, r.quoted, r.word.plainText? with
    | .word, false, some chars =>
      let text := String.ofList chars
      match checks.keywords, Keyword.ofText? text with
      | true, some which => found (.keyword which)
      | _, _ =>
        match r.aliases.lookup text with
        | some meaning =>
          if checks.aliases && text ∉ r.busy then do
            if meaning ≠ "" then
              set { r with
                source := r.source.push text meaning.toList, busy := text :: r.busy }
            checkedToken nested fuel checks
          else pure token
        | none => pure token
    | _, _, _ => pure token

def token (nested : Nested) : Reading Token := do
  checkedToken nested plenty (← get).checks

/-- Lets the last token be read again. -/
def unread : Reading Unit :=
  modify fun r => { r with again := true }

/-- Says what the next token is looked at for. -/
def expect (checks : Checks) : Reading Unit :=
  modify fun r => { r with checks }

end Reading

end GoldenSuite.Shell
