import GoldenSuite.Glob.Lexeme

/-!
# Reading glob patterns

Lexemes are read from left to right into tokens. Alternatives nest: the branches that are being
read stand on a stack of levels, the innermost first. Two stars are special only where they make
up a whole path component; the rules for that look at what has been read in the branch, at the
character before the stars and at the lexeme after them.
-/

namespace GoldenSuite.Glob

/-- One group of alternatives that is being read, or the whole pattern: the branches that are
finished and the tokens of the current one, the last ones first. -/
structure Level where
  branches : List (List Token)
  tokens : List Token
deriving Repr

/-- What has been read so far: the innermost level and those around it. -/
structure Levels where
  inner : Level
  outer : List Level
deriving Repr

namespace Levels

/-- Nothing has been read. -/
def start : Levels :=
  ⟨⟨[], []⟩, []⟩

/-- Adds a token to the current branch. -/
def push (s : Levels) (t : Token) : Levels :=
  { s with inner := { s.inner with tokens := t :: s.inner.tokens } }

/-- Replaces the last token of the current branch. -/
def replaceLast (s : Levels) (t : Token) : Levels :=
  { s with inner := { s.inner with tokens := t :: s.inner.tokens.tail } }

/-- Whether the reading is inside a group of alternatives. -/
def inGroup (s : Levels) : Bool :=
  !s.outer.isEmpty

def openGroup (s : Levels) : Levels :=
  ⟨⟨[], []⟩, s.inner :: s.outer⟩

/-- Ends the current branch of a group; outside of groups a comma stands for itself. -/
def comma (s : Levels) : Levels :=
  if s.inGroup then
    { s with inner := ⟨s.inner.tokens.reverse :: s.inner.branches, []⟩ }
  else s.push (.literal ',')

/-- Closes the innermost group. -/
def closeGroup (s : Levels) : Except Mistake Levels :=
  match s.outer with
  | [] => .error .unopenedGroup
  | around :: outer =>
    let branches := (s.inner.tokens.reverse :: s.inner.branches).reverse
    .ok ((Levels.mk around outer).push (.alternatives branches))

/-- Ends the reading. -/
def finish (s : Levels) : Except Mistake Pattern :=
  if s.inGroup then .error .unclosedGroup else .ok ⟨s.inner.tokens.reverse⟩

end Levels

/-- What the two stars of a path component stand for, and whether they use up the separator
after them. -/
inductive DoubleStar where
  /-- They are two single stars. -/
  | separate
  /-- They start a branch; the separator after them, if there is one, belongs to them. -/
  | leading
  /-- They end a branch. -/
  | trailing
  /-- They stand between separators; the one after them belongs to them. -/
  | inner
deriving DecidableEq, Repr

/-- Classifies two stars by what has been read, the character before them and the lexeme after
them. -/
def DoubleStar.classify (s : Levels) (before : Option Char) (next : Option Lexeme) : DoubleStar :=
  if s.inner.tokens.isEmpty then
    if next = none ∨ next = some (.plain '/') then .leading else .separate
  else if before ≠ some '/' ∧ !(s.inGroup ∧ (before = some ',' ∨ before = some '\x7b')) then
    .separate
  else if next = none then .trailing
  else if s.inGroup ∧ (next = some .comma ∨ next = some .closing) then .trailing
  else if next = some (.plain '/') then .inner
  else .separate

/-- Takes two stars into what has been read. After a separator they replace the token before
them, which is that separator, unless it is a token for directories already. -/
def DoubleStar.apply (s : Levels) : DoubleStar → Levels
  | .separate => (s.push .gap).push .gap
  | .leading => s.push .leadingDirectories
  | .trailing => s.replaceLast (settled .trailingDirectories)
  | .inner => s.replaceLast (settled .innerDirectories)
where
  settled (otherwise : Token) : Token :=
    match s.inner.tokens with
    | .leadingDirectories :: _ => .leadingDirectories
    | .trailingDirectories :: _ => .trailingDirectories
    | _ => otherwise

/-- Whether two stars use up the separator after them. -/
def DoubleStar.takesSeparator : DoubleStar → Bool
  | .leading | .inner => true
  | .separate | .trailing => false

/-- Reads lexemes; `before` is the character before the first of them. -/
def readFrom (s : Levels) (before : Option Char) : List Lexeme → Except Mistake Pattern
  | [] => s.finish
  | .star :: .star :: .plain '/' :: rest =>
    let stars := DoubleStar.classify s before (some (.plain '/'))
    if stars.takesSeparator then readFrom (stars.apply s) (some '/') rest
    else readFrom ((stars.apply s).push (.literal '/')) (some '/') rest
  | .star :: .star :: rest =>
    readFrom ((DoubleStar.classify s before rest.head?).apply s) (some '*') rest
  | lexeme :: rest =>
    let continueWith (s : Levels) := readFrom s (some lexeme.lastChar) rest
    match lexeme with
    | .plain c | .escaped c => continueWith (s.push (.literal c))
    | .question => continueWith (s.push .any)
    | .star => continueWith (s.push .gap)
    | .oneOf negated ranges => continueWith (s.push (.oneOf negated ranges))
    | .opening => continueWith s.openGroup
    | .comma => continueWith s.comma
    | .closing =>
      match s.closeGroup with
      | .error m => .error m
      | .ok s => continueWith s
    | .mistake m => .error m

/-- Reads the text of a pattern. -/
def Pattern.ofText (text : String) : Except Mistake Pattern :=
  readFrom .start none (lexemes text.toList)

end GoldenSuite.Glob
