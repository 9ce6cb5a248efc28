import GoldenSuite.Shell.Draft

/-!
# Patterns in scripts

A pattern stands for texts: `*` for any text, `?` for one character and a class in brackets for
one of its members; a backslash makes the character after it stand for itself. Texts are taken
byte by byte. A class that is not closed is no class.
-/

namespace GoldenSuite.Shell.Pattern

/-! ### Classes -/

/-- Whether a character can be seen when it is printed. -/
def isGraphic (c : Char) : Bool :=
  '!' ≤ c && c ≤ '~'

/-- The named classes, with the rest of their names after the opening bracket. -/
def namedClasses : List (String × (Char → Bool)) :=
  let isSpace (c : Char) : Bool := c = ' ' || ('\t' ≤ c && c ≤ '\r')
  let isHex (c : Char) : Bool := c.isDigit || ('a' ≤ c && c ≤ 'f') || ('A' ≤ c && c ≤ 'F')
  [(":alnum:]", Char.isAlphanum), (":cntrl:]", fun c => c < ' ' || c = '\x7f'),
   (":lower:]", Char.isLower), (":space:]", isSpace), (":alpha:]", Char.isAlpha),
   (":digit:]", Char.isDigit), (":print:]", fun c => c = ' ' || isGraphic c),
   (":upper:]", Char.isUpper), (":blank:]", fun c => c = ' ' || c = '\t'),
   (":graph:]", isGraphic), (":punct:]", fun c => isGraphic c && !c.isAlphanum),
   (":xdigit:]", isHex)]

/-- The named class that a text starts with, and what comes after its name. -/
def namedClass? (text : List Char) : Option ((Char → Bool) × List Char) :=
  (namedClasses.find? fun named => named.1.toList.isPrefixOf text).map fun named =>
    (named.2, text.drop named.1.length)

/-- The place of a character in a range. The bytes from 128 on come before all others. -/
def rank (c : Char) : Int :=
  if c.toNat < 128 then c.toNat else (c.toNat : Int) - 256

/-- Drops a backslash that the next character stands behind. -/
def bare : List Char → List Char
  | '\\' :: rest => rest
  | text => text

/-- Whether a character belongs to the class whose members a text lists, and what comes after
the class; nothing when the class is not closed. The first member may be a bracket. -/
def member? (c : Char) : Nat → Bool → List Char → Option (Bool × List Char)
  | 0, _, _ => none
  | fuel + 1, found, text =>
    let goOn (found : Bool) (rest : List Char) : Option (Bool × List Char) :=
      match rest with
      | ']' :: after => some (found, after)
      | _ => member? c fuel found rest
    match text with
    | [] => none
    | first :: rest =>
      match if first = '[' then namedClass? rest else none with
      | some (test, after) => goOn (found || test c) after
      | none =>
        match if first = '\\' then rest else text with
        | [] => none
        | low :: '-' :: high :: after =>
          if high = ']' then goOn (found || c = low) ('-' :: high :: after)
          else
            match bare (high :: after) with
            | [] => none
            | high :: after =>
              goOn (found || (rank low ≤ rank c && rank c ≤ rank high)) after
        | low :: after => goOn (found || c = low) after

/-- Whether a character belongs to the class after an opening bracket, and what comes after the
class; nothing when the class is not closed. -/
def inClass? (c : Char) (text : List Char) : Option (Bool × List Char) :=
  match text with
  | '!' :: members => (member? c (members.length + 1) false members).map fun (found, after) =>
      (!found, after)
  | members => member? c (members.length + 1) false members

/-! ### Texts that match -/

/-- The ends of a text, the longest first. -/
def ends : List Char → List (List Char)
  | [] => [[]]
  | c :: rest => (c :: rest) :: ends rest

/-- Whether a pattern stands for a text; at most `fuel` of its parts are looked at. -/
def acceptsWithin : Nat → List Char → List Char → Bool
  | 0, _, _ => false
  | fuel + 1, pattern, text =>
    let literal (c : Char) (rest : List Char) : Bool :=
      match text with
      | first :: others => first = c && acceptsWithin fuel rest others
      | [] => false
    match pattern with
    | [] => text.isEmpty
    | '\\' :: c :: rest => literal c rest
    | '?' :: rest =>
      match text with
      | _ :: others => acceptsWithin fuel rest others
      | [] => false
    | '*' :: rest => (ends text).any (acceptsWithin fuel (rest.dropWhile (· = '*')))
    | '[' :: rest =>
      match text with
      | [] => false
      | first :: others =>
        match inClass? first rest with
        | some (found, after) => found && acceptsWithin fuel after others
        | none => literal '[' rest
    | c :: rest => literal c rest

/-- Whether a pattern stands for a text. -/
def accepts (pattern text : List Char) : Bool :=
  acceptsWithin (pattern.length + 1) pattern text

example : accepts ['a', '*', '[', '!', 'b', ']'] ['a', 'x', 'c'] = true := by decide +kernel
example : accepts ['[', 'a'] ['[', 'a'] = true := by decide +kernel

/-! ### Patterns out of words -/

/-- The pattern that cells make up: a quoted character stands for itself. A backslash that is
not quoted does so for the character after it; `guards` says whether there is none before. -/
def guardedBy (guards : Bool) : List Cell → List Char
  | [] => []
  | .mark :: rest => guardedBy true rest
  | .plain c :: rest => c :: guardedBy (c ≠ '\\') rest
  | .quoted c :: rest => if guards then '\\' :: c :: guardedBy true rest else c :: guardedBy true rest

/-- Whether a cell is a character that may mean something. -/
def isPlain : Cell → Bool
  | .plain _ => true
  | _ => false

/-- The pattern that an expanded word stands for. A backslash counts only after the first
quotation in the word. -/
def ofCells (cells : List Cell) : List Char :=
  Cell.text (cells.takeWhile isPlain) ++ guardedBy true (cells.dropWhile isPlain)

/-- Whether a text holds a character that makes it a pattern. -/
def isActive (text : List Char) : Bool :=
  text.any fun c => c = '*' || c = '?' || c = '['

/-! ### Trimming -/

/-- The text of cells up to the first character that separates whole arguments. -/
def firstArgument (cells : List Cell) : List Char :=
  (Cell.text cells).takeWhile (· ≠ Draft.nul)

/-- The lengths that are tried within a text, the shortest first. Short ones stay within the
first argument. -/
def lengths (longestFirst : Bool) (cells : List Cell) : List Nat :=
  if longestFirst then (List.range (cells.length + 1)).reverse
  else List.range ((firstArgument cells).length + 1)

/-- Takes the shortest or longest start for which a pattern stands away. -/
def withoutStart (longest : Bool) (pattern : List Char) (cells : List Cell) : List Cell :=
  let found := (lengths longest cells).find? fun n =>
    accepts pattern (firstArgument (cells.take n))
  cells.drop (found.getD 0)

/-- Takes the shortest or longest end for which a pattern stands away. -/
def withoutEnd (longest : Bool) (pattern : List Char) (cells : List Cell) : List Cell :=
  let found := (lengths (!longest) cells).find? fun n =>
    accepts pattern (firstArgument (cells.drop n))
  cells.take (found.getD cells.length)

end GoldenSuite.Shell.Pattern
