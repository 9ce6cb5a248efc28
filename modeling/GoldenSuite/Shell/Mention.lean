/-!
# Names in messages

How the messages of programs mention names: as a script would have to write them, with or without
quotes around a name that needs none, or as a quoted text in which what cannot be printed is
escaped. Names are texts made of bytes; only the printable characters of ASCII are shown.
-/

namespace GoldenSuite.Shell.Mention

/-- Whether a character can be shown. -/
def isShown (c : Char) : Bool :=
  ' ' ≤ c && c ≤ '~'

/-- The letter that stands for a character behind a backslash. -/
def letter? : Char → Option Char
  | '\x07' => some 'a'
  | '\x08' => some 'b'
  | '\t' => some 't'
  | '\n' => some 'n'
  | '\x0b' => some 'v'
  | '\x0c' => some 'f'
  | '\r' => some 'r'
  | _ => none

/-- A character that cannot be shown, behind a backslash: a letter or three octal digits. -/
def escaped (c : Char) : List Char :=
  match letter? c with
  | some letter => ['\\', letter]
  | none =>
    let digits := Nat.toDigits 8 c.toNat
    '\\' :: (List.replicate (3 - digits.length) '0' ++ digits)

/-! ### As a quoted text -/

/-- A quoted text, with backslashes before quotes and backslashes. -/
def quoted (name : String) : String :=
  let show_ (c : Char) : List Char :=
    if c = '\'' || c = '\\' then ['\\', c] else if isShown c then [c] else escaped c
  String.ofList ('\'' :: (name.toList.flatMap show_ ++ ['\'']))

/-! ### As a script would write it -/

/-- Whether a character means the same in double quotes as on its own. -/
def isPlain (first : Bool) (c : Char) : Bool :=
  c.isAlphanum || c ∈ ['%', '+', ',', '-', '.', '/', ':', ']', '_', ' ', '\'', '@'] ||
    (first && (c = '#' || c = '~'))

/-- Whether a character needs no quotes; one that is not the `first` may be a sign that only
means something at the start. -/
def isTame (first : Bool) (c : Char) : Bool :=
  c.isAlphanum || c ∈ ['%', '+', ',', '-', '.', '/', ']', '_', '@', '\x7b', '\x7d'] ||
    (!first && (c = '#' || c = '~'))

/-- The inside of a name in single quotes. `escaping` says whether the text is within a stretch
of escaped characters. -/
def inside (escaping : Bool) : List Char → List Char
  | [] => []
  | c :: rest =>
    let back := if escaping then ['\'', '\''] else []
    if c = '\'' then
      (if escaping then ['\'', '\''] else []) ++ ['\'', '\\', '\'', '\''] ++ inside false rest
    else if isShown c then back ++ c :: inside false rest
    else
      (if escaping then [] else ['\'', '$', '\'']) ++ escaped c ++ inside true rest

/-- A name in quotes. One with single quotes in it is put into double quotes when nothing else in
it means anything there. -/
def always (name : String) : String :=
  let chars := name.toList
  let first := chars.take 1
  let plain := first.all (isPlain true) && (chars.drop 1).all (isPlain false)
  if '\'' ∈ chars && plain then String.ofList ('"' :: (chars ++ ['"']))
  else String.ofList ('\'' :: (inside false chars ++ ['\'']))

/-- A name, in quotes when a script would need them. -/
def needed (name : String) : String :=
  let chars := name.toList
  let first := chars.take 1
  let alone := name = "\x7b" || name = "\x7d"
  if !chars.isEmpty && !alone && first.all (isTame true) && (chars.drop 1).all (isTame false) then
    name
  else always name

/-- A word of a script, in quotes when it needs them; a colon needs none. -/
def word (text : String) : String :=
  if needed (text.replace ":" "_") = text.replace ":" "_" then text else always text

/-! ### As a script can read it back -/

/-- A text in quotes: stretches of single quotes stand in double quotes, everything else in single
quotes. -/
def reusable (text : String) : String :=
  let isQuote (c : Char) : Bool := c = '\''
  let enclose (stretch : List Char) : List Char :=
    let mark := if stretch.any isQuote then '"' else '\''
    mark :: (stretch ++ [mark])
  let stretches := text.toList.splitBy fun a b => isQuote a = isQuote b
  let lead := if text.toList.head?.all isQuote then ['\'', '\''] else []
  String.ofList (lead ++ stretches.flatMap enclose)

example : reusable "it's" = "'it'\"'\"'s'" := by decide +kernel

example : reusable "" = "''" := by decide +kernel

end GoldenSuite.Shell.Mention
