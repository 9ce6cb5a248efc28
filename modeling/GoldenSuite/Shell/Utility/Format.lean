import GoldenSuite.Shell.Flags
import GoldenSuite.Shell.Printing

/-!
# The program for formatted output

The program `printf` uses a format again and again until it has taken all arguments. It knows
more escape sequences and conversions than the command of the shell, and refuses flags that a
conversion has no use for. What is wrong with an argument is said where it comes up.
-/

namespace GoldenSuite.Shell.Utility

namespace Format

/-- What a part of a text comes to. -/
inductive Piece where
  | text (chars : List Char)
  /-- Nothing more is written. -/
  | ending
  | problem (message : String)
deriving DecidableEq, Repr

/-! ### Escape sequences -/

/-- Whether a character is a digit of base sixteen. -/
def isHex (c : Char) : Bool :=
  (Arithmetic.digitOf? 16 c).isSome

def valueOf (base : Nat) (digits : List Char) : Nat :=
  (Arithmetic.takeDigits base 0 digits).1

/-- Digits of base sixteen, so many at least. -/
def hexDigits (count value : Nat) : List Char :=
  let digits := Nat.toDigits 16 value
  List.replicate (count - digits.length) '0' ++ digits

/-- The character with a number that so many digits show, behind a letter. Characters that can be
written otherwise are refused, those beyond ASCII are shown by their numbers. -/
def numbered (letter : Char) (count value : Nat) : Piece :=
  let plain := value ∈ [0x24, 0x40, 0x60]
  if (value ≤ 0x9F && !plain) || (0xD800 ≤ value && value ≤ 0xDFFF) then
    .problem ("invalid universal character name \\" ++
      String.ofList (letter :: hexDigits count value))
  else if plain then .text [Char.ofNat value]
  else
    let (letter, count) := if value < 0x10000 then ('u', 4) else ('U', 8)
    .text ('\\' :: letter :: (hexDigits count value).map Char.toUpper)

/-- What the text behind a backslash stands for, and the rest of the text. `zeroed` says that a
zero may stand before octal digits. -/
def escape (zeroed : Bool) (text : List Char) : Piece × List Char :=
  match text with
  | [] => (.text ['\\'], [])
  | c :: rest =>
    let octal := if zeroed && c = '0' then rest else text
    let lone : Piece := .problem "missing hexadecimal number in escape"
    if c = 'x' then
      let digits := (rest.takeWhile isHex).take 2
      if digits.isEmpty then (lone, rest)
      else (.text [Char.ofNat (valueOf 16 digits)], rest.drop digits.length)
    else if Printing.isOctal c then
      let digits := (octal.takeWhile Printing.isOctal).take 3
      (.text [Char.ofNat (valueOf 8 digits % 256)], octal.drop digits.length)
    else if c = 'c' then (.ending, rest)
    else if c = 'u' || c = 'U' then
      let count := if c = 'u' then 4 else 8
      let digits := rest.take count
      if digits.length = count && digits.all isHex then
        (numbered c count (valueOf 16 digits), rest.drop count)
      else (lone, rest)
    else if c = '"' then (.text ['"'], rest)
    else match Printing.letterChar? c with
      | some found => (.text [found], rest)
      | none => (.text ['\\', c], rest)

/-- The pieces of an argument with escape sequences; at most `fuel` of them. -/
def escapes : Nat → List Char → List Piece
  | 0, _ => []
  | _, [] => []
  | fuel + 1, '\\' :: rest =>
    let (piece, after) := escape true rest
    piece :: escapes fuel after
  | fuel + 1, c :: rest => .text [c] :: escapes fuel rest

/-! ### Parts of a format -/

/-- A conversion of an argument. -/
structure Conversion where
  flags : List Char
  width : Printing.Size
  precision : Option Printing.Size
  letter : Char
  /-- The text of the conversion, when it is refused. -/
  refused : Option (List Char)
deriving DecidableEq, Repr

/-- A part of a format. -/
inductive Part where
  | piece (piece : Piece)
  /-- An argument with escape sequences. -/
  | escaped
  /-- An argument as a script would have to write it. -/
  | quoted
  | conversion (conversion : Conversion)
deriving DecidableEq, Repr

/-- The flags of conversions. -/
def flagChars : List Char :=
  ['#', '-', '+', ' ', '0', '\'', 'I']

/-- Whether a conversion has use for its flags, and for a precision if it has one. -/
def isSensible (flags : List Char) (precise : Bool) (letter : Char) : Bool :=
  let grouped := '\'' ∈ flags || 'I' ∈ flags
  let excluded :=
    (if grouped then ['a', 'A', 'c', 'e', 'E', 'o', 's', 'x', 'X'] else []) ++
    (if '#' ∈ flags then ['c', 'd', 'i', 's', 'u'] else []) ++
    (if '0' ∈ flags then ['c', 's'] else []) ++
    (if precise then ['c'] else [])
  letter ∈ Printing.conversionLetters && letter ≠ 'b' && letter ∉ excluded

/-- Reads a conversion after its percent sign. -/
def takeConversion (text : List Char) : Conversion × List Char :=
  let flags := text.takeWhile (· ∈ flagChars)
  let (width, rest) := Printing.takeSize (text.dropWhile (· ∈ flagChars))
  let (precision, rest) := match rest with
    | '.' :: rest =>
      let (size, rest) := Printing.takeSize rest
      (some size, rest)
    | _ => (none, rest)
  let rest := rest.dropWhile (· ∈ ['l', 'L', 'h', 'j', 't', 'z'])
  let letter := rest.head?.getD '\x00'
  let after := rest.drop 1
  let refused := if isSensible flags precision.isSome letter then none
    else some ('%' :: text.take (text.length - after.length))
  ({ flags, width, precision, letter, refused }, after)

/-- Reads a format; at most `fuel` parts are read. -/
def parts : Nat → List Char → List Part
  | 0, _ => []
  | _, [] => []
  | fuel + 1, '\\' :: rest =>
    let (piece, after) := escape false rest
    .piece piece :: parts fuel after
  | fuel + 1, '%' :: '%' :: rest => .piece (.text ['%']) :: parts fuel rest
  | fuel + 1, '%' :: 'b' :: rest => .escaped :: parts fuel rest
  | fuel + 1, '%' :: 'q' :: rest => .quoted :: parts fuel rest
  | fuel + 1, '%' :: rest =>
    let (conversion, after) := takeConversion rest
    .conversion conversion :: parts fuel after
  | fuel + 1, c :: rest => .piece (.text [c]) :: parts fuel rest

/-! ### Output -/

/-- The arguments that are left while a format is used, and the status so far. -/
structure Progress where
  arguments : List String
  status : Nat := 0

/-- Ends the program with a status. -/
def leave {α : Type} (name : String) (status : Nat) : Run α := do
  throw (.exited (← Run.closeSpeech name status))

/-- Ends the program because of a problem. -/
def giveUp {α : Type} (name problem : String) : Run α := do
  Run.object name problem
  leave name 1

/-- Says a piece. -/
def sayPiece (name : String) : Piece → Run Unit
  | .text chars => Run.say (String.ofList chars)
  | .ending => leave name 0
  | .problem message => giveUp name message

/-- What is said about an argument that should be a number. -/
def doubtMessage (argument : String) : Doubt → String
  | .noNumber => s!"{Mention.quoted argument}: expected a numeric value"
  | .incomplete => s!"{Mention.quoted argument}: value not completely converted"
  | .outOfRange => s!"{Mention.quoted argument}: {(Fault.system 34).plain}"

/-- Takes an argument as a number. The character behind a quote stands for its code. -/
def number {α : Type} (name : String) (read : String → α × List Doubt) (argument : String)
    (p : Progress) : Run (α × Progress) := do
  let chars := argument.toList
  let quote := chars.head? == some '\'' || chars.head? == some '"'
  if quote && 1 < chars.length then
    if 2 < chars.length then
      Run.object name (s!"warning: {String.ofList (chars.drop 2)}: character(s) following " ++
        "character constant have been ignored")
    pure ((read argument).1, p)
  else
    let (value, doubts) := if quote then ((read "").1, [.noNumber]) else read argument
    let doubt := if .outOfRange ∈ doubts then some .outOfRange else doubts.head?
    match doubt with
    | none => pure (value, p)
    | some doubt => do
      Run.object name (doubtMessage argument doubt)
      pure (value, { p with status := 1 })

/-- Finds out a width or a precision that must not be above a bound; `kind` is what it is. -/
def size (name kind : String) (isAllowed : Int → Bool) (size : Printing.Size) (p : Progress) :
    Run (Int × Progress) := do
  match size, p.arguments with
  | .fixed size, _ => pure (size, p)
  | .argument, [] => pure (0, p)
  | .argument, argument :: rest =>
    let (value, p) ← number name Conversion.signedOf argument { p with arguments := rest }
    if isAllowed value then pure (value, p)
    else giveUp name s!"invalid {kind}: {Mention.quoted argument}"

/-- Carries out a conversion. -/
def convert (name : String) (c : Conversion) (p : Progress) : Run Progress := do
  let largest : Int := Int.pow 2 31 - 1
  let (width, p) ←
    size name "field width" (fun value => -largest - 1 ≤ value && value ≤ largest) c.width p
  let (precision, p) ← match c.precision with
    | none => pure (none, p)
    | some precision => do
      let (value, p) ← size name "precision" (· ≤ largest) precision p
      pure (if value < 0 then none else some value.toNat, p)
  match c.refused with
  | some text => giveUp name s!"{String.ofList text}: invalid conversion specification"
  | none =>
    let layout : Shell.Conversion.Layout :=
      { left := '-' ∈ c.flags || width < 0, plus := '+' ∈ c.flags, blank := ' ' ∈ c.flags
        alternate := '#' ∈ c.flags, zeros := '0' ∈ c.flags, width := width.natAbs, precision }
    let argument := p.arguments.head?.getD ""
    let p := { p with arguments := p.arguments.tail }
    let say (chars : List Char) : Run Unit := Run.say (String.ofList chars)
    if c.letter = 's' then do
      let chars := argument.toList
      say (layout.fill false [] (chars.take (precision.getD chars.length)))
      pure p
    else if c.letter = 'c' then do
      say (layout.fill false [] [argument.toList.head?.getD '\x00'])
      pure p
    else if c.letter ∈ ['d', 'i'] then do
      let (value, p) ← number name Shell.Conversion.signedOf argument p
      say (layout.signed value)
      pure p
    else if c.letter ∈ ['o', 'u', 'x', 'X'] then do
      let (value, p) ← number name Shell.Conversion.unsignedOf argument p
      say (layout.unsigned c.letter value)
      pure p
    else do
      let (value, p) ← number name Shell.Conversion.realOf argument p
      say (layout.real c.letter value)
      pure p

/-- Carries out a part of a format. -/
def carryOut (name : String) (p : Progress) : Part → Run Progress
  | .piece piece => do
    sayPiece name piece
    pure p
  | .conversion conversion => convert name conversion p
  | .escaped => do
    let argument := p.arguments.head?.getD ""
    (escapes argument.length argument.toList).forM (sayPiece name)
    pure { p with arguments := p.arguments.tail }
  | .quoted => do
    p.arguments.head?.forM fun argument => Run.say (Mention.word argument)
    pure { p with arguments := p.arguments.tail }

/-- Carries out a format until no argument is left or none has been taken; at most so many
times. -/
def carryOutAll (name : String) (parts : List Part) : Nat → Progress → Run Progress
  | 0, p => pure p
  | fuel + 1, p => do
    let next ← parts.foldlM (carryOut name) p
    if next.arguments.isEmpty || next.arguments.length = p.arguments.length then pure next
    else carryOutAll name parts fuel next

end Format

/-- Writes its arguments in a format. -/
def printf (name : String) (arguments : List String) : Run Nat := do
  if arguments = ["--help"] || arguments = ["--version"] then pure 0
  else match if arguments.head? = some "--" then arguments.tail else arguments with
    | [] => Run.misused name "missing operand"
    | format :: values => do
      let parts := Format.parts format.length format.toList
      let p ← Format.carryOutAll name parts (values.length + 1) { arguments := values }
      match p.arguments with
      | [] => pure ()
      | first :: _ =>
        Run.object name
          s!"warning: ignoring excess arguments, starting with {Mention.quoted first}"
      Run.closeSpeech name p.status

end GoldenSuite.Shell.Utility
