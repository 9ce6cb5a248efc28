import GoldenSuite.Shell.Conversion

/-!
# Formatted output

The output of `echo` and `printf`: escape sequences, and a format that is used again and again
until it has taken all arguments. What is wrong with arguments is said before anything is
written.
-/

namespace GoldenSuite.Shell.Printing

/-! ### Escape sequences -/

/-- Whether a character is an octal digit. -/
def isOctal (c : Char) : Bool :=
  '0' ≤ c && c ≤ '7'

/-- The character for which an escape letter stands. -/
def letterChar? : Char → Option Char
  | '\\' => some '\\'
  | 'a' => some '\x07'
  | 'b' => some '\x08'
  | 'e' => some '\x1b'
  | 'f' => some '\x0c'
  | 'n' => some '\n'
  | 'r' => some '\r'
  | 't' => some '\t'
  | 'v' => some '\x0b'
  | _ => none

/-- Reads what follows a backslash: the characters for which it stands, and the rest. Up to three
octal digits stand for a byte. -/
def escape (text : List Char) : List Char × List Char :=
  match text with
  | [] => (['\\'], [])
  | c :: rest =>
    if isOctal c then
      let digits := (text.takeWhile isOctal).take 3
      ([Char.ofNat ((Arithmetic.takeDigits 8 0 digits).1 % 256)], text.drop digits.length)
    else match letterChar? c with
      | some found => ([found], rest)
      | none => (['\\'], text)

/-- The characters of a text with escape sequences, and whether one of them ends all output. At
most `fuel` steps are taken. -/
def unescape : Nat → List Char → List Char × Bool
  | 0, _ => ([], false)
  | _, [] => ([], false)
  | fuel + 1, c :: rest =>
    if c = '\\' then
      if rest.head? == some 'c' then ([], true)
      else
        let zeroed := rest.head? == some '0' && (rest.drop 1).head?.any isOctal
        let (chars, after) := escape (if zeroed then rest.drop 1 else rest)
        let (others, ends) := unescape fuel after
        (chars ++ others, ends)
    else
      let (others, ends) := unescape fuel rest
      (c :: others, ends)

/-- What `echo` writes. -/
def echo (arguments : List String) : String :=
  let (line, arguments) := match arguments with
    | "-n" :: rest => (false, rest)
    | _ => (true, arguments)
  let text := (" ".intercalate arguments).toList
  let (chars, ends) := unescape (text.length + 1) text
  String.ofList (if line && !ends then chars ++ ['\n'] else chars)

/-! ### Formats -/

/-- The width or the precision of a conversion. -/
inductive Size where
  | fixed (size : Nat)
  /-- The next argument says it. -/
  | argument
deriving DecidableEq, Repr

/-- A part of a format. -/
inductive Directive where
  | plain (text : List Char)
  | conversion (flags : List Char) (width : Size) (precision : Option Size) (letter : Char)
  /-- The format ends within a conversion. -/
  | unfinished
  /-- No such conversion is known. -/
  | unknown (text : List Char)
deriving DecidableEq, Repr

def conversionLetters : List Char :=
  ['a', 'A', 'b', 'c', 'd', 'e', 'E', 'f', 'F', 'g', 'G', 'i', 'o', 's', 'u', 'x', 'X']

/-- The characters that change what a conversion does. -/
def flagChars : List Char :=
  ['#', '-', '+', ' ', '0']

/-- Reads a width or a precision. -/
def takeSize (text : List Char) : Size × List Char :=
  match text with
  | '*' :: rest => (.argument, rest)
  | _ =>
    let (size, rest) := Arithmetic.takeDigits 10 0 text
    (.fixed size, rest)

/-- Reads a conversion after its percent sign. -/
def takeConversion (text : List Char) : Directive × List Char :=
  let flags := text.takeWhile (· ∈ flagChars)
  let (width, rest) := takeSize (text.dropWhile (· ∈ flagChars))
  let (precision, rest) := match rest with
    | '.' :: rest =>
      let (size, rest) := takeSize rest
      (some size, rest)
    | _ => (none, rest)
  match rest with
  | [] => (.unfinished, [])
  | letter :: after =>
    if letter ∈ conversionLetters then (.conversion flags width precision letter, after)
    else (.unknown ('%' :: text.take (text.length - after.length)), after)

/-- Reads a format; at most `fuel` steps are taken. -/
def directives : Nat → List Char → List Directive
  | 0, _ => []
  | _, [] => []
  | fuel + 1, '\\' :: rest =>
    let (chars, after) := escape rest
    .plain chars :: directives fuel after
  | fuel + 1, '%' :: '%' :: rest => .plain ['%'] :: directives fuel rest
  | fuel + 1, '%' :: rest =>
    let (directive, after) := takeConversion rest
    directive :: directives fuel after
  | fuel + 1, c :: rest => .plain [c] :: directives fuel rest

/-! ### Passes -/

/-- Why a format cannot be used to its end. -/
inductive Misfit where
  | unfinished
  | unknown (text : List Char)
deriving DecidableEq, Repr

/-- The wording of a misfit. -/
def Misfit.message : Misfit → String
  | unfinished => "missing format character"
  | unknown text => String.ofList text ++ ": invalid directive"

/-- What is written in a pass over a format, and what is left to do. -/
structure Pass where
  written : String := ""
  arguments : List String
  /-- The arguments that should be numbers, with what is wrong with them, the last one first. -/
  doubts : List (String × Doubt) := []
  /-- What is wrong with the format, which ends the output. -/
  misfit : Option Misfit := none
  /-- Whether an escape sequence has ended the output. -/
  ended : Bool := false

namespace Pass

/-- Takes the next argument. -/
def next (pass : Pass) : String × Pass :=
  (pass.arguments.head?.getD "", { pass with arguments := pass.arguments.tail })

/-- Takes the next argument as a number that `read` finds in it. -/
def number {α : Type} (pass : Pass) (read : String → α × List Doubt) : α × Pass :=
  let (argument, pass) := pass.next
  let (value, doubts) := read argument
  let first := (doubts.take 1).map fun doubt => (argument, doubt)
  (value, { pass with doubts := first ++ pass.doubts })

/-- Finds out a width or a precision. -/
def size (pass : Pass) : Size → Int × Pass
  | .fixed size => (size, pass)
  | .argument => pass.number Conversion.signedOf

/-- Adds a text to what is written. -/
def write (pass : Pass) (text : List Char) : Pass :=
  { pass with written := pass.written ++ String.ofList text }

/-- Carries out a conversion. -/
def convert (pass : Pass) (layout : Conversion.Layout) (letter : Char) : Pass :=
  let clipped (text : List Char) : List Char := text.take (layout.precision.getD text.length)
  match letter with
  | 's' =>
    let (argument, pass) := pass.next
    pass.write (layout.fill false [] (clipped argument.toList))
  | 'c' =>
    let (argument, pass) := pass.next
    pass.write (layout.fill false [] [argument.toList.head?.getD '\x00'])
  | 'b' =>
    let (argument, pass) := pass.next
    let (text, ended) := unescape (argument.length + 1) argument.toList
    { pass.write (layout.fill false [] (clipped text)) with ended }
  | 'd' =>
    let (value, pass) := pass.number Conversion.signedOf
    pass.write (layout.signed value)
  | 'i' =>
    let (value, pass) := pass.number Conversion.signedOf
    pass.write (layout.signed value)
  | _ =>
    if letter ∈ ['o', 'u', 'x', 'X'] then
      let (value, pass) := pass.number Conversion.unsignedOf
      pass.write (layout.unsigned letter value)
    else
      let (value, pass) := pass.number Conversion.realOf
      pass.write (layout.real letter value)

/-- Whether nothing more is written. -/
def isOver (pass : Pass) : Bool :=
  pass.ended || pass.misfit.isSome

/-- Carries out one directive. -/
def step (pass : Pass) (directive : Directive) : Pass :=
  if pass.isOver then pass
  else match directive with
    | .plain text => pass.write text
    | .unfinished => { pass with misfit := some .unfinished }
    | .unknown text => { pass with misfit := some (.unknown text) }
    | .conversion flags width precision letter =>
      let (width, pass) := pass.size width
      let (precision, pass) := match precision with
        | some size =>
          let (size, pass) := pass.size size
          (if size < 0 then none else some size.toNat, pass)
        | none => (none, pass)
      pass.convert
        { left := '-' ∈ flags || width < 0, plus := '+' ∈ flags, blank := ' ' ∈ flags
          alternate := '#' ∈ flags, zeros := '0' ∈ flags, width := width.natAbs, precision }
        letter

end Pass

/-- Carries out a format until no argument is left; at most `fuel` times. -/
def passes (format : List Directive) : Nat → Pass → Pass
  | 0, pass => pass
  | fuel + 1, pass =>
    let next := format.foldl Pass.step pass
    if next.isOver || next.arguments.isEmpty || next.arguments.length = pass.arguments.length then
      next
    else passes format fuel next

/-- What comes of using a format for all arguments. -/
def printf (format : String) (arguments : List String) : Pass :=
  let text := format.toList
  passes (directives (text.length + 1) text) (arguments.length + 1) { arguments }

example : (printf "%s-%d\n" ["a", "7", "b", "0x8"]).written = "a-7\nb-8\n" := by
  decide +kernel

end GoldenSuite.Shell.Printing
