import GoldenSuite.Shell.Flags
import GoldenSuite.Shell.Printing

/-!
# Small programs

The programs that write a text or let time pass.
-/

namespace GoldenSuite.Shell.Utility

/-- A program: what it does under a name with its arguments. -/
abbrev Program := String → List String → Run Nat

/-! ### Time -/

/-- The number of milliseconds in a unit of time. -/
def unit? : List Char → Option Nat
  | [] => some 1000
  | ['s'] => some 1000
  | ['m'] => some 60000
  | ['h'] => some 3600000
  | ['d'] => some 86400000
  | _ => none

/-- A span of time as a program is asked to let it pass. -/
inductive Span where
  | millis (count : Nat)
  | forever
deriving DecidableEq, Repr

/-- The span that a text such as `1.5`, `2m` or `inf` asks for. -/
def Span.ofText? (text : String) : Option Span := do
  let (negative, digits) := Conversion.takeSign (text.toList.dropWhile Arithmetic.isSpace)
  let (value, rest, _) ← Conversion.takeReal? negative digits
  let unit ← unit? rest
  match value with
  | .nan _ => none
  | .number negative size =>
    if negative && size ≠ .finite 0 0 then none
    else match size with
      | .infinite => some .forever
      | .finite significand exponent =>
        let x := Decimal.Fraction.scaled 2 (significand * unit) exponent
        some (.millis (x.numerator / x.denominator))

/-- Lets time pass. -/
def sleep : Program := fun name arguments =>
  Run.withCall name [] arguments fun call => do
    let spans := call.operands.map fun operand => (operand, Span.ofText? operand)
    let wrong := spans.filter fun span => span.2.isNone
    if spans.isEmpty then Run.misused name "missing operand"
    else if wrong.isEmpty then
      for span in spans.filterMap Prod.snd do
        match span with
        | .millis count => Run.sleep count
        | .forever => Run.waitUntil fun _ => false
      pure 0
    else
      for span in wrong do
        Run.complain s!"{name}: invalid time interval {Mention.quoted span.1}"
      Run.sendForHelp name

/-! ### Output -/

/-- The options at the start of the arguments of `echo`: letters behind a hyphen, and nothing
else. -/
def echoLetters : List String → List Char × List String
  | [] => ([], [])
  | argument :: rest =>
    match argument.toList with
    | '-' :: letter :: letters =>
      if (letter :: letters).all (· ∈ ['n', 'e', 'E']) then
        let (others, operands) := echoLetters rest
        (letter :: letters ++ others, operands)
      else ([], argument :: rest)
    | _ => ([], argument :: rest)

/-- Writes its arguments. Escape sequences count only on demand. -/
def echo : Program := fun name arguments => do
  let (letters, operands) := echoLetters arguments
  let text := " ".intercalate operands
  let escapes := (letters.reverse.find? (· ≠ 'n')) = some 'e'
  let (chars, ends) :=
    if escapes then Printing.unescape (text.length + 1) text.toList else (text.toList, false)
  let written := String.ofList (if 'n' ∈ letters || ends then chars else chars ++ ['\n'])
  Run.say written
  Run.closeSpeech name 0

/-- Writes the working directory. -/
def pwd : Program := fun name arguments =>
  let flags : List Flag :=
    [{ key := "L", letters := ['L'], names := ["logical"] },
     { key := "P", letters := ['P'], names := ["physical"] }]
  Run.withCall name flags arguments fun call => do
    if !call.operands.isEmpty then
      Run.object name "ignoring non-option arguments"
    let path := "/" ++ "/".intercalate (← Run.process).here
    Run.sayLine path
    Run.closeSpeech name 0

end GoldenSuite.Shell.Utility
