/-!
# Text without control sequences

What is left of a text when a terminal would show it: control characters other than blanks
vanish, and so does every control sequence that an escape character begins. A sequence that is
not finished swallows what follows it, up to the next character that cannot be part of it.
-/

namespace GoldenSuite.Text

/-- Where a reader of control sequences stands. -/
inductive Control where
  /-- Outside of any sequence. -/
  | none
  /-- Right after the escape character. -/
  | escape
  /-- Among the intermediate characters of a short sequence. -/
  | designation
  /-- In a sequence with parameters. -/
  | parameters
  /-- In a text for the title of the terminal, which a bell ends. -/
  | title
  /-- In a text for a device. -/
  | device
deriving DecidableEq, Repr

namespace Control

/-- Where the reader stands after a character below `DEL` that is not kept. -/
def next (state : Control) (c : Char) : Control :=
  if c = '\x1B' then .escape
  else if c = '\x18' ∨ c = '\x1A' then .none
  else if c = '\x7F' then state
  else if c < ' ' then
    if state = .title ∧ c = '\x07' then .none else state
  else match state with
    | .none => .none
    | .escape =>
      if c < '0' then .designation
      else if c = '[' then .parameters
      else if c = ']' then .title
      else if c = 'P' ∨ c = 'X' ∨ c = '^' ∨ c = '_' then .device
      else .none
    | .designation => if c < '0' then .designation else .none
    | .parameters => if c < '@' then .parameters else .none
    | .title => .title
    | .device => .device

/-- The blank characters that are kept although they are controls. -/
def isLayout (c : Char) : Bool :=
  c = '\t' || c = '\n' || c = '\x0C' || c = '\r'

/-- Whether a character below `DEL` is kept. Layout is kept everywhere but in a text that is
meant for the terminal itself. -/
def keeps (state : Control) (c : Char) : Bool :=
  match state with
  | .none => isLayout c || (' ' ≤ c && c < '\x7F')
  | .title => false
  | .device => false
  | _ => isLayout c

end Control

/-- Drops the control sequences of a text, read from where the reader stands. A wide character
ends any sequence; of one that stands inside a sequence the first byte is lost with it, and what
is left of the character is no character any more. -/
def plainFrom (state : Control) : List Char → List Char
  | [] => []
  | c :: rest =>
    if '\x7F' < c then
      match state with
      | .none => c :: plainFrom .none rest
      | _ => List.replicate (c.utf8Size - 1) '\uFFFD' ++ plainFrom .none rest
    else if state.keeps c then c :: plainFrom .none rest
    else plainFrom (state.next c) rest

/-- A text without control characters and control sequences. -/
def plain (text : String) : String :=
  String.ofList (plainFrom .none text.toList)

example : plain "a\x1B[31;1mb\x1B]0;t\x07c\x1B(Bd" = "abcd" := by decide +kernel

example : plain "a\x07b\x7Fc\td\x1B[" = "abc\td" := by decide +kernel

end GoldenSuite.Text
