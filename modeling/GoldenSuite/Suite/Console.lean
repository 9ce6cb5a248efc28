import GoldenSuite.Fault
import GoldenSuite.Suite.Reporter

/-!
# Reporting on a console

The console shows one line for every case that has been judged, and the summary in the end. A
line that cannot be written costs one warning and nothing else.
-/

namespace GoldenSuite

/-! ### Writers -/

/-- What lines are written to. -/
structure Writer (ω : Type) where
  /-- Writes a line with its line feed and passes it on, as far as that succeeds. -/
  emit : String → ω → Except Fault Unit × ω

namespace Writer

/-- Collects what is written in one text. -/
def collecting : Writer String where
  emit line written := (.ok (), written ++ line ++ "\n")

/-- Never takes a line. -/
def broken : Writer Unit where
  emit _ _ := (.error .brokenPipe, ())

end Writer

/-- What texts are written to. Anything may fail, a write also when a part of its text is through
already. -/
structure Stream (ω : Type) where
  write : String → ω → Except Fault Unit × ω
  /-- Passes on what has been written. -/
  flush : ω → Except Fault Unit × ω

namespace Stream

variable {ω : Type}

/-- Goes on when what was done before has succeeded. -/
def andThen (done : Except Fault Unit × ω) (next : ω → Except Fault Unit × ω) :
    Except Fault Unit × ω :=
  match done with
  | (.ok (), left) => next left
  | (.error fault, left) => (.error fault, left)

/-- The writer that writes a line to a stream, then its line feed, and then flushes the stream. -/
def writer (stream : Stream ω) : Writer ω where
  emit line sink := andThen (andThen (stream.write line sink) (stream.write "\n")) stream.flush

end Stream

/-! ### Colours -/

/-- When colours are used. -/
inductive ColorChoice where
  /-- On a terminal. -/
  | auto
  | always
  | never
deriving DecidableEq, Repr

/-- Whether colours are used. -/
def ColorChoice.enabled (choice : ColorChoice) (terminal : Bool) : Bool :=
  match choice with
  | .auto => terminal
  | .always => true
  | .never => false

namespace Console

def green : String := "\x1b[92m"
def red : String := "\x1b[91m"
def plain : String := "\x1b[0m"

/-- The wording of a verdict, in its colour when colours are used. -/
def paint (colors : Bool) (verdict : Verdict) : String :=
  if colors then
    (if verdict.passed then green else red) ++ verdict.text ++ plain
  else verdict.text

/-- The line on a case that has been judged. -/
def verdictLine (colors : Bool) (report : CaseReport) : String :=
  s!"[{report.name}] {paint colors report.verdict}"

end Console

/-! ### The console -/

/-- A console: where its lines go, and which lines it has tried to write. -/
structure Console (ω : Type) where
  sink : ω
  attempted : List String := []
deriving Repr

namespace Console

variable {ω : Type}

/-- Tries to write a line. -/
def emit (writer : Writer ω) (line : String) (console : Console ω) : Console ω × List Note :=
  let (answer, sink) := writer.emit line console.sink
  let notes := match answer with
    | .ok () => []
    | .error fault => [Part.console.warn ["error", "line"]
      s!"failed to write verdict output: {fault.message}, {line}"]
  (⟨sink, console.attempted ++ [line]⟩, notes)

def reporter (writer : Writer ω) (colors : Bool) : Reporter (Console ω) where
  caseStarted _ console := (console, [])
  caseFinished report := emit writer (verdictLine colors report)
  runFinished summary := emit writer summary.text

theorem attempted_emit (writer : Writer ω) (line : String) (console : Console ω) :
    (emit writer line console).1.attempted = console.attempted ++ [line] := rfl

end Console

end GoldenSuite
