import GoldenSuite.Text.Blank
import GoldenSuite.Verdict

/-!
# What is kept of a child process

Of a child that has ended, its status and what it wrote to its error stream are kept. For a
message that stream is cut down to its last lines that are not blank.
-/

namespace GoldenSuite.Child

/-- How a child ended and what it wrote to its error stream. -/
structure Outcome where
  status : Status
  stderr : String
deriving DecidableEq, Repr

/-- The lines of a text that are not blank, each without the blank characters at its end. -/
def meaningfulLines (text : String) : List (List Char) :=
  ((Text.lines text.toList).map Text.trimEnd).filter fun line => !line.all Text.isBlank

/-- The last lines of a text that are not blank, at most `count` of them, in one line. -/
def tail (text : String) (count : Nat) : String :=
  " | ".intercalate ((Text.lastOf count (meaningfulLines text)).map String.ofList)

namespace Outcome

/-- Whether the child ended with success. -/
def succeeded (outcome : Outcome) : Bool :=
  outcome.status.succeeded

/-- The end of the error stream, in one line. -/
def stderrTail (outcome : Outcome) (count : Nat) : String :=
  tail outcome.stderr count

/-- How many lines of the error stream a verdict quotes. -/
def excerptLines : Nat := 3

/-- Why a simulator that ended like this fails its case, when it does: its output is looked at
only after exit code zero. -/
def failure? (outcome : Outcome) : Option Reason :=
  match outcome.status with
  | .exited 0 => none
  | .timedOut limit => some (.timedOut limit)
  | status => some (.simulatorFailed status (outcome.stderrTail excerptLines))

theorem failure?_eq_none_iff {outcome : Outcome} :
    outcome.failure? = none ↔ outcome.status = .exited 0 := by
  unfold failure?
  split <;> simp_all

end Outcome

end GoldenSuite.Child
