import GoldenSuite.Shell.Transfer

/-!
# What commands say

What a command has to say is gathered and written when it is done. A program that has something to
object writes first what it has said so far, so that both come out in this order.
-/

namespace GoldenSuite.Shell.Run

/-- Adds to what is said. -/
def say (text : String) : Run Unit :=
  change fun p => { p with spoken := text :: p.spoken }

/-- Adds a line to what is said. -/
def sayLine (line : String) : Run Unit :=
  say (line ++ "\n")

/-- Writes what has been said; what is wrong with the output, if anything. -/
def utter : Run (Option Fault) := do
  let text := String.join (← process).spoken.reverse
  change fun p => { p with spoken := [] }
  if text.isEmpty then pure none else write 1 (Octets.toBytes text)

/-! ### Programs -/

/-- Has a program object to something, after what it has said before. -/
def object (name problem : String) : Run Unit := do
  if (← utter).isSome then change fun p => { p with unheard := true }
  complain s!"{name}: {problem}"

/-- Has a program object to something and yields a status. -/
def objectWith (status : Nat) (name problem : String) : Run Nat := do
  object name problem
  pure status

/-- Ends a program with a status. What it has said is written; when any of it could not be
written the program fails. -/
def closeSpeech (name : String) (status : Nat) : Run Nat := do
  let unheard := (← process).unheard
  match ← utter with
  | some fault => refuse 1 s!"{name}: write error: {fault.plain}"
  | none =>
    if !unheard then pure status
    else if ((← get).streamOf? 1).isNone then
      refuse 1 s!"{name}: write error: {badDescriptor.plain}"
    else refuse 1 s!"{name}: write error"

end GoldenSuite.Shell.Run
