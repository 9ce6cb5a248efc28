import GoldenSuite.CommandLine.Snapshot
import GoldenSuite.Shell.Launcher

/-!
# The program

The arguments are the command line and the standard input is a snapshot of the files to work
on. Verdicts go to the standard output, notes and what ended the run to the standard error.
-/

namespace GoldenSuite

/-- Reads the lines of a stream. -/
partial def readRecords (input : IO.FS.Stream) (records : List String) : IO (List String) := do
  let line ← input.getLine
  if line.isEmpty then pure records.reverse
  else readRecords input ((line.splitOn "\n").headD "" :: records)

end GoldenSuite

open GoldenSuite in
/-- Runs the command line on a snapshot. -/
def main (arguments : List String) : IO UInt32 := do
  let records ← readRecords (← IO.getStdin) []
  let response := CommandLine.run Shell.launcher (.ofRecords (arguments.map Text.encode) records)
  IO.print response.output
  for note in response.notes do
    IO.eprintln note.line
  for line in response.errorLines do
    IO.eprintln line
  pure (UInt32.ofNat response.code)
