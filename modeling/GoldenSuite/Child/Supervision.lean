import GoldenSuite.Child.Deadline
import GoldenSuite.Child.Outcome
import GoldenSuite.Diagnostic
import GoldenSuite.Session
import GoldenSuite.Text.Utf8

/-!
# Running a child under supervision

A command is handed to a launcher, which stands for the operating system: it refuses the
command, or starts a child that can be watched and that leaves files and an error stream
behind. Supervision checks the starting directory, makes a file for the error stream, starts the
child, waits for it and gathers what is kept of it. The standard output of a child goes nowhere
and its standard input is empty.
-/

namespace GoldenSuite

namespace Child

/-- What a child leaves behind. -/
structure Remains where
  /-- What is read back of its error stream. -/
  stderr : Except Fault Bytes
  workspace : Workspace

/-- A child that has been started. -/
structure Running where
  schedule : Schedule
  /-- What it leaves behind when it ends by itself, or when it is killed at some time. -/
  remains : Option Duration → Remains

/-- What starts children. It knows the commands that were handed over before, so that the same
command can come to something else when it is handed over again. -/
structure Launcher where
  /-- Makes the file that keeps the error stream of the next child, with a handle on it for the
  child. -/
  spool : List Command → Workspace → Except Fault Unit := fun _ _ => .ok ()
  launch : List Command → Command → Workspace → Except Fault Running

/-- Why a command could not be run to its end. -/
inductive SupervisionError where
  | spawn (program : String) (fault : Fault)
  | capture (program : String) (fault : Fault)
  | wait (program : String) (fault : Fault)
  | missingDirectory (path : Path)
deriving DecidableEq, Repr

namespace SupervisionError

/-- The wording of an error. -/
def message : SupervisionError → String
  | .spawn program fault => s!"failed to start '{program}': {fault.message}"
  | .capture program fault => s!"failed to capture stderr of '{program}': {fault.message}"
  | .wait program fault => s!"failed to wait for '{program}': {fault.message}"
  | .missingDirectory path => s!"working directory '{path.shown}' does not exist"

/-- The diagnostic that an error ends a run with. -/
def diagnostic (e : SupervisionError) : Diagnostic :=
  match e with
  | .spawn _ _ => ⟨.execution, "RUN.SPAWN", e.message⟩
  | .missingDirectory _ => ⟨.input, "INPUT.WORKING_DIR", e.message⟩
  | .capture _ _ => ⟨.system, "IO.PROCESS", e.message⟩
  | .wait _ _ => ⟨.system, "IO.PROCESS", e.message⟩

end SupervisionError

/-- The notes on a child that has ended. -/
def endRemarks (program : String) (status : Status) : List Note :=
  let finished := Part.child.debug ["program", "status", "elapsed_ms"]
    s!"child process finished: {program}, {status.text}"
  match status with
  | .timedOut limit =>
    [Part.child.warn ["program", "limit_secs"]
      s!"child process killed after deadline: {program}, {limit.seconds}s", finished]
  | _ => [finished]

/-- Refuses a starting directory that is not there. -/
def checkDirectory (command : Command) (ws : Workspace) : Except SupervisionError Unit :=
  match command.directory with
  | none => .ok ()
  | some directory =>
    if ws.isDirectory directory then .ok () else .error (.missingDirectory directory)

/-- Has a command started, unless one of its texts could not be handed over. -/
def Command.start (command : Command) (launcher : Launcher) (before : List Command)
    (ws : Workspace) : Except Fault Running :=
  if command.spoiled then .error .nulInArgument else launcher.launch before command ws

/-- Watches a running child and gathers what is kept of it. -/
def attend (program : String) (limit : Option Duration) (running : Running) :
    Act SupervisionError Outcome := do
  let watch := running.schedule.watch limit
  let remains := running.remains watch.killed
  let status ← Act.change fun _ =>
    (watch.answer.mapError (SupervisionError.wait program), remains.workspace)
  let stderr ← Act.look fun _ => remains.stderr.mapError (SupervisionError.capture program)
  Act.remark (endRemarks program status)
  pure ⟨status, Text.decodeLossy stderr⟩

/-- Runs a command under supervision, with a limit when there is one. -/
def supervise (launcher : Launcher) (command : Command) (limit : Option Duration) :
    Act SupervisionError Outcome := do
  Act.look (checkDirectory command)
  let before ← Act.handed
  Act.look fun ws =>
    (launcher.spool before ws).mapError (SupervisionError.capture command.shownProgram)
  Act.note (Part.child.debug ["command"] s!"spawning child process: {command.line}")
  Act.record command
  let running ← Act.look fun ws =>
    (command.start launcher before ws).mapError (SupervisionError.spawn command.shownProgram)
  attend command.shownProgram limit running

end Child

end GoldenSuite
