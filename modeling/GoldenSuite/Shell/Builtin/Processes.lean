import GoldenSuite.Shell.Builtin.Basic
import GoldenSuite.Shell.Mention

/-!
# Commands on processes

The commands that send and trap signals, and that list and wait for the jobs that go on beside
the script. A job keeps its place until the script has waited for it and a new one needs the
place.
-/

namespace GoldenSuite.Shell

namespace Process

/-- The jobs, the last one first. -/
def latestJobs (p : Process) : List Job :=
  (p.jobs.filterMap id).mergeSort fun a b => b.process ≤ a.process

/-- The number of a place that a new job can take: one that is free or whose job is no longer
needed, or else the one after all others. -/
def freePlace (p : Process) : Nat :=
  p.jobs.findIdx fun job => job.all fun job => job.awaited && job.ending.isSome

/-- Puts a job on a place. -/
def placeJob (p : Process) (place : Nat) (job : Option Job) : Process :=
  { p with jobs := if place < p.jobs.length then p.jobs.set place job else p.jobs ++ [job] }

def changeJob (p : Process) (process : Nat) (f : Job → Option Job) : Process :=
  { p with
    jobs := p.jobs.map fun job =>
      job.bind fun job => if job.process = process then f job else some job }

def job? (p : Process) (process : Nat) : Option Job :=
  (p.jobs.filterMap id).find? fun job => job.process = process

end Process

namespace Run

/-- Takes notice of the jobs that have ended. -/
def noticeJobs : Run Unit := do
  let w := (← get).world
  change fun p =>
    { p with
      jobs := p.jobs.map fun job => job.map fun job =>
        match job.ending, w.ending? job.process with
        | none, some (_, status, signal) => { job with ending := some (status, signal) }
        | _, _ => job }

/-- What is said of a process that a signal has ended. -/
def mourn (signal : Option Nat) : Run Unit := do
  match signal.bind Signal.obituary? with
  | some line => complain line
  | none => pure ()

end Run

/-- The status of a process that has ended. -/
def Job.statusOf (ending : Nat × Option Nat) : Nat :=
  match ending.2 with
  | some signal => Signal.status signal
  | none => ending.1

namespace Builtin

/-- The job that an argument such as `%1` names; the current one if there is no argument. -/
def jobNamed (argument : Option String) : Run Job := do
  let p ← Run.process
  let latest := p.latestJobs
  let present (job : Option Job) (problem : String) : Run Job :=
    match job with
    | some job => pure job
    | none => Run.giveUp problem
  let current := present latest.head? "No current job"
  match argument.map String.toList with
  | none => current
  | some ['%'] => current
  | some ['%', '%'] => current
  | some ['%', '+'] => current
  | some ['%', '-'] => present latest[1]? "No previous job"
  | some text =>
    let place := (argumentNumber? (String.ofList (text.drop 1))).getD 0
    let found := if text.head? = some '%' && 0 < place then (p.jobs[place - 1]?).join else none
    present found s!"No such job: {String.ofList text}"

/-! ### Signals -/

/-- Sets what is run at signals; nothing takes the trap away. -/
def setTraps (action : Option String) : List String → Run Nat
  | [] => pure 0
  | text :: others => do
    match Signal.ofText? text with
    | none => Run.refuse 1 s!"trap: {text}: bad trap"
    | some number => do
      if number ∉ (← Run.process).ignored then
        Run.change fun p =>
          let kept := p.traps.filter fun pair => pair.1 ≠ number
          { p with traps := (action.map fun text => (number, text)).toList ++ kept }
      setTraps action others

/-- Lists traps in the order of their signals. -/
def listTraps : Run Nat := do
  let sorted := (← Run.process).traps.mergeSort fun a b => a.1 ≤ b.1
  for (number, action) in sorted do
    Run.sayLine s!"trap -- {Mention.reusable action} {Signal.name number}"
  pure 0

/-- Sets or lists what is run at signals. An action that is a number or stands alone is the first
of the signals whose traps are taken away. -/
def trap : Builtin := fun arguments => do
  match ← takeOperands arguments with
  | [] => listTraps
  | [only] => setTraps none [only]
  | action :: signals =>
    if (Signal.ofNumber? action).isSome then setTraps none (action :: signals)
    else setTraps (if action = "-" then none else some action) signals

/-- How `kill` is called. -/
def killUsage : String :=
  "Usage: kill [-s sigspec | -signum | -sigspec] [pid | job]... or\nkill -l [exitstatus]"

/-- Whether there is a process with a number that a signal could reach. -/
def isAlive (m : Machine) (number : Nat) : Bool :=
  number = m.process.number || (m.process.waiting.any fun pair => pair.1 = number) ||
    m.world.companions.any fun c => c.number = number && !c.hasEnded m.world.elapsed

/-- Sends a signal to the process that an argument names. The signal zero only asks whether there
is one. -/
def sendTo (signal : Nat) (argument : String) : Run Nat := do
  let noProcess : Run Nat := do
    Run.complainHere s!"{(Fault.system 3).plain}\n"
    pure 1
  match argument.toList with
  | '%' :: _ => do
    discard (jobNamed (some argument))
    noProcess
  | '-' :: digits => do
    discard (Run.argumentNumber (String.ofList digits))
    noProcess
  | _ => do
    let number ← Run.argumentNumber argument
    let m ← get
    let number := if number = 0 then m.process.number else number
    if isAlive m number || number = m.process.root then
      if signal ≠ 0 then
        Run.act (·.send number signal)
        Run.heed
      pure 0
    else noProcess

/-- Lists the names of all signals, or of the signal that a status stands for. -/
def listSignals (arguments : List String) : Run Nat := do
  match arguments with
  | [] => do
    Run.sayLine "0"
    for number in (List.range Signal.count).drop 1 do
      Run.sayLine (Signal.name number)
    pure 0
  | argument :: _ => do
    let number ← Run.argumentNumber argument
    let number := if 128 < number then number - 128 else number
    if 0 < number && number < Signal.count then
      Run.sayLine (Signal.name number)
      pure 0
    else Run.giveUp s!"invalid signal number or exit status: {argument}"

/-- The signal that `kill` is to send, when it is not the usual one, whether signals are to be
listed, and the operands. -/
def killOptions (arguments : List String) : Run (Option Nat × Bool × List String) := do
  match arguments with
  | [] => pure (none, false, [])
  | first :: rest =>
    match first.toList with
    | '-' :: name =>
      match Signal.ofName? (String.ofList name) with
      | some signal => pure (some signal, false, rest)
      | none => do
        let (options, operands) ← takeOptions [('l', false), ('s', true)] arguments
        let signal ← match options.lookup 's' with
          | none => pure none
          | some text =>
            match Signal.ofName? text with
            | some signal => pure (some signal)
            | none => Run.giveUp s!"invalid signal number or name: {text}"
        pure (signal, options.any fun option => option.1 = 'l', operands)
    | _ => pure (none, false, arguments)

/-- Sends signals to processes, or lists signals. -/
def kill : Builtin := fun arguments => do
  let (signal, list, operands) ← killOptions arguments
  if list && signal.isNone then listSignals operands
  else if operands.isEmpty || list then Run.giveUp killUsage
  else Run.forEach operands (sendTo (signal.getD 15))

/-! ### Jobs -/

/-- How it is said that a job has ended. -/
def endingText (ending : Nat × Option Nat) : String :=
  match ending with
  | (_, some signal) => Signal.description signal
  | (0, none) => "Done"
  | (status, none) => s!"Done({status})"

/-- Lists the jobs; those that have ended are forgotten one after the other. -/
def listJobs (withProcess : Bool) : List Job → Run Unit
  | [] => pure ()
  | job :: others => do
    let p ← Run.process
    let latest := p.latestJobs
    let place := p.jobs.findIdx (· = some job)
    let mark :=
      if latest.head? = some job then "+" else if latest[1]? = some job then "-" else " "
    let text := match job.ending with
      | some ending => endingText ending
      | none => "Running"
    let number := if withProcess then s!"{job.process} " else ""
    let start := s!"[{place + 1}] {mark} {number}{text}"
    Run.sayLine (start ++ String.ofList (List.replicate (33 - start.length) ' '))
    if job.ending.isSome then Run.change fun p => p.changeJob job.process fun _ => none
    listJobs withProcess others

/-- Lists jobs. -/
def jobs : Builtin := fun arguments => do
  let (options, names) ← takeOptions [('l', false), ('p', false)] arguments
  Run.noticeJobs
  let latest := (← Run.process).latestJobs
  let shown ← if names.isEmpty then pure latest else names.mapM fun name => jobNamed (some name)
  if options.any fun option => option.1 = 'p' then
    for job in shown do
      Run.sayLine (toString job.process)
  else listJobs (options.any fun option => option.1 = 'l') shown
  pure 0

/-- Refuses to bring a job to the front or the back, since jobs have no terminal. -/
def resume : Builtin := fun arguments => do
  let name := (← takeOperands arguments).head?
  discard (jobNamed name)
  let shown := name.getD "(null)"
  Run.giveUp s!"job {shown} not created under job control"

/-- Waits until something is the case or a signal calls; the status of the call if one does. -/
def waitOrCalled (isDone : Machine → Bool) : Run (Option Nat) := do
  Run.waitUntil fun m => isDone m || Run.isCalled m
  let m ← get
  if isDone m then pure none
  else
    let signals := m.world.scene.sent.filter fun sent => sent.process = m.process.number
    pure ((signals.map Sent.signal).min?.map Signal.status)

/-- Whether a process has ended as far as the machine knows. -/
def hasEnded (number : Nat) (m : Machine) : Bool :=
  (m.world.ending? number).isSome

/-- Waits for all jobs. -/
def waitForAll : Run Nat := do
  let running := ((← Run.process).jobs.filterMap id).filter fun job => job.ending.isNone
  match ← waitOrCalled fun m => running.all fun job => hasEnded job.process m with
  | some status => pure status
  | none => do
    Run.noticeJobs
    Run.change fun p =>
      { p with jobs := p.jobs.map fun job => job.map fun job => { job with awaited := true } }
    pure 0

/-- Waits for the jobs in the arguments; the status is that of the last one. -/
def waitForEach : Nat → List String → Run Nat
  | status, [] => pure status
  | status, argument :: others => do
    let job ← match argument.toList with
      | '%' :: _ => do pure (some (← jobNamed (some argument)))
      | _ => do
        let number ← Run.argumentNumber argument
        pure ((← Run.process).job? number)
    match job with
    | none => waitForEach status others
    | some job => do
      let called ← match job.ending with
        | some _ => pure none
        | none => waitOrCalled (hasEnded job.process)
      match called with
      | some status => pure status
      | none => do
        Run.noticeJobs
        let ended := (← Run.process).job? job.process
        let ending := (ended.bind Job.ending).getD (127, none)
        if job.ending.isNone then Run.mourn ending.2
        Run.change fun p => p.changeJob job.process fun job => some { job with awaited := true }
        waitForEach (Job.statusOf ending) others

/-- Waits for jobs. -/
def wait : Builtin := fun arguments => do
  match ← takeOperands arguments with
  | [] => waitForAll
  | names => waitForEach 127 names

end Builtin

end GoldenSuite.Shell
