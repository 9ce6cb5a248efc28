import GoldenSuite.Shell.Builtin
import GoldenSuite.Shell.Redirecting

/-!
# Starting processes

A process is a copy of the one that starts it. It is waited for, or it goes on beside the other
one; several can be joined to a pipeline, and what a process writes can become a text.
-/

namespace GoldenSuite.Shell

/-! ### How processes end -/

/-- How a process ends. -/
inductive Ending where
  | exited (status : Nat)
  | signaled (signal : Nat)
deriving DecidableEq, Repr

namespace Ending

/-- How the process with a number ends because of a stop, unless that ends something else. -/
def ofStop? (number : Nat) : Stop → Option Ending
  | .exited status => some (exited (status % 256))
  | .returned status => some (exited (status % 256))
  | .failed => some (exited 2)
  | .broken _ => some (exited 0)
  | .continued _ => some (exited 0)
  | .signaled process signal => if process = number then some (signaled signal) else none
  | .killed => none
  | .endless => none
  | .waiting => none

/-- The status and the signal of an ending. -/
def parts : Ending → Nat × Option Nat
  | exited status => (status, none)
  | signaled signal => (Signal.status signal, some signal)

end Ending

namespace Process

/-- Whether something is run at signals. -/
def hasTraps (p : Process) : Bool :=
  p.traps.any fun trap => trap.2 ≠ ""

/-- The process as a shell within the shell. -/
def inner (p : Process) : Process :=
  { p with traps := p.traps.filter fun trap => trap.2 = "", caught := [], jobs := [] }

/-- The process as it is when another program takes it over. -/
def forProgram (p : Process) : Process :=
  { p with
    traps := []
    ignored := (p.traps.filter fun trap => trap.2 = "").map Prod.fst ++ p.ignored
    caught := []
    jobs := []
    command := none
    spoken := [] }

/-- The process as it goes on beside the script: interruptions do not reach it. -/
def aside (p : Process) : Process :=
  { p.inner with ignored := [2, 3] ++ p.ignored }

/-- The process with descriptors that lead to other streams. -/
def connected (p : Process) (streams : List (Nat × Nat)) : Process :=
  let descriptors := streams.map Prod.fst
  { p with
    descriptors := streams ++ p.descriptors.filter fun pair => pair.1 ∉ descriptors }

end Process

namespace Run

/-- Forgets the streams and pipes that were opened since and are not in use any more. -/
def tidied (before : Machine) (m : Machine) : Machine :=
  let streams := (before.world.nextStream, m.world.nextStream)
  let pipes := (before.world.nextPipe, m.world.nextPipe)
  if streams.1 = streams.2 || !m.world.isQuiet then m
  else
    let used := m.process.descriptors.map Prod.snd
    { m with world := m.world.act m.process.number (·.release streams pipes used) }

/-- Gives up the place of a job that is no longer needed, when a process is started. -/
def makePlace : Run Unit :=
  change fun p =>
    let place := p.freePlace
    if place < p.jobs.length then p.placeJob place none else p

/-- How long a process that nobody waits for any more is still looked at, in milliseconds. -/
def afterlife : Nat := 20

/-- Runs something that goes on though a signal ends a process that waits for it, which happens
at a given time. Signals to processes that wait have no effect on it. -/
def orphaned (time : Nat) (body : Run Nat) (m : Machine) : Machine :=
  let limit := time + afterlife
  let bound (deadline : Option Nat) : Option Nat := some ((deadline.map (min limit)).getD limit)
  let start : Machine :=
    { world := { m.world with deadline := bound m.world.deadline }
      process := { m.process with
        waiting := m.process.waiting.map fun pair => (pair.1, List.range Signal.count) } }
  let after := match body start with
    | .ok _ after => after
    | .error _ after => after
  { after with world := { after.world with deadline := m.world.deadline, elapsed := time } }

/-- Runs something as a process of its own and waits for its end. -/
def inChild (prepare : Process → Process) (body : Run Nat) : Run Ending := fun m =>
  let number := m.world.nextProcess
  let p := m.process
  let child := prepare
    { p with number, parent := p.number, waiting := (p.number, p.survived) :: p.waiting }
  let start : Machine := { world := { m.world with nextProcess := number + 1 }, process := child }
  let back (after : Machine) : Machine := tidied m { world := after.world, process := p }
  match body start with
  | .ok status after => .ok (.exited (status % 256)) (back after)
  | .error stop after =>
    match Ending.ofStop? number stop, Ending.ofStop? p.number stop with
    | some ending, _ => .ok ending (back after)
    | none, some _ => .error stop (back (orphaned after.world.elapsed body start))
    | none, none => .error stop (back after)

/-- Runs something as a process of its own; its status, after it has been said which signal ended
it. -/
def await (prepare : Process → Process) (body : Run Nat) : Run Nat := do
  makePlace
  let ending ← inChild prepare body
  noticeJobs
  mourn ending.parts.2
  pure ending.parts.1

/-! ### Processes that go on beside -/

/-- The ends of pipes to which descriptors lead. -/
def pipeEnds (m : Machine) (descriptors : List (Nat × Nat)) : List (Nat × Bool) :=
  (descriptors.filterMap fun pair =>
    match m.world.scene.stream? pair.2 with
    | some { place := .pipe pipe, writable, .. } => some (pipe, writable)
    | _ => none).eraseDups

/-- What a process does after its end with those that it has started: they go on. -/
def remainder (m : Machine) : List Event × World :=
  let after := match settle m with
    | .ok _ after => after
    | .error _ after => after
  let upcoming := after.world.companions.flatMap Companion.upcoming
  (upcoming.mergeSort fun a b => a.time ≤ b.time, after.world)

/-- Lets what is done outside happen until a signal ends the process: the machine then, and the
signal. -/
def overtake (m : Machine) : List Event → Option (Machine × Nat)
  | [] => none
  | event :: others =>
    let m := { m with world := (m.world.advance event.time).learn event }
    match m.world.scene.sent.find? (isLethal m.process) with
    | some sent =>
      if sent.signal ∈ Signal.stopping then overtake m others else some (m, sent.signal)
    | none => overtake m others

/-- Lets a process become what it is to be. Signals that have been sent to it before still find it
as it was. -/
def become (prepare : Process → Process) : Run Unit := do
  heed
  let m ← get
  if m.world.scene.sent.any fun sent => sent.process = m.process.number then
    act (·.collect m.process.number)
  change prepare

/-- What becomes of a process that goes on beside others. -/
def course (process : Process) (prepare : Process → Process) (stride : Nat)
    (held : List (Nat × Bool)) (body : Run Nat) (scene : Scene) (time : Nat)
    (heard : List Event) : Outcome :=
  let first := process.number * Nat.pow 2 32
  let world : World :=
    { scene, elapsed := time, outside := heard, record := some [], stride
      nextProcess := process.number + 1, nextStream := first, nextPipe := first }
  let ended (m : Machine) (ending : Ending) : Outcome :=
    let m := { m with world := m.world.act process.number (·.letGo held) }
    let (later, world) := remainder m
    { events := (world.record.getD []).reverse ++ later, ends := some m.world.elapsed
      status := ending.parts.1, signal := ending.parts.2 }
  let open_ (m : Machine) : Outcome :=
    { events := (m.world.record.getD []).reverse, ends := none }
  match (become prepare *> body) { world, process } with
  | .ok status m => ended m (.exited (status % 256))
  | .error stop m =>
    match Ending.ofStop? process.number stop with
    | some ending => ended m ending
    | none =>
      match if stop = .endless then overtake m m.world.outside else none with
      | some (m, signal) => ended m (.signaled signal)
      | none => open_ m

/-- Starts a process that goes on beside the present one and yields its number. The descriptors
that it redirects at once do not count for pipes. -/
def startAside (prepare : Process → Process) (redirected : List Nat) (body : Run Nat) :
    Run Nat := do
  let m ← get
  let number := m.world.nextProcess
  let stride := m.world.stride
  let process := { m.process with number, parent := m.process.number, waiting := [] }
  let held := pipeEnds m ((prepare process).descriptors.filter fun pair => pair.1 ∉ redirected)
  act (·.hold held)
  modify fun m =>
    { m with
      world := { m.world with
        nextProcess := number + max stride 1
        companions := m.world.companions ++
          [{ number, course := course process prepare (stride / 16) held body }] } }
  pure number

def startJob (redirected : List Nat) (body : Run Nat) : Run Unit := do
  let idle ← openStream { place := .nowhere, readable := true, writable := false }
  let number ← startAside (fun p => p.aside.connected [(0, idle)]) redirected body
  change fun p =>
    { p.placeJob p.freePlace (some { process := number }) with lastJob := some number }

/-! ### Pipelines -/

/-- How many bytes there is room for in a pipe. -/
def pipeRoom : Nat := 65536

/-- Opens a pipe: the streams to its ends, the one for reading first. -/
def openEnds (pipe : Pipe) : Run (Nat × Nat) := do
  let number ← openPipe pipe
  let reading ← openStream { place := .pipe number, readable := true, writable := false }
  let writing ← openStream { place := .pipe number, readable := false, writable := true }
  pure (reading, writing)

/-- Starts all but the last of the processes of a pipeline; their numbers, and the stream from
which the last one reads, when it does. -/
def startPipeline : Option Nat → List (Run Nat) → Run (List Nat × Option Nat)
  | input, [] => pure ([], input)
  | input, body :: others => do
    let (reading, writing) ← openEnds { room := some pipeRoom }
    let streams := (input.map fun stream => (0, stream)).toList ++ [(1, writing)]
    let number ← startAside (fun p => p.inner.connected streams) [] body
    let (numbers, last) ← startPipeline (some reading) others
    pure (number :: numbers, last)

/-- Runs processes side by side, each one reading what the one before it writes; the status is
that of the last one. -/
def pipeline (first : List (Run Nat)) (last : Run Nat) : Run Nat := do
  makePlace
  let before ← get
  let (numbers, input) ← startPipeline none first
  let streams := (input.map fun stream => (0, stream)).toList
  let held := pipeEnds (← get) streams
  act (·.hold held)
  settle
  let ending ← inChild (fun p => p.inner.connected streams) last
  act (·.letGo held)
  let time := (← get).world.elapsed
  waitUntil fun m => numbers.all fun number => (m.world.ending? number).isSome
  let w := (← get).world
  let all := numbers.filterMap w.ending? ++ [(time, ending.parts)]
  for (_, _, signal) in all.mergeSort fun a b => a.1 ≤ b.1 do
    mourn signal
  modify fun m => tidied before { m with world := m.world.dismiss numbers }
  noticeJobs
  pure ending.parts.1

/-! ### Output as text -/

/-- What something writes as a process of its own, and its status. -/
def captured (body : Run Nat) : Run (List Char × Nat) := do
  let before ← get
  let (reading, writing) ← openEnds { readers := 1 }
  let ending ← inChild (fun p => p.inner.connected [(1, writing)]) body
  let bytes ← readRest reading
  noticeJobs
  mourn ending.parts.2
  modify (tidied before)
  pure ((bytes.filter (· ≠ 0)).map Octets.ofByte, ending.parts.1)

end Run

end GoldenSuite.Shell
