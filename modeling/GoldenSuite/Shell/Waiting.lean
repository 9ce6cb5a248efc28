import GoldenSuite.Shell.Machine

/-!
# Waiting

Time passes for a process while it sleeps or waits for others. Whatever others do in the meantime
happens in the order of time, and signals arrive.
-/

namespace GoldenSuite.Shell

/-- The time of what happens next. -/
def World.Next.time : World.Next → Nat
  | companion _ time => time
  | outside time => time

/-- Whether something happens up to a time; what is done outside at that very time comes too
late. -/
def World.Next.isWithin (limit : Option Nat) : World.Next → Bool
  | companion _ time => limit.all (time ≤ ·)
  | outside time => limit.all (time < ·)

namespace Run

/-! ### Signals -/

/-- Whether a signal ends the process, or one that waits for it. -/
def isLethal (p : Process) (sent : Sent) : Bool :=
  let survived :=
    if sent.process = p.number then some p.survived else p.waiting.lookup sent.process
  survived.any (sent.signal ∉ ·)

/-- Takes notice of signals that end the process, or one that waits for it. -/
def heed : Run Unit := do
  let m ← get
  match m.world.scene.sent.find? (isLethal m.process) with
  | some sent =>
    if sent.signal ∈ Signal.stopping then throw .endless
    else throw (.signaled sent.process sent.signal)
  | none => pure ()

/-- Whether a signal has arrived for which the process has something to do. -/
def isCalled (m : Machine) : Bool :=
  m.world.scene.sent.any fun sent =>
    sent.process = m.process.number &&
      m.process.traps.any fun trap => trap.1 = sent.signal && trap.2 ≠ ""

/-- Ends a process by a signal. -/
def die {α : Type} (process signal : Nat) : Run α := do
  throw (.signaled process signal)

/-! ### Time -/

/-- Goes on to a time, unless everything is killed before. -/
def reach (time : Nat) : Run Unit := do
  let m ← get
  match m.world.deadline.filter (· ≤ time) with
  | some deadline => do
    set { m with world := m.world.advance deadline }
    throw .killed
  | none => set { m with world := m.world.advance time }

/-- Ends a wait of which nothing more is known. -/
def stay : Option Nat → Run Bool
  | some time => do
    reach time
    pure false
  | none => throw .waiting

/-- Lets things happen until something is the case, or up to a time; whether it is the case. -/
def pass (isDone : Machine → Bool) (limit : Option Nat) : Nat → Run Bool
  | 0 => throw .endless
  | fuel + 1 => do
    heed
    let m ← get
    let w := m.world
    match w.due?, w.unknown? with
    | some number, _ => do
      set { m with world := w.step (.companion number w.elapsed) }
      pass isDone limit fuel
    | none, some number => do
      set { m with world := w.consult number }
      pass isDone limit fuel
    | none, none =>
      if isDone m then pure true
      else match w.next? with
        | none => stay limit
        | some next =>
          if next.isWithin limit then do
            reach next.time
            modify fun m => { m with world := m.world.step next }
            pass isDone limit fuel
          else stay limit

/-- Waits until something is the case. -/
def waitUntil (isDone : Machine → Bool) : Run Unit := do
  discard (pass isDone none plenty)

/-- Lets time pass. -/
def sleep (millis : Nat) : Run Unit := do
  let time := (← get).world.elapsed + millis
  discard (pass (fun _ => false) (some time) plenty)

/-- Lets everything happen that happens now. -/
def settle : Run Unit :=
  sleep 0

/-- Waits until something can be read from a pipe; whether there will ever be anything. -/
def waitForPipe (pipe : Nat) : Run Bool := do
  let found (m : Machine) := m.world.scene.pipe pipe
  if (found (← get)).isEmpty then
    waitUntil fun m => !(found m).isEmpty || (found m).writers = 0
  return !(found (← get)).isEmpty

/-- Waits until something can be read from a place; whether there will ever be anything. -/
def waitFor (place : Place) : Run Bool := do
  match place with
  | .pipe pipe => waitForPipe pipe
  | _ => pure true

/-- Waits until there is room in a pipe, or nobody is left who could read from it. -/
def waitForRoom (pipe : Nat) : Run Unit :=
  waitUntil fun m =>
    let found := m.world.scene.pipe pipe
    found.room.all (0 < ·) || found.readers = 0

end Run

end GoldenSuite.Shell
