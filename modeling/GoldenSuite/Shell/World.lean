import GoldenSuite.Shell.Scene

/-!
# Processes side by side

Time passes only while a process sleeps or waits, and whatever a process does at once takes no
time. A process that goes on beside another one is a companion. What it does is a function of what
the others do meanwhile: it is worked out up to its end as if nothing else were to happen, and
worked out again when something did. Since it learns of a thing only after the time at which the
thing happened, what it has done already stays as it was. So every process sees the files, the
error stream and the pipes as they are at its own time.
-/

namespace GoldenSuite.Shell

/-- Something that is done to what processes share. -/
structure Event where
  time : Nat
  deed : Scene → Scene

/-- What becomes of a process that goes on beside others. -/
structure Outcome where
  /-- What it does, with all processes that it starts, in the order of time. -/
  events : List Event
  /-- When it ends, as far as that is known. -/
  ends : Option Nat
  status : Nat := 0
  /-- The signal that ends it. -/
  signal : Option Nat := none

/-- A process that goes on beside others. -/
structure Companion where
  number : Nat
  /-- What becomes of it when it starts in a scene at a time and others do all this meanwhile. -/
  course : Scene → Nat → List Event → Outcome
  /-- The scene and the time at which it started, when it has. -/
  start : Option (Scene × Nat) := none
  /-- What others have done since, the last event first. -/
  heard : List Event := []
  /-- What becomes of it, when all that it heard is taken into account. -/
  outcome : Option Outcome := none
  /-- How many of its events have happened. -/
  happened : Nat := 0
  /-- Its further events. -/
  upcoming : List Event := []

namespace Companion

def hasEnded (c : Companion) (time : Nat) : Bool :=
  c.outcome.any fun outcome => outcome.ends.any (· ≤ time)

/-- Lets it hear of an event, unless it has not started yet or has ended. -/
def hear (c : Companion) (event : Event) : Companion :=
  if c.start.isNone || c.hasEnded event.time then c
  else { c with heard := event :: c.heard, outcome := none, upcoming := [] }

/-- Works out what becomes of it. One that has not started yet starts in this scene at this
time. -/
def consult (scene : Scene) (time : Nat) (c : Companion) : Companion :=
  if c.outcome.isSome then c
  else
    let start := c.start.getD (scene, time)
    let outcome := c.course start.1 start.2 c.heard.reverse
    { c with
      start := some start, outcome := some outcome, upcoming := outcome.events.drop c.happened }

/-- The events that happen next, up to a time, and the companion after them. -/
def take (c : Companion) (time : Nat) : List Event × Companion :=
  let due := c.upcoming.takeWhile fun event => event.time ≤ time
  (due,
    { c with happened := c.happened + due.length, upcoming := c.upcoming.drop due.length })

end Companion

/-- What is going on around a process. -/
structure World where
  scene : Scene
  /-- The time since the start, in milliseconds. -/
  elapsed : Nat := 0
  /-- The time at which everything is killed. -/
  deadline : Option Nat := none
  /-- The processes that go on beside the present one, in the order in which they were started. -/
  companions : List Companion := []
  /-- What is done by those beside which the process goes on itself, as far as it is known. -/
  outside : List Event := []
  /-- What has been done here, the last event first, when that is noted. -/
  record : Option (List Event) := none
  /-- The number of the next process, and how far the numbers of companions lie apart. -/
  nextProcess : Nat
  stride : Nat := Nat.pow 2 16
  nextStream : Nat := 0
  nextPipe : Nat := 0

namespace World

/-- Lets something happen that a companion does, or the process itself when there is no
companion with this number. -/
def happen (w : World) (by_ : Nat) (event : Event) : World :=
  { w with
    scene := event.deed { w.scene with now := event.time }
    record := w.record.map (event :: ·)
    companions := w.companions.map fun c => if c.number = by_ then c else c.hear event }

/-- Lets the process itself do something now. -/
def act (w : World) (process : Nat) (deed : Scene → Scene) : World :=
  w.happen process { time := w.elapsed, deed }

/-- Lets something happen that is done by others outside. -/
def learn (w : World) (event : Event) : World :=
  { w with
    scene := event.deed { w.scene with now := event.time }
    companions := w.companions.map (·.hear event) }

def companion? (w : World) (number : Nat) : Option Companion :=
  w.companions.find? fun c => c.number = number

/-- Works out what becomes of a companion. -/
def consult (w : World) (number : Nat) : World :=
  { w with
    companions := w.companions.map fun c =>
      if c.number = number then c.consult w.scene w.elapsed else c }

/-- Whether no companion goes on. -/
def isQuiet (w : World) : Bool :=
  w.companions.all fun c => c.hasEnded w.elapsed && c.upcoming.isEmpty

/-- The first companion of which it is not known what becomes of it. -/
def unknown? (w : World) : Option Nat :=
  (w.companions.find? fun c => c.outcome.isNone).map Companion.number

/-- The first companion that does something now. -/
def due? (w : World) : Option Nat :=
  (w.companions.find? fun c => c.upcoming.head?.any (·.time ≤ w.elapsed)).map Companion.number

/-- Who does something next, and when. -/
inductive Next where
  | companion (number time : Nat)
  | outside (time : Nat)
deriving DecidableEq, Repr

/-- What happens next, when it is known what becomes of all companions. -/
def next? (w : World) : Option Next :=
  let times := w.companions.filterMap fun c => c.upcoming.head?.map fun e => (c.number, e.time)
  let earliest := times.foldl (fun best pair =>
    match best with
    | some (_, time) => if pair.2 < time then some pair else best
    | none => some pair) none
  match earliest, w.outside.head? with
  | some (number, time), some event =>
    if event.time < time then some (.outside event.time) else some (.companion number time)
  | some (number, time), none => some (.companion number time)
  | none, some event => some (.outside event.time)
  | none, none => none

/-- Goes on to a time without anything happening. -/
def advance (w : World) (time : Nat) : World :=
  { w with elapsed := max w.elapsed time }

/-- Lets the next thing happen, with all that is done at the same time by the same one. -/
def step (w : World) : Next → World
  | .companion number time =>
    let w := w.advance time
    match w.companion? number with
    | none => w
    | some c =>
      let (events, after) := c.take time
      let companions := w.companions.map fun c => if c.number = number then after else c
      events.foldl (fun w event => w.happen number event) { w with companions }
  | .outside time =>
    let events := w.outside.takeWhile fun event => event.time ≤ time
    events.foldl learn { w.advance time with outside := w.outside.drop events.length }

/-- Forgets companions. -/
def dismiss (w : World) (numbers : List Nat) : World :=
  { w with companions := w.companions.filter fun c => c.number ∉ numbers }

/-- How a companion has ended, when it has: when, its status and the signal that ended it. -/
def ending? (w : World) (number : Nat) : Option (Nat × Nat × Option Nat) := do
  let c ← w.companion? number
  let outcome ← c.outcome
  let time ← outcome.ends
  if time ≤ w.elapsed then some (time, outcome.status, outcome.signal) else none

end World

end GoldenSuite.Shell
