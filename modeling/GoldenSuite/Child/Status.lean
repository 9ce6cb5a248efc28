/-!
# How a child process ended

A child ends by itself with an exit code, is ended by a signal, or is killed when its time is
up. Time spans are kept in nanoseconds and shown in whole seconds.
-/

namespace GoldenSuite

/-- A span of time in nanoseconds. -/
structure Duration where
  nanos : Nat
deriving DecidableEq, Repr

namespace Duration

/-- A span of so many milliseconds. -/
def ofMillis (millis : Nat) : Duration :=
  ⟨millis * 1000000⟩

/-- A span of so many seconds. -/
def ofSeconds (seconds : Nat) : Duration :=
  ⟨seconds * 1000000000⟩

/-- The whole milliseconds in a span. -/
def millis (d : Duration) : Nat :=
  d.nanos / 1000000

/-- The whole seconds in a span. -/
def seconds (d : Duration) : Nat :=
  d.nanos / 1000000000

/-- The limit that a number of seconds in a configuration sets: zero sets none. -/
def limit? (seconds : Nat) : Option Duration :=
  if seconds = 0 then none else some (ofSeconds seconds)

end Duration

namespace Child

/-- How a child process ended by itself or by a signal. -/
inductive Exit where
  | exited (code : Int)
  | signaled
deriving DecidableEq, Repr

/-- How a child process ended, or that it was not left the time to. -/
inductive Status where
  /-- By itself, with this exit code. -/
  | exited (code : Int)
  | signaled
  /-- It was killed because it ran longer than the limit. -/
  | timedOut (limit : Duration)
deriving DecidableEq, Repr

namespace Status

/-- Only exit code zero is a success. -/
def succeeded : Status → Bool
  | .exited code => code = 0
  | _ => false

/-- The wording of a status. -/
def text : Status → String
  | .exited code => s!"exit code {code}"
  | .signaled => "terminated by signal"
  | .timedOut limit => s!"timed out after {limit.seconds}s"

end Status

/-- The status of a child that was left the time to end. -/
def Exit.status : Exit → Status
  | .exited code => .exited code
  | .signaled => .signaled

theorem Exit.status_injective : Function.Injective Exit.status := by
  intro a b h
  cases a <;> cases b <;> simp_all [Exit.status]

theorem Exit.status_ne_timedOut (exit : Exit) (limit : Duration) :
    exit.status ≠ .timedOut limit := by
  cases exit <;> simp [Exit.status]

/-- A status is that of an exit, or tells of a limit. -/
theorem Status.cases (status : Status) :
    (∃ exit : Exit, status = exit.status) ∨ ∃ limit, status = .timedOut limit := by
  cases status with
  | exited code => exact .inl ⟨.exited code, rfl⟩
  | signaled => exact .inl ⟨.signaled, rfl⟩
  | timedOut limit => exact .inr ⟨limit, rfl⟩

end Child

end GoldenSuite
