import GoldenSuite.Child.Status
import GoldenSuite.Fault

/-!
# Waiting for a child with a deadline

A child is polled until it has ended or its time is up; between two polls its parent sleeps.
A child that is found running at or after the limit is killed and then waited for, so that no
child is left behind. Without a limit its parent simply waits.

What a child does is given by a schedule: what each poll answers, what the clock shows right
after it, and what a final wait answers. The clock goes on by at least one interval from poll
to poll, which is why the waiting ends.
-/

namespace GoldenSuite.Child

/-- What a poll answers. -/
inductive Poll where
  | running
  | ended (exit : Exit)
  | failed (fault : Fault)
deriving DecidableEq, Repr

/-- How long a parent sleeps between two polls, in nanoseconds. -/
def interval : Nat := 10000000

/-- What a parent can observe of a child. -/
structure Schedule where
  /-- The answer of each poll. -/
  poll : Nat → Poll
  /-- The time since the start that the clock shows right after each poll. -/
  clock : Nat → Duration
  /-- How the child ended, as a wait without a limit answers it. -/
  ending : Except Fault Exit
  /-- The answer of the wait after a kill. -/
  reaped : Except Fault Unit
  /-- A sleep takes at least as long as it was asked for. -/
  clock_advances : ∀ n, (clock n).nanos + interval ≤ (clock (n + 1)).nanos

/-! ### What was done -/

/-- What a parent does with its child, with the answer that it gets. -/
inductive Call where
  | poll (answer : Poll)
  /-- A child is killed at this time. Whether that succeeds makes no difference. -/
  | kill (time : Duration)
  /-- Waits as long as it takes. -/
  | wait (answer : Except Fault Unit)

namespace Call

def isPoll : Call → Bool
  | .poll _ => true
  | _ => false

def isWait : Call → Bool
  | .wait _ => true
  | _ => false

/-- The time of a kill. -/
def killed? : Call → Option Duration
  | .kill time => some time
  | _ => none

/-- Whether the child is gone for good with this call, so that nothing is left of it. -/
def reaps : Call → Bool
  | .poll (.ended _) => true
  | .wait (.ok _) => true
  | _ => false

end Call

/-- The answer of a wait, and what was done to get it. -/
structure Watch where
  answer : Except Fault Status
  calls : List Call

namespace Watch

/-- How many polls were made. -/
def polls (w : Watch) : Nat :=
  w.calls.countP Call.isPoll

/-- How many waits without a limit were made. -/
def waits (w : Watch) : Nat :=
  w.calls.countP Call.isWait

/-- The time at which the child was killed, when it was. -/
def killed (w : Watch) : Option Duration :=
  w.calls.findSome? Call.killed?

/-- Whether nothing is left of the child. -/
def reaped (w : Watch) : Bool :=
  w.calls.any Call.reaps

/-- The same watch with a call before all others. -/
def after (call : Call) (w : Watch) : Watch :=
  { w with calls := call :: w.calls }

end Watch

/-! ### Waiting -/

namespace Schedule

/-- Polls from the given poll on until the child has ended or its time is up. -/
def watchFrom (s : Schedule) (limit : Duration) (n : Nat) : Watch :=
  match s.poll n with
  | .failed fault => ⟨.error fault, [.poll (.failed fault)]⟩
  | .ended exit => ⟨.ok exit.status, [.poll (.ended exit)]⟩
  | .running =>
    if limit.nanos ≤ (s.clock n).nanos then
      ⟨s.reaped.map fun _ => .timedOut limit, [.poll .running, .kill (s.clock n), .wait s.reaped]⟩
    else (watchFrom s limit (n + 1)).after (.poll .running)
termination_by limit.nanos - (s.clock n).nanos
decreasing_by
  have := s.clock_advances n
  simp only [interval] at this
  omega

/-- Waits for a child, no longer than the limit when there is one. -/
def watch (s : Schedule) : Option Duration → Watch
  | none => ⟨s.ending.map Exit.status, [.wait (s.ending.map fun _ => ())]⟩
  | some limit => s.watchFrom limit 0

theorem watchFrom_of_ended {s : Schedule} {limit : Duration} {n : Nat} {exit : Exit}
    (h : s.poll n = .ended exit) :
    s.watchFrom limit n = ⟨.ok exit.status, [.poll (.ended exit)]⟩ := by
  rw [watchFrom, h]

theorem watchFrom_of_failed {s : Schedule} {limit : Duration} {n : Nat} {fault : Fault}
    (h : s.poll n = .failed fault) :
    s.watchFrom limit n = ⟨.error fault, [.poll (.failed fault)]⟩ := by
  rw [watchFrom, h]

theorem watchFrom_of_late {s : Schedule} {limit : Duration} {n : Nat} (h : s.poll n = .running)
    (hlate : limit.nanos ≤ (s.clock n).nanos) :
    s.watchFrom limit n =
      ⟨s.reaped.map fun _ => .timedOut limit,
        [.poll .running, .kill (s.clock n), .wait s.reaped]⟩ := by
  rw [watchFrom, h]
  exact if_pos hlate

theorem watchFrom_of_early {s : Schedule} {limit : Duration} {n : Nat} (h : s.poll n = .running)
    (hearly : ¬ limit.nanos ≤ (s.clock n).nanos) :
    s.watchFrom limit n = (s.watchFrom limit (n + 1)).after (.poll .running) := by
  rw [watchFrom, h]
  exact if_neg hearly

end Schedule

end GoldenSuite.Child
