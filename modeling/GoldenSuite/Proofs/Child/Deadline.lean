import Mathlib.Data.Nat.Find
import GoldenSuite.Child.Deadline

/-!
# Waiting no longer than a deadline

The clock goes on by at least one interval from poll to poll, so there is a last poll, and its
number is bounded by the limit alone. All polls before it found the child running with time left.
What the last one finds decides everything else that is done: nothing more when the child has
ended or cannot be polled, and one kill with a wait behind it when the child is late.
-/

namespace GoldenSuite.Child.Schedule

variable {s : Schedule} {limit : Duration} {n k : Nat} {exit : Exit} {fault : Fault}

/-! ### The last poll -/

/-- A poll that finds the child running when its time is up. -/
def Late (s : Schedule) (limit : Duration) (n : Nat) : Prop :=
  s.poll n = .running ∧ limit.nanos ≤ (s.clock n).nanos

/-- The poll after which no other is made. -/
structure LastPoll (s : Schedule) (limit : Duration) (n : Nat) : Prop where
  early : ∀ m < n, s.poll m = .running ∧ ¬ limit.nanos ≤ (s.clock m).nanos
  decides : s.poll n ≠ .running ∨ limit.nanos ≤ (s.clock n).nanos

theorem interval_mul_le_clock (s : Schedule) (n : Nat) : interval * n ≤ (s.clock n).nanos := by
  induction n with
  | zero => simp
  | succ n ih =>
    have hnext := s.clock_advances n
    rw [Nat.mul_succ]
    omega

theorem exists_lastPoll (s : Schedule) (limit : Duration) : ∃ n, s.LastPoll limit n := by
  have hsome : ∃ n, s.poll n ≠ .running ∨ limit.nanos ≤ (s.clock n).nanos := by
    refine ⟨limit.nanos, .inr ?_⟩
    have hclock := s.interval_mul_le_clock limit.nanos
    simp only [interval] at hclock
    omega
  classical
  refine ⟨Nat.find hsome, fun m hm => ?_, Nat.find_spec hsome⟩
  have hnot := Nat.find_min hsome hm
  rw [not_or, not_not] at hnot
  exact hnot

/-- The clock leaves time for so many polls and no more. -/
theorem LastPoll.le_intervals (h : s.LastPoll limit n) :
    n ≤ (limit.nanos + interval - 1) / interval := by
  cases n with
  | zero => exact Nat.zero_le _
  | succ m =>
    obtain ⟨-, hearly⟩ := h.early m (Nat.lt_succ_self m)
    have hclock := s.interval_mul_le_clock m
    rw [Nat.le_div_iff_mul_le (by decide)]
    simp only [interval] at hclock ⊢
    omega

/-! ### The whole wait -/

/-- Until the last poll is made, the child is found running. -/
theorem LastPoll.watchFrom_eq (h : s.LastPoll limit n) (hk : k ≤ n) :
    s.watchFrom limit (n - k) =
      ⟨(s.watchFrom limit n).answer,
        List.replicate k (.poll .running) ++ (s.watchFrom limit n).calls⟩ := by
  induction k with
  | zero => rfl
  | succ k ih =>
    obtain ⟨hrunning, hearly⟩ := h.early (n - (k + 1)) (by omega)
    have hnext : n - (k + 1) + 1 = n - k := by omega
    rw [watchFrom_of_early hrunning hearly, hnext, ih (by omega), Watch.after,
      List.replicate_succ, List.cons_append]

theorem LastPoll.watch_eq (h : s.LastPoll limit n) :
    s.watch (some limit) =
      ⟨(s.watchFrom limit n).answer,
        List.replicate n (.poll .running) ++ (s.watchFrom limit n).calls⟩ := by
  have hall := h.watchFrom_eq (Nat.le_refl n)
  rwa [Nat.sub_self] at hall

theorem LastPoll.watch_of_ended (h : s.LastPoll limit n) (hn : s.poll n = .ended exit) :
    s.watch (some limit) =
      ⟨.ok exit.status, List.replicate n (.poll .running) ++ [.poll (.ended exit)]⟩ := by
  rw [h.watch_eq, watchFrom_of_ended hn]

theorem LastPoll.watch_of_failed (h : s.LastPoll limit n) (hn : s.poll n = .failed fault) :
    s.watch (some limit) =
      ⟨.error fault, List.replicate n (.poll .running) ++ [.poll (.failed fault)]⟩ := by
  rw [h.watch_eq, watchFrom_of_failed hn]

theorem LastPoll.watch_of_late (h : s.LastPoll limit n) (hn : s.Late limit n) :
    s.watch (some limit) =
      ⟨s.reaped.map fun _ => .timedOut limit,
        List.replicate n (.poll .running) ++
          [.poll .running, .kill (s.clock n), .wait s.reaped]⟩ := by
  rw [h.watch_eq, watchFrom_of_late hn.1 hn.2]

/-- What the last poll finds. -/
theorem LastPoll.cases (h : s.LastPoll limit n) :
    (∃ exit, s.poll n = .ended exit) ∨ (∃ fault, s.poll n = .failed fault) ∨ s.Late limit n := by
  cases hn : s.poll n with
  | ended exit => exact .inl ⟨exit, rfl⟩
  | failed fault => exact .inr (.inl ⟨fault, rfl⟩)
  | running => exact .inr (.inr ⟨hn, h.decides.resolve_left (not_not_intro hn)⟩)

/-- A poll that was made and decided something was the last one. -/
theorem LastPoll.exists_iff (h : s.LastPoll limit n) {found : Nat → Prop}
    (hdecides : ∀ m, found m → s.poll m ≠ .running ∨ limit.nanos ≤ (s.clock m).nanos) :
    (∃ m < n + 1, found m) ↔ found n := by
  refine ⟨fun ⟨m, hm, hfound⟩ => ?_, fun hfound => ⟨n, Nat.lt_succ_self n, hfound⟩⟩
  have hlast : m = n := by
    by_contra hne
    obtain ⟨hrunning, hearly⟩ := h.early m (by omega)
    exact (hdecides m hfound).elim (fun hnot => hnot hrunning) hearly
  exact hlast ▸ hfound

theorem LastPoll.exists_ended_iff (h : s.LastPoll limit n) :
    (∃ m < n + 1, s.poll m = .ended exit) ↔ s.poll n = .ended exit :=
  h.exists_iff fun m hm => .inl (by simp [hm])

theorem LastPoll.exists_failed_iff (h : s.LastPoll limit n) :
    (∃ m < n + 1, s.poll m = .failed fault) ↔ s.poll n = .failed fault :=
  h.exists_iff fun m hm => .inl (by simp [hm])

theorem LastPoll.exists_late_iff (h : s.LastPoll limit n) :
    (∃ m < n + 1, s.Late limit m) ↔ s.Late limit n :=
  h.exists_iff fun _ hm => .inr hm.2

/-- The polls are made in their order, each once. -/
theorem LastPoll.polls_answers (h : s.LastPoll limit n) :
    (List.range (n + 1)).map (fun m => Call.poll (s.poll m)) =
      List.replicate n (.poll .running) ++ [.poll (s.poll n)] := by
  rw [List.range_succ, List.map_append, List.map_singleton]
  congr 1
  refine List.eq_replicate_iff.mpr ⟨by simp, fun call hcall => ?_⟩
  obtain ⟨m, hm, rfl⟩ := List.mem_map.mp hcall
  rw [(h.early m (List.mem_range.mp hm)).1]

/-! ### What a wait comes to -/

/-- A wait that keeps a deadline. -/
structure KeepsDeadline (s : Schedule) (limit : Duration) (w : Watch) : Prop where
  /-- Beside the first poll there is at most one for every interval that has begun in time. -/
  polls_le : w.polls ≤ (limit.nanos + interval - 1) / interval + 1
  /-- The polls are made one after the other. All that can follow is a kill and then a wait. -/
  calls_eq : ∃ rest, w.calls = (List.range w.polls).map (fun n => .poll (s.poll n)) ++ rest ∧
    (rest = [] ∨ rest = [.kill (s.clock (w.polls - 1)), .wait s.reaped])
  /-- How the child ended is the answer exactly when a poll finds that it has. -/
  ended_iff : ∀ exit : Exit, w.answer = .ok exit.status ↔ ∃ n < w.polls, s.poll n = .ended exit
  /-- A child that is found to have ended is not killed. -/
  not_killed : ∀ exit : Exit, w.answer = .ok exit.status → w.killed = none
  /-- A timeout is the answer exactly when the child is found running with its time up and can
  be waited for after the kill. -/
  timedOut_iff : ∀ time, w.answer = .ok (.timedOut time) ↔
    time = limit ∧ (∃ n < w.polls, s.Late limit n) ∧ s.reaped = .ok ()
  /-- Before a timeout every poll finds the child running, and the last one is followed by one
  kill and one wait. -/
  timedOut_calls : ∀ time, w.answer = .ok (.timedOut time) →
    w.calls = List.replicate w.polls (.poll .running) ++
      [.kill (s.clock (w.polls - 1)), .wait (.ok ())]
  /-- A child that has ended by the last poll is not said to have run out of time. -/
  not_timedOut : ∀ exit, s.poll (w.polls - 1) = .ended exit →
    ∀ time, w.answer ≠ .ok (.timedOut time)
  /-- A wait fails exactly when a poll fails, or the wait after a kill. -/
  error_iff : ∀ fault, w.answer = .error fault ↔
    (∃ n < w.polls, s.poll n = .failed fault) ∨
      (∃ n < w.polls, s.Late limit n) ∧ s.reaped = .error fault
  /-- Nothing is left of a child whose end is known. -/
  reaped_of_ok : ∀ status, w.answer = .ok status → w.reaped = true

section
variable (h : s.LastPoll limit n)
include h

theorem LastPoll.polls_eq : (s.watch (some limit)).polls = n + 1 := by
  have hbefore : (List.replicate n (Call.poll .running)).countP Call.isPoll = n := by
    simp [List.countP_replicate, Call.isPoll]
  rcases h.cases with ⟨exit, hn⟩ | ⟨fault, hn⟩ | hn
  · rw [h.watch_of_ended hn, Watch.polls, List.countP_append, hbefore]
    rfl
  · rw [h.watch_of_failed hn, Watch.polls, List.countP_append, hbefore]
    rfl
  · rw [h.watch_of_late hn, Watch.polls, List.countP_append, hbefore]
    rfl

theorem LastPoll.calls_eq :
    ∃ rest, (s.watch (some limit)).calls =
        (List.range (n + 1)).map (fun m => .poll (s.poll m)) ++ rest ∧
      (rest = [] ∨ rest = [.kill (s.clock n), .wait s.reaped]) := by
  rw [h.polls_answers]
  rcases h.cases with ⟨exit, hn⟩ | ⟨fault, hn⟩ | hn
  · exact ⟨[], by rw [h.watch_of_ended hn, hn, List.append_nil], .inl rfl⟩
  · exact ⟨[], by rw [h.watch_of_failed hn, hn, List.append_nil], .inl rfl⟩
  · exact ⟨_, by rw [h.watch_of_late hn, hn.1, List.append_assoc]; rfl, .inr rfl⟩

/-- The answer goes by what the last poll finds. -/
theorem LastPoll.answer_ended_iff :
    (s.watch (some limit)).answer = .ok exit.status ↔ s.poll n = .ended exit := by
  rcases h.cases with ⟨other, hn⟩ | ⟨fault, hn⟩ | hn
  · rw [h.watch_of_ended hn, hn, Except.ok.injEq, Poll.ended.injEq]
    exact Exit.status_injective.eq_iff
  · simp [h.watch_of_failed hn, hn]
  · rw [h.watch_of_late hn, hn.1]
    cases s.reaped with
    | error fault => simp [Except.map]
    | ok _ => simpa [Except.map] using (exit.status_ne_timedOut limit).symm

theorem LastPoll.answer_timedOut_iff {time : Duration} :
    (s.watch (some limit)).answer = .ok (.timedOut time) ↔
      time = limit ∧ s.Late limit n ∧ s.reaped = .ok () := by
  rcases h.cases with ⟨exit, hn⟩ | ⟨fault, hn⟩ | hn
  · simp [h.watch_of_ended hn, Late, hn, exit.status_ne_timedOut time]
  · simp [h.watch_of_failed hn, Late, hn]
  · rw [h.watch_of_late hn]
    cases s.reaped with
    | error fault => simp [Except.map]
    | ok _ => simp [Except.map, hn, eq_comm]

theorem LastPoll.answer_error_iff :
    (s.watch (some limit)).answer = .error fault ↔
      s.poll n = .failed fault ∨ s.Late limit n ∧ s.reaped = .error fault := by
  rcases h.cases with ⟨exit, hn⟩ | ⟨other, hn⟩ | hn
  · simp [h.watch_of_ended hn, Late, hn]
  · simp [h.watch_of_failed hn, Late, hn]
  · rw [h.watch_of_late hn]
    cases s.reaped with
    | error other => simp [Except.map, hn, hn.1]
    | ok _ => simp [Except.map, hn.1]

theorem LastPoll.reaped_of_ok {status : Status}
    (hok : (s.watch (some limit)).answer = .ok status) :
    (s.watch (some limit)).reaped = true := by
  rcases h.cases with ⟨exit, hn⟩ | ⟨fault, hn⟩ | hn
  · simp [h.watch_of_ended hn, Watch.reaped, Call.reaps]
  · simp [h.watch_of_failed hn] at hok
  · rw [h.watch_of_late hn] at hok ⊢
    cases hr : s.reaped with
    | error fault => simp [hr, Except.map] at hok
    | ok _ => simp [Watch.reaped, Call.reaps]

theorem LastPoll.keepsDeadline : s.KeepsDeadline limit (s.watch (some limit)) := by
  have hpolls := h.polls_eq
  constructor
  case polls_le => exact hpolls ▸ Nat.succ_le_succ h.le_intervals
  case calls_eq => exact hpolls ▸ h.calls_eq
  case ended_iff =>
    intro exit
    rw [hpolls, h.answer_ended_iff, h.exists_ended_iff]
  case not_killed =>
    intro exit hexit
    rw [h.watch_of_ended (h.answer_ended_iff.mp hexit)]
    simp [Watch.killed, Call.killed?]
  case timedOut_iff =>
    intro time
    rw [hpolls, h.answer_timedOut_iff, h.exists_late_iff]
  case timedOut_calls =>
    intro time htime
    obtain ⟨-, hlate, hreaped⟩ := h.answer_timedOut_iff.mp htime
    rw [hpolls, h.watch_of_late hlate, hreaped, List.replicate_succ', List.append_assoc]
    rfl
  case not_timedOut =>
    intro exit hn time htime
    obtain ⟨-, hlate, -⟩ := h.answer_timedOut_iff.mp htime
    rw [hpolls, Nat.add_sub_cancel, hlate.1] at hn
    cases hn
  case error_iff =>
    intro fault
    rw [hpolls, h.answer_error_iff, h.exists_failed_iff, h.exists_late_iff]
  case reaped_of_ok => exact fun _ => h.reaped_of_ok

end

/-- A wait with any limit keeps its deadline; a wait without one waits once, does not kill the
child, and does not say that it ran out of time. -/
theorem watch_keeps_deadline (s : Schedule) :
    (∀ limit, s.KeepsDeadline limit (s.watch (some limit))) ∧
      (∀ exit, (s.watch none).answer = .ok exit.status ↔ s.ending = .ok exit) ∧
      (∀ fault, (s.watch none).answer = .error fault ↔ s.ending = .error fault) ∧
      (∀ time, (s.watch none).answer ≠ .ok (.timedOut time)) ∧
      ((s.watch none).polls = 0 ∧ (s.watch none).killed = none ∧ (s.watch none).waits = 1) ∧
      ∀ status, (s.watch none).answer = .ok status → (s.watch none).reaped = true := by
  refine ⟨fun limit => ?_, fun exit => ?_, fun fault => ?_, fun time htime => ?_, ⟨rfl, rfl, rfl⟩,
    fun status hstatus => ?_⟩
  · obtain ⟨n, hn⟩ := s.exists_lastPoll limit
    exact hn.keepsDeadline
  · cases hending : s.ending with
    | error fault => simp [watch, hending, Except.map]
    | ok other => simp [watch, hending, Except.map, Exit.status_injective.eq_iff]
  · cases hending : s.ending <;> simp [watch, hending, Except.map]
  · cases hending : s.ending with
    | error fault => simp [watch, hending, Except.map] at htime
    | ok exit =>
      rw [watch, hending, Except.map, Except.ok.injEq] at htime
      exact exit.status_ne_timedOut time htime
  · cases hending : s.ending with
    | error fault => simp [watch, hending, Except.map] at hstatus
    | ok exit => simp [watch, hending, Except.map, Watch.reaped, Call.reaps]

end GoldenSuite.Child.Schedule
