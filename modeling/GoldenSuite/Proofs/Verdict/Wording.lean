import GoldenSuite.Proofs.Suite.Trials
import Mathlib.Data.List.Infix

/-!
# What verdicts say

A verdict is of one of a few kinds, and its wording starts in a way that no other kind starts in,
so the kind can be told from the wording, whatever a simulator has written to its error stream.
A verdict that a run comes to is said in one line.
-/

namespace GoldenSuite

/-! ### Wordings with details -/

theorem newline_not_mem_append {s t : String} (hs : '\n' ∉ s.toList) (ht : '\n' ∉ t.toList) :
    '\n' ∉ (s ++ t).toList := by
  rw [String.toList_append, List.mem_append, not_or]
  exact ⟨hs, ht⟩

theorem Reason.text_timedOut (limit : Duration) :
    (Reason.timedOut limit).text =
      "Simulator timed out after " ++ toString limit.seconds ++ "s!" := by
  unfold Reason.text
  rfl

theorem Reason.text_simulatorFailed (status : Child.Status) (excerpt : String) :
    (Reason.simulatorFailed status excerpt).text =
      if excerpt = "" then "Simulator failed (" ++ status.text ++ ")!"
      else "Simulator failed (" ++ status.text ++ "): " ++ excerpt := by
  unfold Reason.text
  by_cases h : excerpt = ""
  · simp only [h, if_true]
    rfl
  · simp only [h, if_false]
    rfl

/-! ### Kinds -/

namespace Verdict

/-- What a verdict says, without the details that differ from run to run. -/
inductive Kind where
  | pass
  | logMismatch
  | logMissing (side : Side)
  | resultMismatch
  | simulatorFailed
  | timedOut
deriving DecidableEq, Repr

def kind : Verdict → Kind
  | .pass => .pass
  | .fail .logMismatch => .logMismatch
  | .fail (.logMissing side) => .logMissing side
  | .fail .resultMismatch => .resultMismatch
  | .fail (.simulatorFailed _ _) => .simulatorFailed
  | .fail (.timedOut _) => .timedOut

namespace Kind

def all : List Kind :=
  [.pass, .logMismatch, .logMissing .actual, .logMissing .expected, .resultMismatch,
   .simulatorFailed, .timedOut]

theorem mem_all (k : Kind) : k ∈ all := by
  cases k with
  | logMissing side => cases side <;> decide
  | _ => decide

/-- How every verdict of a kind starts. -/
def opening : Kind → String
  | .pass => "Test Passed!"
  | .logMismatch => "Log files differ!"
  | .logMissing side => s!"Log file missing from {side.name} output!"
  | .resultMismatch => "Result files differ!"
  | .simulatorFailed => "Simulator failed ("
  | .timedOut => "Simulator timed out after "

theorem eq_of_opening_prefix {j k : Kind} (h : j.opening.toList <+: k.opening.toList) : j = k := by
  have hall : ∀ j ∈ all, ∀ k ∈ all, j.opening.toList <+: k.opening.toList → j = k := by
    decide +kernel
  exact hall j (mem_all j) k (mem_all k) h

/-- The kind of the verdict that a text is the wording of. -/
def ofText? (text : List Char) : Option Kind :=
  all.find? fun k => k.opening.toList.isPrefixOf text

end Kind

theorem opening_prefix_text (v : Verdict) : v.kind.opening.toList <+: v.text.toList := by
  cases v with
  | pass => exact List.prefix_rfl
  | fail reason =>
    cases reason with
    | simulatorFailed status excerpt =>
      rw [text, Reason.text_simulatorFailed]
      split
      · rw [String.append_assoc, String.toList_append]
        exact List.prefix_append _ _
      · rw [String.append_assoc, String.append_assoc, String.toList_append]
        exact List.prefix_append _ _
    | timedOut limit =>
      rw [text, Reason.text_timedOut, String.append_assoc, String.toList_append]
      exact List.prefix_append _ _
    | _ => exact List.prefix_rfl

/-- The kind of a verdict can be told from its wording. -/
theorem ofText?_text (v : Verdict) : Kind.ofText? v.text.toList = some v.kind := by
  have hself : v.kind.opening.toList.isPrefixOf v.text.toList = true := by
    simpa using v.opening_prefix_text
  cases hf : Kind.ofText? v.text.toList with
  | none =>
    have hnone := List.find?_eq_none.mp hf v.kind (Kind.mem_all v.kind)
    exact absurd hself hnone
  | some k =>
    have hk : k.opening.toList <+: v.text.toList := by
      have := List.find?_some hf
      simpa using this
    -- Both openings start the same text, so one starts the other.
    rcases List.prefix_or_prefix_of_prefix hk v.opening_prefix_text with h | h
    · rw [Kind.eq_of_opening_prefix h]
    · rw [Kind.eq_of_opening_prefix h]

theorem text_eq_passed_iff {v : Verdict} : v.text = "Test Passed!" ↔ v.passed = true := by
  constructor
  · intro h
    have hkind := v.ofText?_text
    rw [h, show Kind.ofText? "Test Passed!".toList = some .pass by decide +kernel] at hkind
    cases v with
    | pass => rfl
    | fail reason => cases reason <;> simp [kind] at hkind
  · intro h
    rw [passed_iff.mp h]
    rfl

end Verdict

/-! ### Line feeds -/

theorem newline_not_mem_repr (n : Nat) : '\n' ∉ (toString n).toList := by
  intro h
  have hdigits : (toString n).toList = Nat.toDigits 10 n := Nat.toList_repr
  rw [hdigits] at h
  have := Nat.isDigit_of_mem_toDigits (by decide) (by decide) h
  exact absurd this (by decide)

theorem newline_not_mem_intercalate {separator : List Char} {pieces : List (List Char)}
    (hseparator : '\n' ∉ separator) (hpieces : ∀ piece ∈ pieces, '\n' ∉ piece) :
    '\n' ∉ separator.intercalate pieces := by
  induction pieces with
  | nil => simp
  | cons piece others ih =>
    have hpiece := hpieces piece (List.mem_cons_self ..)
    have hothers := ih fun other hother => hpieces other (List.mem_cons_of_mem _ hother)
    cases others with
    | nil => simpa using hpiece
    | cons second more =>
      rw [List.intercalate_cons_cons]
      simp only [List.mem_append, not_or]
      exact ⟨⟨hpiece, hseparator⟩, hothers⟩

namespace Child

theorem mem_lines_of_mem_meaningfulLines {text : String} {line : List Char}
    (h : line ∈ meaningfulLines text) :
    ∃ whole ∈ Text.lines text.toList, line = Text.trimEnd whole := by
  have hmap := (List.mem_filter.mp h).1
  obtain ⟨whole, hwhole, heq⟩ := List.mem_map.mp hmap
  exact ⟨whole, hwhole, heq.symm⟩

theorem newline_not_mem_meaningfulLines {text : String} {line : List Char}
    (h : line ∈ meaningfulLines text) : '\n' ∉ line := by
  obtain ⟨whole, hwhole, rfl⟩ := mem_lines_of_mem_meaningfulLines h
  obtain ⟨blank, hsplit, -⟩ := Text.exists_trimEnd_append whole
  have hnone := Text.not_mem_of_mem_lines hwhole
  rw [hsplit, List.mem_append, not_or] at hnone
  exact hnone.1

/-- The end of an error stream is quoted in one line. -/
theorem newline_not_mem_tail (text : String) (count : Nat) : '\n' ∉ (tail text count).toList := by
  rw [tail, String.toList_intercalate]
  refine newline_not_mem_intercalate (by decide) fun piece hpiece => ?_
  simp only [List.map_map, List.mem_map, Function.comp_apply, String.toList_ofList] at hpiece
  obtain ⟨line, hline, rfl⟩ := hpiece
  exact newline_not_mem_meaningfulLines (List.mem_of_mem_drop hline)

theorem Status.newline_not_mem_text (status : Status) : '\n' ∉ status.text.toList := by
  cases status with
  | exited code =>
    have hcode : '\n' ∉ (toString code).toList := by
      cases code with
      | ofNat n => exact newline_not_mem_repr n
      | negSucc n =>
        have hnegative : toString (Int.negSucc n) = "-" ++ toString (n + 1) := rfl
        rw [hnegative]
        exact newline_not_mem_append (by decide) (newline_not_mem_repr (n + 1))
    exact newline_not_mem_append (by decide) hcode
  | signaled => decide
  | timedOut limit =>
    have hseconds := newline_not_mem_repr limit.seconds
    exact newline_not_mem_append (newline_not_mem_append (by decide) hseconds) (by decide)

end Child

/-- What a simulator is quoted with is in one line, if it is quoted at all. -/
def Verdict.Brief : Verdict → Prop
  | .fail (.simulatorFailed _ excerpt) => '\n' ∉ excerpt.toList
  | _ => True

theorem Verdict.Brief.newline_not_mem_text {v : Verdict} (h : v.Brief) :
    '\n' ∉ v.text.toList := by
  cases v with
  | pass => decide
  | fail reason =>
    cases reason with
    | logMissing side => cases side <;> decide
    | simulatorFailed status excerpt =>
      have hstatus := status.newline_not_mem_text
      have hexcerpt : '\n' ∉ excerpt.toList := h
      have hstart := newline_not_mem_append (s := "Simulator failed (") (by decide) hstatus
      rw [text, Reason.text_simulatorFailed]
      split
      · exact newline_not_mem_append hstart (by decide)
      · exact newline_not_mem_append (newline_not_mem_append hstart (by decide)) hexcerpt
    | timedOut limit =>
      have hseconds := newline_not_mem_repr limit.seconds
      rw [text, Reason.text_timedOut]
      exact newline_not_mem_append (newline_not_mem_append (by decide) hseconds) (by decide)
    | _ => decide

/-! ### Verdicts of a run -/

theorem LogCheck.brief_of_failure {policy : LogPolicy} {logs : LogCheck} {reason : Reason}
    (h : logs.failure? policy = some reason) : (Verdict.fail reason).Brief := by
  unfold LogCheck.failure? at h
  split at h
  · split at h
    · cases h
    · cases h
      trivial
  · cases h
    trivial
  · cases h
  · cases h

theorem Comparator.brief_of_compareCase {comparator : Comparator} {ws : Workspace}
    {case : TestCase} {comparison : Comparison}
    (h : comparator.compareCase ws case = .ok comparison) : comparison.verdict.Brief := by
  unfold compareCase at h
  cases hl : comparator.checkLogs ws case with
  | error e => simp [hl, bind, Except.bind] at h
  | ok logs =>
    cases hf : logs.failure? comparator.policy with
    | some reason =>
      simp only [hl, hf, bind, Except.bind, pure, Except.pure, Except.ok.injEq] at h
      subst h
      exact LogCheck.brief_of_failure hf
    | none =>
      cases hr : comparator.checkResults ws case with
      | error e => simp [hl, hf, hr, bind, Except.bind] at h
      | ok result =>
        simp only [hl, hf, hr, bind, Except.bind, pure, Except.pure, Except.ok.injEq] at h
        subst h
        dsimp only
        split <;> trivial

theorem Child.Outcome.brief_of_failure {outcome : Outcome} {reason : Reason}
    (h : outcome.failure? = some reason) : (Verdict.fail reason).Brief := by
  unfold failure? at h
  split at h
  · cases h
  · cases h
    trivial
  · cases h
    exact newline_not_mem_tail outcome.stderr excerptLines

theorem Suite.Trial.brief_of_judgement {σ : Type} {c : Config} {t : Suite.Trial σ} {v : Verdict}
    (h : t.judgement c = .ok v) : v.Brief := by
  cases ha : t.reply.answer with
  | error d => simp [judgement_of_error ha] at h
  | ok outcome =>
    cases hf : outcome.failure? with
    | some reason =>
      rw [judgement_of_failure ha hf, Except.ok.injEq] at h
      subst h
      exact outcome.brief_of_failure hf
    | none =>
      rw [judgement_of_succeeded (succeeded_of_no_failure ha hf)] at h
      split at h
      · next comparison hc =>
        rw [Except.ok.injEq] at h
        subst h
        exact Comparator.brief_of_compareCase hc
      · cases h

end GoldenSuite
