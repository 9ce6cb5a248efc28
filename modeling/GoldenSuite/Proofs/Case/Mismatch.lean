import GoldenSuite.Proofs.Case.Agreement
import GoldenSuite.Proofs.Workspace.Finding

/-!
# Where two copies differ

Two copies of an artifact that differ are the same up to the end of what both of them begin with,
and that is the offset a comparison records. It does not matter which copy is called the actual
one, and what is put in front of both only moves the offset. Looking for it byte by byte never
leads beyond the end of either copy.
-/

namespace GoldenSuite

/-! ### The first difference -/

/-- Two texts agree up to an offset and no further. -/
structure PartAt (a b : Bytes) (o : Nat) : Prop where
  le_left : o ≤ a.length
  le_right : o ≤ b.length
  agree : a.take o = b.take o
  apart : (∃ x y, a[o]? = some x ∧ b[o]? = some y ∧ x ≠ y) ∨
    (o = a.length ∧ o < b.length) ∨ (o < a.length ∧ o = b.length)

namespace PartAt

variable {a b : Bytes} {o : Nat} {x y : UInt8}

theorem of_nil_left (y : UInt8) (b : Bytes) : PartAt [] (y :: b) 0 := by
  refine ⟨by simp, by simp, by simp, ?_⟩
  exact .inr (.inl ⟨rfl, by simp⟩)

theorem of_nil_right (x : UInt8) (a : Bytes) : PartAt (x :: a) [] 0 := by
  refine ⟨by simp, by simp, by simp, ?_⟩
  exact .inr (.inr ⟨by simp, rfl⟩)

theorem of_ne (hne : x ≠ y) (a b : Bytes) : PartAt (x :: a) (y :: b) 0 := by
  refine ⟨by simp, by simp, by simp, ?_⟩
  exact .inl ⟨x, y, rfl, rfl, hne⟩

theorem cons (h : PartAt a b o) (x : UInt8) : PartAt (x :: a) (x :: b) (o + 1) := by
  have hleft := h.le_left
  have hright := h.le_right
  refine ⟨by simpa using hleft, by simpa using hright, by simp [h.agree], ?_⟩
  simpa using h.apart

/-- Nothing longer is the beginning of both texts. -/
theorem longest (h : PartAt a b o) {common : Bytes} (ha : common <+: a) (hb : common <+: b) :
    common.length ≤ o := by
  refine Nat.le_of_not_lt fun hin => ?_
  have hfirst : a[o]? = common[o]? := by
    obtain ⟨rest, rfl⟩ := ha
    exact List.getElem?_append_left hin
  have hsecond : b[o]? = common[o]? := by
    obtain ⟨rest, rfl⟩ := hb
    exact List.getElem?_append_left hin
  have hlengths : o < a.length ∧ o < b.length :=
    ⟨Nat.lt_of_lt_of_le hin ha.length_le, Nat.lt_of_lt_of_le hin hb.length_le⟩
  rcases h.apart with ⟨x, y, hx, hy, hne⟩ | ⟨hend, -⟩ | ⟨-, hend⟩
  · have hsame : some x = some y := by rw [← hx, ← hy, hfirst, hsecond]
    exact hne (Option.some.inj hsame)
  · omega
  · omega

theorem unique {o' : Nat} (h : PartAt a b o) (h' : PartAt a b o') : o = o' := by
  have hle : ∀ {m n : Nat}, PartAt a b m → PartAt a b n → m ≤ n := by
    intro m n hm hn
    have hlength : (a.take m).length = m := by simp [hm.le_left]
    have hbefore : a.take m <+: b := hm.agree ▸ List.take_prefix m b
    have hlongest := hn.longest (List.take_prefix m a) hbefore
    omega
  exact Nat.le_antisymm (hle h h') (hle h' h)

end PartAt

theorem mismatchFrom_add (offset n : Nat) (a b : Bytes) :
    mismatchFrom (offset + n) a b = (mismatchFrom offset a b).map (· + n) := by
  induction a generalizing offset b with
  | nil => cases b <;> simp [mismatchFrom]
  | cons x xs ih =>
    cases b with
    | nil => simp [mismatchFrom]
    | cons y ys =>
      have hnext : offset + n + 1 = offset + 1 + n := by omega
      by_cases hxy : x = y
      · simp [mismatchFrom, hxy, hnext, ih]
      · simp [mismatchFrom, hxy]

theorem mismatchFrom_comm (offset : Nat) (a b : Bytes) :
    mismatchFrom offset a b = mismatchFrom offset b a := by
  induction a generalizing offset b with
  | nil => cases b <;> simp [mismatchFrom]
  | cons x xs ih =>
    cases b with
    | nil => simp [mismatchFrom]
    | cons y ys => simp [mismatchFrom, ih, eq_comm]

theorem mismatchFrom_append (common a b : Bytes) :
    mismatchFrom 0 (common ++ a) (common ++ b) = (mismatchFrom 0 a b).map (· + common.length) := by
  induction common with
  | nil => simp
  | cons x common ih =>
    have hstep := mismatchFrom_add 0 1 (common ++ a) (common ++ b)
    simp only [Nat.zero_add, ih, Option.map_map] at hstep
    simp [mismatchFrom, hstep, Function.comp_def, Nat.add_assoc]

/-- Texts that differ part where they first differ. -/
theorem partAt_of_mismatch {a b : Bytes} {o : Nat} (h : mismatchFrom 0 a b = some o) :
    PartAt a b o := by
  induction a generalizing b o with
  | nil =>
    cases b with
    | nil => simp [mismatchFrom] at h
    | cons y ys =>
      obtain rfl : 0 = o := by simpa [mismatchFrom] using h
      exact .of_nil_left y ys
  | cons x xs ih =>
    cases b with
    | nil =>
      obtain rfl : 0 = o := by simpa [mismatchFrom] using h
      exact .of_nil_right x xs
    | cons y ys =>
      by_cases hxy : x = y
      · subst hxy
        have hstep := mismatchFrom_add 0 1 xs ys
        rw [Nat.zero_add] at hstep
        simp only [mismatchFrom, if_true, Nat.zero_add, hstep, Option.map_eq_some_iff] at h
        obtain ⟨inner, hinner, rfl⟩ := h
        exact (ih hinner).cons x
      · obtain rfl : 0 = o := by simpa [mismatchFrom, hxy] using h
        exact .of_ne hxy xs ys

theorem mismatchFrom_eq_some_iff {a b : Bytes} {o : Nat} :
    mismatchFrom 0 a b = some o ↔ PartAt a b o := by
  refine ⟨partAt_of_mismatch, fun hpart => ?_⟩
  cases hfound : mismatchFrom 0 a b with
  | some found => rw [(partAt_of_mismatch hfound).unique hpart]
  | none =>
    -- Equal texts agree on all of them, and so nowhere part.
    have hsame := mismatchFrom_eq_none_iff.mp hfound
    subst hsame
    have hlongest := hpart.longest (List.prefix_refl a) (List.prefix_refl a)
    rcases hpart.apart with ⟨x, y, hx, hy, hne⟩ | ⟨-, hlt⟩ | ⟨hlt, -⟩
    · exact absurd (Option.some.inj (hx.symm.trans hy)) hne
    · omega
    · omega

/-! ### Byte by byte -/

/-- Reads the bytes at these indices from both texts, one pair after the other, up to the first
pair that differs. There is no answer when an index is out of range. -/
def firstApart (a b : Bytes) : List Nat → Option (Option Nat)
  | [] => some none
  | i :: others => do
    let x ← a[i]?
    let y ← b[i]?
    if x = y then firstApart a b others else some (some i)

/-- The first difference, looked for by index up to the end of the shorter text. -/
def mismatchByIndex (a b : Bytes) : Option (Option Nat) := do
  let shared := min a.length b.length
  match ← firstApart a b (List.range shared) with
  | some i => some (some i)
  | none => if a.length = b.length then some none else some (some shared)

theorem firstApart_cons (x : UInt8) (a b : Bytes) (indices : List Nat) :
    firstApart (x :: a) (x :: b) (indices.map (· + 1)) =
      (firstApart a b indices).map (Option.map (· + 1)) := by
  induction indices with
  | nil => rfl
  | cons i others ih =>
    simp only [List.map_cons, firstApart, List.getElem?_cons_succ, ih]
    cases a[i]? with
    | none => rfl
    | some v =>
      cases b[i]? with
      | none => rfl
      | some w =>
        by_cases hvw : v = w <;> simp [hvw]

theorem mismatchByIndex_cons (x : UInt8) (a b : Bytes) :
    mismatchByIndex (x :: a) (x :: b) = (mismatchByIndex a b).map (Option.map (· + 1)) := by
  have hshared : min (x :: a).length (x :: b).length = min a.length b.length + 1 := by
    simp [Nat.succ_min_succ]
  have hindices : List.range (min a.length b.length + 1) =
      0 :: (List.range (min a.length b.length)).map (· + 1) := List.range_succ_eq_map
  have hscan : firstApart (x :: a) (x :: b) (List.range (min a.length b.length + 1)) =
      (firstApart a b (List.range (min a.length b.length))).map (Option.map (· + 1)) := by
    rw [hindices, firstApart, firstApart_cons]
    simp
  simp only [mismatchByIndex, hshared, hscan]
  cases firstApart a b (List.range (min a.length b.length)) with
  | none => rfl
  | some found =>
    cases found with
    | some i => rfl
    | none => by_cases hlength : a.length = b.length <;> simp [hlength]

/-- No index is ever out of range, and what is found by index is the first difference. -/
theorem mismatchByIndex_eq (a b : Bytes) : mismatchByIndex a b = some (mismatchFrom 0 a b) := by
  induction a generalizing b with
  | nil =>
    cases b with
    | nil => rfl
    | cons y ys => simp [mismatchByIndex, firstApart, mismatchFrom]
  | cons x xs ih =>
    cases b with
    | nil => simp [mismatchByIndex, firstApart, mismatchFrom]
    | cons y ys =>
      by_cases hxy : x = y
      · subst hxy
        have hstep := mismatchFrom_add 0 1 xs ys
        rw [mismatchByIndex_cons, ih, mismatchFrom, if_pos rfl, hstep]
        rfl
      · have hshared : min (x :: xs).length (y :: ys).length =
            min xs.length ys.length + 1 := by simp [Nat.succ_min_succ]
        simp only [mismatchByIndex, hshared, List.range_succ_eq_map, firstApart]
        simp [mismatchFrom, hxy]

/-! ### Recorded comparisons -/

/-- What a comparison records of the actual copy `a` and the expected copy `b`. -/
structure ArtifactComparison.Exact (artifact : String) (a b : Bytes)
    (comparison : ArtifactComparison) : Prop where
  artifact_eq : comparison.artifact = artifact
  actualBytes_eq : comparison.actualBytes = a.length
  expectedBytes_eq : comparison.expectedBytes = b.length
  passed_iff : comparison.passed = true ↔ a = b
  exists_mismatch : a ≠ b → ∃ o, comparison.mismatch = some o
  mismatch_iff : ∀ o, comparison.mismatch = some o ↔ PartAt a b o
  longest : ∀ o, comparison.mismatch = some o →
    ∀ common, common <+: a → common <+: b → common.length ≤ o
  inRange : mismatchByIndex b a = some comparison.mismatch

namespace ArtifactComparison

theorem exact_ofContents (artifact : String) (a b : Bytes) :
    Exact artifact a b (ofContents artifact a b) := by
  have hmismatch : (ofContents artifact a b).mismatch = mismatchFrom 0 a b :=
    mismatchFrom_comm 0 b a
  refine ⟨rfl, rfl, rfl, passed_ofContents_iff, fun hne => ?_, fun o => ?_, fun o ho => ?_, ?_⟩
  · rw [hmismatch]
    exact Option.ne_none_iff_exists'.mp (mt mismatchFrom_eq_none_iff.mp hne)
  · rw [hmismatch, mismatchFrom_eq_some_iff]
  · rw [hmismatch] at ho
    intro common ha hb
    exact (partAt_of_mismatch ho).longest ha hb
  · exact mismatchByIndex_eq b a

end ArtifactComparison

theorem compareRequired_of_holds {ws : Workspace} {actual expected : Path} {a b : Bytes}
    (artifact : String) (hactual : ws.Holds actual a) (hexpected : ws.Holds expected b) :
    compareRequired ws artifact actual expected = .ok (.ofContents artifact a b) := by
  have hfirst : readArtifact ws artifact .actual actual = .ok a :=
    readArtifact_eq_ok_iff.mpr hactual
  have hsecond : readArtifact ws artifact .expected expected = .ok b :=
    readArtifact_eq_ok_iff.mpr hexpected
  rw [compareRequired, hfirst, hsecond]
  rfl

/-- Whatever two copies hold: comparing them records how long each is, passes exactly when they
are equal, and otherwise gives the length of their longest common beginning, found without reading
beyond the end of either. Exchanging the copies gives the same offset, and the same bytes in front
of both move it by their number. -/
theorem compareRequired_exact {ws : Workspace} {actual expected : Path} {a b : Bytes}
    (artifact : String) (hactual : ws.Holds actual a) (hexpected : ws.Holds expected b) :
    ∃ comparison, compareRequired ws artifact actual expected = .ok comparison ∧
      comparison.Exact artifact a b ∧
      (∃ exchanged, compareRequired ws artifact expected actual = .ok exchanged ∧
        exchanged.mismatch = comparison.mismatch) ∧
      ∀ (common : Bytes) (ws' : Workspace) (actual' expected' : Path),
        ws'.Holds actual' (common ++ a) → ws'.Holds expected' (common ++ b) →
          ∃ longer, compareRequired ws' artifact actual' expected' = .ok longer ∧
            longer.mismatch = comparison.mismatch.map (· + common.length) := by
  refine ⟨_, compareRequired_of_holds artifact hactual hexpected,
    ArtifactComparison.exact_ofContents artifact a b, ?_, ?_⟩
  · refine ⟨_, compareRequired_of_holds artifact hexpected hactual, ?_⟩
    exact mismatchFrom_comm 0 a b
  · intro common ws' actual' expected' hactual' hexpected'
    refine ⟨_, compareRequired_of_holds artifact hactual' hexpected', ?_⟩
    exact mismatchFrom_append common b a

/-- A copy that ends early, and the same copies behind a line feed. -/
def cutShort : Workspace where
  tree :=
    { entries :=
        [(["out"], .directory), (["out", "result.txt"], .file [97, 98]),
          (["out", "log.txt"], .file [10, 97, 98]), (["exp"], .directory),
          (["exp", "result.txt"], .file [97, 98, 99]), (["exp", "log.txt"], .file [10, 97, 98, 99])]
      distinct := by decide
      rooted := by decide
      parented := by decide
      named := by decide }
  here := []

theorem cutShort_compared :
    (cutShort.Holds ⟨"out/result.txt"⟩ [97, 98] ∧ cutShort.Holds ⟨"exp/result.txt"⟩ [97, 98, 99]) ∧
      (cutShort.Holds ⟨"out/log.txt"⟩ [10, 97, 98] ∧
        cutShort.Holds ⟨"exp/log.txt"⟩ [10, 97, 98, 99]) ∧
      ∃ result log,
        compareRequired cutShort "a" ⟨"out/result.txt"⟩ ⟨"exp/result.txt"⟩ = .ok result ∧
        compareRequired cutShort "a" ⟨"out/log.txt"⟩ ⟨"exp/log.txt"⟩ = .ok log ∧
        result.Exact "a" [97, 98] [97, 98, 99] ∧ result.mismatch = some 2 ∧
        log.mismatch = some 3 := by
  have hactual : cutShort.Holds ⟨"out/result.txt"⟩ [97, 98] :=
    eq_ok_of_toOption (by decide +kernel)
  have hexpected : cutShort.Holds ⟨"exp/result.txt"⟩ [97, 98, 99] :=
    eq_ok_of_toOption (by decide +kernel)
  have hactualLog : cutShort.Holds ⟨"out/log.txt"⟩ [10, 97, 98] :=
    eq_ok_of_toOption (by decide +kernel)
  have hexpectedLog : cutShort.Holds ⟨"exp/log.txt"⟩ [10, 97, 98, 99] :=
    eq_ok_of_toOption (by decide +kernel)
  obtain ⟨result, hresult, hexact, -, hbehind⟩ := compareRequired_exact "a" hactual hexpected
  obtain ⟨log, hlog, hmoved⟩ := hbehind [10] cutShort _ _ hactualLog hexpectedLog
  have hpart : PartAt [97, 98] [97, 98, 99] 2 :=
    ⟨by decide, by decide, rfl, .inr (.inl ⟨rfl, by decide⟩)⟩
  have hmismatch : result.mismatch = some 2 := (hexact.mismatch_iff 2).mpr hpart
  rw [hmismatch] at hmoved
  exact ⟨⟨hactual, hexpected⟩, ⟨hactualLog, hexpectedLog⟩, result, log, hresult, hlog, hexact,
    hmismatch, hmoved⟩

end GoldenSuite
