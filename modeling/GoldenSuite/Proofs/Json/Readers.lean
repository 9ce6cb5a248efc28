import GoldenSuite.Json.Value
import GoldenSuite.Proofs.Json.Grammar

/-!
# What the readers accept

A reader accepts a relation of the grammar when it reads exactly the texts that the relation holds
of, yields what the relation says and stops where the rest begins. Where a reader stands in the
lines of the text has no part in this: the place only shows in its complaints.
-/

namespace GoldenSuite.Json

variable {α β : Type}

namespace Reader

/-! ### Readers and relations -/

/-- The reader yields a value and leaves this rest. -/
def Yields (r : Reader α) (c : Cursor) (a : α) (rest : List Char) : Prop :=
  ∃ after, r c = .ok (a, after) ∧ after.rest = rest

/-- The reader reads what the relation describes, and nothing else. -/
def Accepts (r : Reader α) (item : List Char → α → List Char → Prop) : Prop :=
  ∀ c a rest, r.Yields c a rest ↔ item c.rest a rest

theorem bind_apply (r : Reader α) (f : α → Reader β) (c : Cursor) :
    (r >>= f) c = match r c with
      | .ok (a, after) => f a after
      | .error problem => .error problem := by
  show Except.bind (r c) _ = _
  cases r c with
  | error problem => rfl
  | ok answer => rfl

theorem yields_bind_iff {r : Reader α} {f : α → Reader β} {c : Cursor} {b : β}
    {rest : List Char} : (r >>= f).Yields c b rest ↔
      ∃ a after, r c = .ok (a, after) ∧ (f a).Yields after b rest := by
  unfold Yields
  rw [bind_apply]
  cases hr : r c with
  | error problem => simp
  | ok answer =>
    obtain ⟨a, after⟩ := answer
    simp

theorem accepts_pure (a : α) :
    (pure a : Reader α).Accepts fun cs b rest => b = a ∧ rest = cs := by
  intro c b rest
  have hpure : (pure a : Reader α) c = .ok (a, c) := rfl
  constructor
  · rintro ⟨after, hok, rfl⟩
    rw [hpure, Except.ok.injEq, Prod.mk.injEq] at hok
    obtain ⟨rfl, rfl⟩ := hok
    exact ⟨rfl, rfl⟩
  · rintro ⟨rfl, rfl⟩
    exact ⟨c, hpure, rfl⟩

theorem Accepts.bind {r : Reader α} {f : α → Reader β} {first : List Char → α → List Char → Prop}
    {second : α → List Char → β → List Char → Prop} (hr : r.Accepts first)
    (hf : ∀ a, (f a).Accepts (second a)) :
    (r >>= f).Accepts fun cs b rest => ∃ a mid, first cs a mid ∧ second a mid b rest := by
  intro c b rest
  rw [yields_bind_iff]
  constructor
  · rintro ⟨a, after, hok, hrest⟩
    exact ⟨a, after.rest, (hr c a after.rest).mp ⟨after, hok, rfl⟩, (hf a after b rest).mp hrest⟩
  · rintro ⟨a, mid, hfirst, hsecond⟩
    obtain ⟨after, hok, rfl⟩ := (hr c a mid).mpr hfirst
    exact ⟨a, after, hok, (hf a after b rest).mpr hsecond⟩

theorem Accepts.congr {r : Reader α} {item item' : List Char → α → List Char → Prop}
    (h : r.Accepts item) (hiff : ∀ cs a rest, item cs a rest ↔ item' cs a rest) :
    r.Accepts item' :=
  fun c a rest => (h c a rest).trans (hiff c.rest a rest)

/-- What a reader accepts has one value and one rest. -/
theorem Accepts.unique {r : Reader α} {item : List Char → α → List Char → Prop} (h : r.Accepts item)
    {cs rest rest' : List Char} {a a' : α} (hitem : item cs a rest) (hitem' : item cs a' rest') :
    a = a' ∧ rest = rest' := by
  let c : Cursor := ⟨cs, 1, 0⟩
  obtain ⟨after, hok, rfl⟩ := (h c a rest).mpr hitem
  obtain ⟨after', hok', rfl⟩ := (h c a' rest').mpr hitem'
  rw [hok, Except.ok.injEq, Prod.mk.injEq] at hok'
  obtain ⟨rfl, rfl⟩ := hok'
  exact ⟨rfl, rfl⟩

/-! ### Readers that stop -/

/-- The reader reads nothing. -/
def Stops (r : Reader α) : Prop :=
  r.Accepts fun _ _ _ => False

theorem stops_of_error {r : Reader α} (h : ∀ c, ∃ problem, r c = .error problem) : r.Stops := by
  intro c a rest
  obtain ⟨problem, hproblem⟩ := h c
  simp [Yields, hproblem]

theorem stops_fail (mistake : Mistake) : (fail mistake : Reader α).Stops :=
  stops_of_error fun c => ⟨c.problem mistake, rfl⟩

theorem stops_failNext (mistake : Mistake) : (failNext mistake : Reader α).Stops :=
  stops_of_error fun c => ⟨c.problemNext mistake, rfl⟩

theorem stops_bind {r : Reader α} {f : α → Reader β} (h : ∀ a, (f a).Stops) :
    (r >>= f).Stops := by
  intro c b rest
  rw [yields_bind_iff, iff_false]
  rintro ⟨a, after, -, hrest⟩
  exact (h a after b rest).mp hrest

theorem Stops.bind {r : Reader α} (h : r.Stops) (f : α → Reader β) : (r >>= f).Stops := by
  intro c b rest
  rw [yields_bind_iff, iff_false]
  rintro ⟨a, after, hok, -⟩
  exact (h c a after.rest).mp ⟨after, hok, rfl⟩

/-! ### Looking ahead -/

theorem accepts_peek : peek.Accepts fun cs next rest => next = cs.head? ∧ rest = cs := by
  intro c next rest
  constructor
  · rintro ⟨after, hok, rfl⟩
    cases hok
    exact ⟨rfl, rfl⟩
  · rintro ⟨rfl, rfl⟩
    exact ⟨c, rfl, rfl⟩

theorem rest_advance (c : Cursor) : c.advance.rest = c.rest.tail := by
  unfold Cursor.advance
  split
  · next h => simp [h]
  · next h => simp [h]
  · next h => simp [h]

theorem accepts_advance : advance.Accepts fun cs _ rest => rest = cs.tail := by
  intro c _ rest
  constructor
  · rintro ⟨after, hok, rfl⟩
    cases hok
    exact rest_advance c
  · rintro rfl
    exact ⟨c.advance, rfl, rest_advance c⟩

theorem Accepts.advance {r : Reader α} {item : List Char → α → List Char → Prop}
    (h : r.Accepts item) :
    (Reader.advance >>= fun _ => r).Accepts fun cs a rest => item cs.tail a rest := by
  refine (accepts_advance.bind fun _ => h).congr fun cs a rest => ?_
  constructor
  · rintro ⟨_, mid, rfl, hitem⟩
    exact hitem
  · intro hitem
    exact ⟨(), cs.tail, rfl, hitem⟩

theorem rest_skipBlank (c : Cursor) :
    c.skipBlank.rest = c.rest.dropWhile (· ∈ blanks) := by
  have hgo : ∀ cs line column, (Cursor.skipBlank.go line column cs).rest =
      cs.dropWhile (· ∈ blanks) := by
    intro cs line column
    fun_induction Cursor.skipBlank.go line column cs with
    | case1 line column rest ih => rw [ih, List.dropWhile_cons_of_pos (by decide)]
    | case2 line column rest ih => rw [ih, List.dropWhile_cons_of_pos (by decide)]
    | case3 line column rest ih => rw [ih, List.dropWhile_cons_of_pos (by decide)]
    | case4 line column rest ih => rw [ih, List.dropWhile_cons_of_pos (by decide)]
    | case5 line column rest hfeed hspace htab hreturn =>
      cases rest with
      | nil => rfl
      | cons c more =>
        have hc : c ∉ blanks := by
          simp only [blanks, List.mem_cons, List.not_mem_nil, or_false, not_or]
          refine ⟨?_, ?_, ?_, ?_⟩
          · rintro rfl
            exact hspace more rfl
          · rintro rfl
            exact htab more rfl
          · rintro rfl
            exact hfeed more rfl
          · rintro rfl
            exact hreturn more rfl
        rw [List.dropWhile_cons_of_neg (by simpa using hc)]
  exact hgo c.rest c.line c.column

theorem accepts_peekToken :
    peekToken.Accepts fun cs next rest => Blanks cs rest ∧ Fresh rest ∧ next = rest.head? := by
  intro c next rest
  have hrest := rest_skipBlank c
  constructor
  · rintro ⟨after, hok, rfl⟩
    cases hok
    have hfresh : Fresh c.skipBlank.rest := hrest ▸ fresh_dropWhile c.rest
    exact ⟨(blanks_iff_eq_dropWhile hfresh).mpr hrest, hfresh, rfl⟩
  · rintro ⟨hblanks, hfresh, rfl⟩
    obtain rfl := (blanks_iff_eq_dropWhile hfresh).mp hblanks
    exact ⟨c.skipBlank, by rw [← hrest]; rfl, hrest⟩

/-- A reader that looks at the next token reads what the branch for that token reads. -/
theorem accepts_token {f : Option Char → Reader α}
    {item : Option Char → List Char → α → List Char → Prop}
    (h : ∀ next, (f next).Accepts (item next)) :
    (peekToken >>= f).Accepts fun cs a rest =>
      ∃ mid, Blanks cs mid ∧ Fresh mid ∧ item mid.head? mid a rest := by
  refine (accepts_peekToken.bind h).congr fun cs a rest => ?_
  constructor
  · rintro ⟨next, mid, ⟨hblanks, hfresh, rfl⟩, hitem⟩
    exact ⟨mid, hblanks, hfresh, hitem⟩
  · rintro ⟨mid, hblanks, hfresh, hitem⟩
    exact ⟨mid.head?, mid, ⟨hblanks, hfresh, rfl⟩, hitem⟩

theorem accepts_look {f : Option Char → Reader α}
    {item : Option Char → List Char → α → List Char → Prop}
    (h : ∀ next, (f next).Accepts (item next)) :
    (peek >>= f).Accepts fun cs a rest => item cs.head? cs a rest := by
  refine (accepts_peek.bind h).congr fun cs a rest => ?_
  constructor
  · rintro ⟨next, mid, ⟨rfl, rfl⟩, hitem⟩
    exact hitem
  · intro hitem
    exact ⟨cs.head?, cs, ⟨rfl, rfl⟩, hitem⟩

theorem accepts_ident (expected : List Char) :
    (ident expected).Accepts fun cs _ rest => cs = expected ++ rest := by
  induction expected with
  | nil =>
    refine (accepts_pure ()).congr fun cs _ rest => ?_
    simp [eq_comm]
  | cons first others ih =>
    refine (@accepts_look _ _ (fun next cs _ rest => next = some first ∧ cs.tail = others ++ rest)
      fun next => ?_).congr fun cs _ rest => ?_
    · cases next with
      | none => exact (stops_fail _).congr fun cs _ rest => by simp
      | some c =>
        by_cases hc : c = first
        · simp only [if_pos hc]
          refine ih.advance.congr fun cs _ rest => ?_
          simp [hc]
        · simp only [if_neg hc]
          exact (stops_failNext _).congr fun cs _ rest => by simp [hc]
    · cases cs <;> simp

end Reader

end GoldenSuite.Json
