import GoldenSuite.Json.Value
import GoldenSuite.Proofs.Json.Naturals
import GoldenSuite.Proofs.Json.Quoted

/-!
# Reading values of an expected kind

Each reader of a value accepts the relation for its kind, after blank characters. A value of
another kind is read only to name it in a complaint, so that `mismatch` never yields anything.
-/

namespace GoldenSuite.Json

namespace Reader

variable {α β : Type}

theorem stops_mismatch (expected : String) : (mismatch expected : Reader α).Stops := by
  unfold mismatch
  extract_lets named
  have hnamed : ∀ found, (named found).Stops := fun found => stops_fail _
  refine stops_bind fun next => ?_
  split
  · exact stops_bind fun _ => stops_bind fun _ => hnamed _
  · exact stops_bind fun _ => stops_bind fun _ => hnamed _
  · exact stops_bind fun _ => stops_bind fun _ => hnamed _
  · exact stops_bind fun _ => stops_bind fun _ => hnamed _
  · exact stops_bind fun _ => stops_bind fun _ => hnamed _
  · exact hnamed _
  · exact hnamed _
  · split
    · exact stops_bind fun _ => hnamed _
    · exact stops_failNext _
  · exact stops_failNext _

theorem accepts_ite {r s : Reader α} {item item' : List Char → α → List Char → Prop} (b : Bool)
    (hr : r.Accepts item) (hs : s.Accepts item') : (if b then r else s).Accepts
      fun cs a rest => if b then item cs a rest else item' cs a rest := by
  cases b with
  | false => simpa using hs
  | true => simpa using hr

/-- What a reader does after a token that has only one continuation. -/
theorem accepts_single {f : Option Char → Reader α} (c : Char)
    (item : List Char → α → List Char → Prop) (hc : c ∉ blanks)
    (hsame : (f (some c)).Accepts fun cs a rest => item cs.tail a rest)
    (hother : ∀ next, next ≠ some c → (f next).Stops) :
    (peekToken >>= f).Accepts fun cs a rest =>
      ∃ more, Blanks cs (c :: more) ∧ item more a rest := by
  have hbranch : ∀ next, (f next).Accepts fun cs a rest => next = some c ∧ item cs.tail a rest := by
    intro next
    by_cases hnext : next = some c
    · rw [hnext]
      refine hsame.congr fun cs a rest => ?_
      simp
    · refine (hother next hnext).congr fun cs a rest => ?_
      simp [hnext]
  refine (accepts_token hbranch).congr fun cs a rest => ?_
  constructor
  · rintro ⟨mid, hblanks, -, hhead, hitem⟩
    obtain ⟨more, rfl⟩ := List.head?_eq_some_iff.mp hhead
    exact ⟨more, hblanks, hitem⟩
  · rintro ⟨more, hblanks, hitem⟩
    exact ⟨c :: more, hblanks, fresh_cons hc, rfl, hitem⟩

theorem accepts_text (expected : String) : (text expected).Accepts (Spaced Quoted) := by
  refine (accepts_single '"' (fun cs s rest => Letters cs s.toList rest) (by decide)
    accepts_textBody.advance fun next hnext => ?_).congr fun cs s rest => ?_
  · split
    · exact absurd rfl hnext
    · exact stops_mismatch expected
  · constructor
    · rintro ⟨more, hblanks, hletters⟩
      exact ⟨_, hblanks, .mk hletters⟩
    · rintro ⟨_, hblanks, ⟨hletters⟩⟩
      exact ⟨_, hblanks, hletters⟩

theorem accepts_null : null.Accepts (Spaced (Word "null")) := by
  refine (accepts_single 'n' (fun cs _ rest => cs = ['u', 'l', 'l'] ++ rest) (by decide)
    (accepts_ident _).advance fun next hnext => ?_).congr fun cs _ rest => ?_
  · split
    · exact absurd rfl hnext
    · exact stops_mismatch _
  · constructor
    · rintro ⟨more, hblanks, rfl⟩
      exact ⟨_, hblanks, rfl⟩
    · rintro ⟨_, hblanks, rfl⟩
      exact ⟨_, hblanks, rfl⟩

theorem accepts_boolean : boolean.Accepts (Spaced Flag) := by
  refine (@accepts_token _ _ (fun next cs b rest => next = some (if b then 't' else 'f') ∧
    cs.tail = (if b then ['r', 'u', 'e'] else ['a', 'l', 's', 'e']) ++ rest)
      fun next => ?_).congr fun cs b rest => ?_
  · split
    · refine ((accepts_ident _).bind fun _ => accepts_pure true).advance.congr fun cs b rest => ?_
      cases b <;> simp
    · refine ((accepts_ident _).bind fun _ => accepts_pure false).advance.congr fun cs b rest => ?_
      cases b <;> simp
    · next htrue hfalse =>
      refine (stops_mismatch _).congr fun cs b rest => ?_
      cases b
      · simpa using fun h => absurd h hfalse
      · simpa using fun h => absurd h htrue
  · constructor
    · rintro ⟨mid, hblanks, -, hhead, htail⟩
      obtain ⟨more, rfl⟩ := List.head?_eq_some_iff.mp hhead
      refine ⟨_, hblanks, ?_⟩
      cases b with
      | false => exact congrArg ('f' :: ·) htail
      | true => exact congrArg ('t' :: ·) htail
    · rintro ⟨mid, hblanks, hflag⟩
      cases b <;> cases hflag
      · exact ⟨_, hblanks, fresh_cons (by decide), rfl, rfl⟩
      · exact ⟨_, hblanks, fresh_cons (by decide), rfl, rfl⟩

/-! ### Integers -/

theorem AcceptsNatural.bind {r : Reader Number} {f : Number → Reader Nat}
    {item : List Char → Nat → List Char → Prop} (hr : r.AcceptsNatural item)
    (hf : ∀ value, (f value).Accepts fun cs n rest => value = .natural n ∧ rest = cs) :
    (r >>= f).Accepts item := by
  intro c n rest
  rw [yields_bind_iff]
  constructor
  · rintro ⟨value, after, hok, hvalue⟩
    obtain ⟨rfl, rfl⟩ := (hf value after n rest).mp hvalue
    exact (hr c n after.rest).mp ⟨after, hok, rfl⟩
  · intro hitem
    obtain ⟨after, hok, rfl⟩ := (hr c n rest).mpr hitem
    exact ⟨_, after, hok, (hf _ after n after.rest).mpr ⟨rfl, rfl⟩⟩

theorem notMem_closing_of_isDigit {c : Char} (h : c.isDigit) : c ∉ closing := by
  intro hc
  simp only [closing, blanks, List.cons_append, List.nil_append, List.mem_cons, List.not_mem_nil,
    or_false] at hc
  rcases hc with rfl | rfl | rfl | rfl | rfl | rfl | rfl <;> exact absurd h (by decide)

theorem accepts_natural :
    natural.Accepts (Spaced fun cs n rest => Numeral cs n rest ∧ EndsNumeral rest) := by
  unfold natural
  extract_lets expected accept
  have haccept : ∀ value, (accept value).Accepts fun cs n rest =>
      value = .natural n ∧ rest = cs := by
    intro value
    cases value with
    | natural value =>
      refine (accepts_pure value).congr fun cs n rest => ?_
      simp [eq_comm]
    | negative value => exact (stops_fail _).congr (by simp)
    | real value => exact (stops_fail _).congr (by simp)
  refine (@accepts_token _ _ (fun next cs n rest => (∃ c ∈ next, c.isDigit) ∧
    Numeral cs n rest ∧ EndsNumeral rest) fun next => ?_).congr fun cs n rest => ?_
  · split
    · refine ((acceptsNatural_number true).bind haccept).advance.congr fun cs n rest => ?_
      simp
    · next c hminus =>
      by_cases hc : c.isDigit
      · simp only [if_pos hc]
        refine ((acceptsNatural_number false).bind haccept).congr fun cs n rest => ?_
        simp [hc]
      · simp only [if_neg hc]
        exact (stops_mismatch _).congr (by simp [hc])
    · exact (stops_mismatch _).congr (by simp)
  · constructor
    · rintro ⟨mid, hblanks, -, -, hnumeral⟩
      exact ⟨mid, hblanks, hnumeral⟩
    · rintro ⟨mid, hblanks, hnumeral, hends⟩
      obtain ⟨c, more, rfl, hc⟩ := head?_of_numeral hnumeral
      have hblank := notMem_blanks_of_closing (notMem_closing_of_isDigit hc)
      exact ⟨_, hblanks, fresh_cons hblank, ⟨c, rfl, hc⟩, hnumeral, hends⟩

/-! ### Sequences -/

/-- What is read behind a comma is about the next token only. -/
theorem accepts_ahead {f : Option Char → Reader Bool} {lead : Option Char → Prop}
    (h : ∀ next, (f next).Accepts fun cs more rest => more = true ∧ lead next ∧ rest = cs) :
    (peekToken >>= f).Accepts fun cs more rest =>
      more = true ∧ Blanks cs rest ∧ Fresh rest ∧ lead rest.head? := by
  refine (accepts_token h).congr fun cs more rest => ?_
  constructor
  · rintro ⟨mid, hblanks, hfresh, hmore, hlead, rfl⟩
    exact ⟨hmore, hblanks, hfresh, hlead⟩
  · rintro ⟨hmore, hblanks, hfresh, hlead⟩
    exact ⟨rest, hblanks, hfresh, hmore, hlead, rfl⟩

/-- Whether another item follows is told by the next token, or by the one behind a comma. -/
theorem accepts_another {f : Option Char → Reader Bool} {first : Bool} {close : Char}
    {lead : Option Char → Prop} (hclose : close ∉ blanks)
    (h : ∀ next, (f next).Accepts fun cs more rest =>
      if more then if first then lead next ∧ rest = cs
        else next = some ',' ∧ Blanks cs.tail rest ∧ Fresh rest ∧ lead rest.head?
      else next = some close ∧ rest = cs) :
    (peekToken >>= f).Accepts fun cs more rest =>
      if more then Lead first cs rest ∧ Fresh rest ∧ lead rest.head?
      else Blanks cs rest ∧ rest.head? = some close := by
  refine (accepts_token h).congr fun cs more rest => ?_
  cases more with
  | false =>
    simp only [Bool.false_eq_true, if_false]
    constructor
    · rintro ⟨mid, hblanks, -, hhead, rfl⟩
      exact ⟨hblanks, hhead⟩
    · rintro ⟨hblanks, hhead⟩
      obtain ⟨others, rfl⟩ := List.head?_eq_some_iff.mp hhead
      exact ⟨_, hblanks, fresh_cons hclose, rfl, rfl⟩
  | true =>
    cases first with
    | true =>
      simp only [if_true]
      constructor
      · rintro ⟨mid, hblanks, hfresh, hlead, rfl⟩
        exact ⟨.first hblanks, hfresh, hlead⟩
      · rintro ⟨⟨hblanks⟩, hfresh, hlead⟩
        exact ⟨rest, hblanks, hfresh, hlead, rfl⟩
    | false =>
      simp only [if_true, Bool.false_eq_true, if_false]
      constructor
      · rintro ⟨mid, hcomma, -, hhead, hafter⟩
        obtain ⟨others, rfl⟩ := List.head?_eq_some_iff.mp hhead
        exact ⟨.comma hcomma hafter.1, hafter.2⟩
      · rintro ⟨_ | ⟨hcomma, hblanks⟩, hfresh, hlead⟩
        exact ⟨_, hcomma, fresh_cons (by decide), rfl, hblanks, hfresh, hlead⟩

theorem accepts_anotherElement (first : Bool) : (anotherElement first).Accepts fun cs more rest =>
    if more then Lead first cs rest ∧ Fresh rest ∧
      (rest.head? ≠ some ']' ∧ (first = true → rest.head? ≠ none))
    else Blanks cs rest ∧ rest.head? = some ']' := by
  refine @accepts_another _ first ']'
    (fun next => next ≠ some ']' ∧ (first = true → next ≠ none)) (by decide) fun next => ?_
  split
  · refine (stops_failNext _).congr fun cs more rest => ?_
    cases more <;> cases first <;> simp
  · refine (accepts_pure false).congr fun cs more rest => ?_
    cases more <;> cases first <;> simp
  · next c hclose =>
    have hne : c ≠ ']' := hclose
    cases first with
    | true =>
      refine (accepts_pure true).congr fun cs more rest => ?_
      cases more <;> simp [hne]
    | false =>
      by_cases hcomma : c = ','
      · simp only [if_pos hcomma]
        refine (@accepts_ahead _ (· ≠ some ']') fun next => ?_).advance.congr
          fun cs more rest => ?_
        · split
          · next hend => exact (stops_failNext _).congr (by simp [hend])
          · next hend => exact (accepts_pure true).congr (by simp [hend])
        · cases more <;> simp [hcomma]
      · simp only [if_neg hcomma]
        refine (stops_failNext _).congr fun cs more rest => ?_
        cases more <;> simp [hcomma, hne]

theorem accepts_endOfList : endOfList.Accepts fun cs _ rest => Blanks cs (']' :: rest) := by
  refine (accepts_single ']' (fun cs _ rest => rest = cs) (by decide)
    accepts_advance fun next hnext => ?_).congr fun cs _ rest => ?_
  · split
    · exact stops_failNext _
    · exact absurd rfl hnext
    · refine stops_bind fun _ => stops_bind fun next => ?_
      split
      · exact stops_failNext _
      · exact stops_failNext _
    · exact stops_failNext _
  · simp

theorem accepts_endOfObject : endOfObject.Accepts fun cs _ rest => Blanks cs ('\x7d' :: rest) := by
  refine (accepts_single '\x7d' (fun cs _ rest => rest = cs) (by decide)
    accepts_advance fun next hnext => ?_).congr fun cs _ rest => ?_
  · split
    · exact absurd rfl hnext
    · exact stops_failNext _
    · exact stops_failNext _
    · exact stops_failNext _
  · simp

theorem accepts_colon : colon.Accepts fun cs _ rest => Blanks cs (':' :: rest) := by
  refine (accepts_single ':' (fun cs _ rest => rest = cs) (by decide)
    accepts_advance fun next hnext => ?_).congr fun cs _ rest => ?_
  · split
    · exact absurd rfl hnext
    · exact stops_failNext _
    · exact stops_failNext _
  · simp

theorem accepts_endOfText : endOfText.Accepts fun cs _ rest => Blanks cs [] ∧ rest = [] := by
  refine (@accepts_token _ _ (fun next cs _ rest => next = none ∧ rest = cs)
    fun next => ?_).congr fun cs _ rest => ?_
  · split
    · exact (accepts_pure ()).congr (by simp)
    · exact (stops_failNext _).congr (by simp)
  · constructor
    · rintro ⟨mid, hblanks, -, hnone, rfl⟩
      obtain rfl := List.head?_eq_none_iff.mp hnone
      exact ⟨hblanks, rfl⟩
    · rintro ⟨hblanks, rfl⟩
      exact ⟨[], hblanks, by simp [Fresh], rfl, rfl⟩

/-- Either the list is closed, or an element follows and what comes after it is read. -/
theorem accepts_nextElement {β : Type} {element : Reader α} {next : α → Reader β}
    {done : Reader β} {none : β} {item : List Char → α → List Char → Prop}
    {others : α → List Char → β → List Char → Prop} (helement : element.Accepts (Spaced item))
    (hsolid : Solid item) (hnext : ∀ a, (next a).Accepts (others a))
    (hdone : done.Accepts fun cs b rest => b = none ∧ Blanks cs (']' :: rest)) (first : Bool) :
    (anotherElement first >>= fun more => if more then element >>= next else done).Accepts
      fun cs b rest => b = none ∧ Blanks cs (']' :: rest) ∨
        ∃ mid a after, Lead first cs mid ∧ item mid a after ∧ others a after b rest := by
  refine ((accepts_anotherElement first).bind fun more =>
    accepts_ite more (helement.bind hnext) hdone).congr fun cs b rest => ?_
  constructor
  · rintro ⟨more, mid, hanother, hread⟩
    cases more with
    | false =>
      simp only [Bool.false_eq_true, if_false] at hanother hread
      exact .inl ⟨hread.1, hanother.1.trans hread.2⟩
    | true =>
      simp only [if_true] at hanother hread
      obtain ⟨a, after, ⟨mid', hblanks, hitem⟩, hothers⟩ := hread
      exact .inr ⟨mid', a, after, hanother.1.blanks hblanks, hitem, hothers⟩
  · rintro (⟨rfl, hblanks⟩ | ⟨mid, a, after, hlead, hitem, hothers⟩)
    · -- The closing bracket is only looked at here, and read with the end of the list.
      refine ⟨false, ']' :: rest, ?_, ?_⟩
      · simpa using hblanks
      · simpa using Blanks.none
    · obtain ⟨start, more, rfl, hstart⟩ := hsolid.starts hitem
      have hfresh : Fresh (start :: more) := fresh_cons (notMem_blanks_of_closing hstart)
      have hclose : start ≠ ']' := fun h => hstart (h ▸ by decide)
      refine ⟨true, start :: more, by simpa using ⟨hlead, hfresh, hclose⟩, ?_⟩
      simp only [if_true]
      exact ⟨a, after, ⟨_, .none, hitem⟩, hothers⟩

/-- The elements of a list and its closing bracket. -/
theorem accepts_elements {element : Reader α} {item : List Char → α → List Char → Prop}
    (helement : element.Accepts (Spaced item)) (hsolid : Solid item) (most : Nat) (first : Bool) :
    (elements element most first >>= fun items => endOfList >>= fun _ => pure items).Accepts
      fun cs items rest => Items item ']' first cs items rest ∧ items.length ≤ most := by
  have hend : (endOfList >>= fun _ => (pure [] : Reader (List α))).Accepts fun cs items rest =>
      items = [] ∧ Blanks cs (']' :: rest) := by
    refine (accepts_endOfList.bind fun _ => accepts_pure []).congr fun cs items rest => ?_
    constructor
    · rintro ⟨_, mid, hblanks, rfl, rfl⟩
      exact ⟨rfl, hblanks⟩
    · rintro ⟨rfl, hblanks⟩
      exact ⟨(), rest, hblanks, rfl, rfl⟩
  -- On the bound: one element is read, then at most as many as one less.
  induction most generalizing first with
  | zero =>
    have hread : elements element 0 first = pure [] := rfl
    rw [hread, pure_bind]
    refine hend.congr fun cs items rest => ?_
    cases items with
    | nil => simp [items_nil_iff]
    | cons a as => simp
  | succ most ih =>
    have hread : (elements element (most + 1) first >>= fun items =>
        endOfList >>= fun _ => pure items) = (anotherElement first >>= fun more =>
          if more then element >>= fun head =>
            (elements element most false >>= fun items => endOfList >>= fun _ => pure items) >>=
              fun others => pure (head :: others)
          else endOfList >>= fun _ => pure []) := by
      show ((anotherElement first >>= fun more => _) >>= _) = _
      rw [bind_assoc]
      congr 1
      funext more
      cases more <;> simp
    have hothers := fun head => (ih false).bind fun others => accepts_pure (head :: others)
    rw [hread]
    refine (accepts_nextElement helement hsolid hothers hend first).congr fun cs items rest => ?_
    constructor
    · rintro (⟨rfl, hblanks⟩ | ⟨mid, head, after, hlead, hitem, others, _, hmore, rfl, rfl⟩)
      · exact ⟨.close hblanks, Nat.zero_le _⟩
      · exact ⟨.item hlead hitem hmore.1, Nat.succ_le_succ hmore.2⟩
    · rintro ⟨hitems, hlength⟩
      cases hitems with
      | close hblanks => exact .inl ⟨rfl, hblanks⟩
      | item hlead hitem hmore =>
        exact .inr ⟨_, _, _, hlead, hitem, _, _, ⟨hmore, Nat.le_of_succ_le_succ hlength⟩, rfl, rfl⟩

theorem accepts_list {element : Reader α} {item : List Char → α → List Char → Prop}
    (helement : element.Accepts (Spaced item)) (hsolid : Solid item) :
    (list element).Accepts (Spaced (Enclosed '[' ']' item)) := by
  have hbody : (get >>= fun c : Cursor => elements element (c.rest.length + 1) true >>= fun items =>
      endOfList >>= fun _ => pure items).Accepts fun cs items rest =>
        Items item ']' true cs items rest := by
    intro c items rest
    -- A list has fewer elements than characters, so the bound leaves none of them out.
    refine (accepts_elements helement hsolid (c.rest.length + 1) true c items rest).trans ?_
    refine and_iff_left_of_imp fun hitems => ?_
    have := hitems.length_lt hsolid
    omega
  refine (accepts_single '[' _ (by decide) hbody.advance fun next hnext => ?_).congr
    fun cs items rest => ?_
  · split
    · exact absurd rfl hnext
    · exact stops_mismatch _
  · constructor
    · rintro ⟨more, hblanks, hitems⟩
      exact ⟨_, hblanks, .mk hitems⟩
    · rintro ⟨_, hblanks, ⟨hitems⟩⟩
      exact ⟨_, hblanks, hitems⟩

/-! ### Fields of an object -/

theorem accepts_anotherField (first : Bool) : (anotherField first).Accepts fun cs more rest =>
    if more then Lead first cs rest ∧ Fresh rest ∧ rest.head? = some '"'
    else Blanks cs rest ∧ rest.head? = some '\x7d' := by
  refine @accepts_another _ first '\x7d' (· = some '"') (by decide) fun next => ?_
  split
  · refine (stops_failNext _).congr fun cs more rest => ?_
    cases more <;> simp
  · refine (accepts_pure false).congr fun cs more rest => ?_
    cases more <;> simp
  · next c hclose =>
    have hne : c ≠ '\x7d' := hclose
    cases first with
    | true =>
      by_cases hquote : c = '"'
      · simp only [if_true, if_pos hquote]
        refine (accepts_pure true).congr fun cs more rest => ?_
        cases more <;> simp [hquote]
      · simp only [if_true, if_neg hquote]
        refine (stops_failNext _).congr fun cs more rest => ?_
        cases more <;> simp [hquote, hne]
    | false =>
      by_cases hcomma : c = ','
      · simp only [if_pos hcomma]
        refine (@accepts_ahead _ (· = some '"') fun next => ?_).advance.congr
          fun cs more rest => ?_
        · split
          · exact (accepts_pure true).congr (by simp)
          · exact (stops_failNext _).congr (by simp)
          · next c hquote _ =>
            have hne : c ≠ '"' := hquote
            exact (stops_failNext _).congr (by simp [hne])
          · exact (stops_failNext _).congr (by simp)
        · cases more <;> simp [hcomma]
      · simp only [if_neg hcomma]
        refine (stops_failNext _).congr fun cs more rest => ?_
        cases more <;> simp [hcomma, hne]

/-- Either the object is closed, or the key of a field follows and what comes after it is read. -/
theorem accepts_nextField {next : String → Reader α} {done : Reader α} {none : α}
    {others : String → List Char → α → List Char → Prop}
    (hnext : ∀ key, (next key).Accepts (others key))
    (hdone : done.Accepts fun cs a rest => a = none ∧ Blanks cs ('\x7d' :: rest)) (first : Bool) :
    (anotherField first >>= fun more => if more then fieldName >>= next else done).Accepts
      fun cs a rest => a = none ∧ Blanks cs ('\x7d' :: rest) ∨
        ∃ mid key after, Lead first cs mid ∧ Quoted mid key after ∧ others key after a rest := by
  have hname : fieldName.Accepts fun cs key rest => Letters cs.tail key.toList rest :=
    accepts_textBody.advance
  refine ((accepts_anotherField first).bind fun more =>
    accepts_ite more (hname.bind hnext) hdone).congr fun cs a rest => ?_
  constructor
  · rintro ⟨more, mid, hanother, hread⟩
    cases more with
    | false =>
      simp only [Bool.false_eq_true, if_false] at hanother hread
      exact .inl ⟨hread.1, hanother.1.trans hread.2⟩
    | true =>
      simp only [if_true] at hanother hread
      obtain ⟨hlead, -, hquote⟩ := hanother
      obtain ⟨letters, rfl⟩ := List.head?_eq_some_iff.mp hquote
      obtain ⟨key, after, hletters, hothers⟩ := hread
      exact .inr ⟨_, key, after, hlead, .mk hletters, hothers⟩
  · rintro (⟨rfl, hblanks⟩ | ⟨mid, key, after, hlead, hkey, hothers⟩)
    · refine ⟨false, '\x7d' :: rest, ?_, ?_⟩
      · simpa using hblanks
      · simpa using Blanks.none
    · obtain ⟨letters, rfl, hletters⟩ := quoted_iff.mp hkey
      refine ⟨true, '"' :: letters, ?_, ?_⟩
      · simp only [if_true]
        exact ⟨hlead, fresh_cons (by decide), rfl⟩
      · simp only [if_true]
        exact ⟨key, after, hletters, hothers⟩

theorem stops_failAfterName (mistake : Mistake) : (failAfterName mistake : Reader α).Stops := by
  unfold failAfterName
  refine stops_bind fun next => ?_
  split
  · exact stops_bind fun _ => stops_fail _
  · exact stops_fail _

end Reader

end GoldenSuite.Json
