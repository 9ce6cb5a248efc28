import GoldenSuite.Proofs.Json.Values

/-!
# Values of any kind

`Value` is a JSON value of any kind and any depth. `Value.unique` says that a text starts with at
most one value: where the next character is a closing one, the value before it ends in one place.
-/

namespace GoldenSuite.Json

/-! ### Ends of values -/

/-- The text starts with a character that ends a value. -/
def Closed (cs : List Char) : Prop :=
  ∃ c more, cs = c :: more ∧ c ∈ closing

theorem Blanks.closed {cs more : List Char} {c : Char} (h : Blanks cs (c :: more))
    (hc : c ∈ closing) : Closed cs := by
  cases h with
  | none => exact ⟨c, more, rfl, hc⟩
  | some hblank _ => exact ⟨_, _, rfl, List.mem_append_left _ hblank⟩

theorem Items.closed {α : Type} {item : List Char → α → List Char → Prop} {close : Char}
    (hclose : close ∈ closing) {cs rest : List Char} {as : List α}
    (h : Items item close false cs as rest) : Closed cs := by
  cases h with
  | close hblanks => exact hblanks.closed hclose
  | item hlead _ _ =>
    cases hlead with
    | comma hcomma _ => exact hcomma.closed (by decide)

theorem Closed.endsNumeral {cs : List Char} (h : Closed cs) : EndsNumeral cs := by
  obtain ⟨c, more, rfl, hc⟩ := h
  intro d hd
  obtain rfl : c = d := Option.some.inj hd
  have hall : ∀ c ∈ closing, c.isDigit = false ∧ c ∉ ['.', 'e', 'E'] := by
    simp [closing, blanks, Char.isDigit]
  exact hall c hc

/-- An item of a sequence may be judged by what follows it there. -/
theorem Items.map {α β : Type} {item : List Char → α → List Char → Prop}
    {item' : List Char → β → List Char → Prop} {close : Char} {first : Bool} {cs rest : List Char}
    {as : List α} (h : Items item close first cs as rest) (hclose : close ∈ closing) (f : α → β)
    (hitem : ∀ ⦃cs a rest⦄, item cs a rest → Closed rest → item' cs (f a) rest) :
    Items item' close first cs (as.map f) rest := by
  induction h with
  | close hblanks => exact .close hblanks
  | item hlead ha hmore ih => exact .item hlead (hitem ha (hmore.closed hclose)) ih

theorem Enclosed.map {α β : Type} {item : List Char → α → List Char → Prop}
    {item' : List Char → β → List Char → Prop} {opening close : Char} {cs rest : List Char}
    {as : List α} (h : Enclosed opening close item cs as rest) (hclose : close ∈ closing)
    (f : α → β) (hitem : ∀ ⦃cs a rest⦄, item cs a rest → Closed rest → item' cs (f a) rest) :
    Enclosed opening close item' cs (as.map f) rest := by
  obtain ⟨hitems⟩ := h
  exact .mk (hitems.map hclose f hitem)

theorem Member.map {α β : Type} {key : α → String} {key' : β → String}
    {value : List Char → α → List Char → Prop} {value' : List Char → β → List Char → Prop}
    {cs rest : List Char} {a : α} (h : Member key value cs a rest) (hclosed : Closed rest)
    (f : α → β) (hkey : key' (f a) = key a)
    (hvalue : ∀ ⦃cs rest⦄, value cs a rest → Closed rest → value' cs (f a) rest) :
    Member key' value' cs (f a) rest := by
  obtain ⟨hname, hcolon, mid, hblanks, ha⟩ := h
  exact ⟨hkey ▸ hname, hcolon, mid, hblanks, hvalue ha hclosed⟩

/-! ### Sequences in one text -/

theorem Lead.unique {first : Bool} {cs mid mid' : List Char} (h : Lead first cs mid)
    (h' : Lead first cs mid') (hmid : Fresh mid) (hmid' : Fresh mid') : mid = mid' := by
  cases h with
  | first hblanks =>
    cases h' with
    | first hblanks' => exact hblanks.unique hblanks' hmid hmid'
  | comma hcomma hblanks =>
    cases h' with
    | comma hcomma' hblanks' =>
      obtain ⟨-, rfl⟩ := hcomma.next_unique hcomma' (by decide) (by decide)
      exact hblanks.unique hblanks' hmid hmid'

/-- Two relations that tell the same of a text whose value is at its end, as far as `f` and `g` show
it. -/
def Agree {α β γ : Type} (item : List Char → α → List Char → Prop)
    (item' : List Char → β → List Char → Prop) (f : α → γ) (g : β → γ) : Prop :=
  ∀ ⦃cs a rest b rest'⦄, item cs a rest → Closed rest → item' cs b rest' → Closed rest' →
    f a = g b ∧ rest = rest'

section
variable {α β γ : Type} {item : List Char → α → List Char → Prop}
  {item' : List Char → β → List Char → Prop} {f : α → γ} {g : β → γ} {close : Char}

theorem closing_of_bracket (h : close ∈ [']', '\x7d']) :
    close ∈ closing ∧ close ∉ blanks ∧ close ≠ ',' := by
  have hall : ∀ c ∈ [']', '\x7d'], c ∈ closing ∧ c ∉ blanks ∧ c ≠ ',' := by
    simp [closing, blanks]
  exact hall close h

/-- Where an item follows, the sequence does not end. -/
theorem not_blanks_of_lead {first : Bool} {cs mid more rest : List Char} {a : α}
    (hitem : Solid item) (hclose : close ∈ [']', '\x7d']) (hlead : Lead first cs mid)
    (ha : item mid a more) : ¬ Blanks cs (close :: rest) := by
  intro hblanks
  have hbracket := closing_of_bracket hclose
  cases hlead with
  | first hblanks' =>
    obtain rfl := hblanks.unique hblanks' (fresh_cons hbracket.2.1) (hitem.fresh ha)
    obtain ⟨c, others, hcs, hc⟩ := hitem.starts ha
    obtain rfl := (List.cons.inj hcs).1
    exact hc hbracket.1
  | comma hcomma _ =>
    exact hbracket.2.2 (hblanks.next_unique hcomma hbracket.2.1 (by decide)).1

theorem Items.unique (hitem : Solid item) (hitem' : Solid item') (hclose : close ∈ [']', '\x7d'])
    (hagree : Agree item item' f g) {first : Bool} {cs rest rest' : List Char} {as : List α}
    {bs : List β} (h : Items item close first cs as rest)
    (h' : Items item' close first cs bs rest') : as.map f = bs.map g ∧ rest = rest' := by
  have hbracket := closing_of_bracket hclose
  -- On one derivation; the other one is closed where this one is, and goes on where it does.
  induction h generalizing bs with
  | close hblanks =>
    cases h' with
    | close hblanks' =>
      exact ⟨rfl, (hblanks.next_unique hblanks' hbracket.2.1 hbracket.2.1).2⟩
    | item hlead ha _ => exact absurd hblanks (not_blanks_of_lead hitem' hclose hlead ha)
  | item hlead ha hmore ih =>
    cases h' with
    | close hblanks => exact absurd hblanks (not_blanks_of_lead hitem hclose hlead ha)
    | item hlead' hb hmore' =>
      obtain rfl := hlead.unique hlead' (hitem.fresh ha) (hitem'.fresh hb)
      obtain ⟨hvalue, rfl⟩ := hagree ha (hmore.closed hbracket.1) hb (hmore'.closed hbracket.1)
      obtain ⟨hvalues, hrest⟩ := ih hmore'
      exact ⟨by rw [List.map_cons, List.map_cons, hvalue, hvalues], hrest⟩

theorem Enclosed.unique {opening : Char} (hitem : Solid item) (hitem' : Solid item')
    (hclose : close ∈ [']', '\x7d']) (hagree : Agree item item' f g) {cs rest rest' : List Char}
    {as : List α} {bs : List β} (h : Enclosed opening close item cs as rest)
    (h' : Enclosed opening close item' cs bs rest') : as.map f = bs.map g ∧ rest = rest' := by
  obtain ⟨hitems⟩ := h
  obtain ⟨hitems'⟩ := h'
  exact hitems.unique hitem hitem' hclose hagree hitems'

theorem Quoted.unique {cs rest rest' : List Char} {s s' : String} (h : Quoted cs s rest)
    (h' : Quoted cs s' rest') : s = s' ∧ rest = rest' :=
  (Reader.accepts_text "").unique ⟨cs, .none, h⟩ ⟨cs, .none, h'⟩

/-- Fields agree in their names when their values end in the same place. -/
theorem agree_member {key : α → String} {key' : β → String} (hitem : Solid item)
    (hitem' : Solid item') (hagree : Agree item item' (fun _ => ()) (fun _ => ())) :
    Agree (Member key item) (Member key' item') key key' := by
  rintro cs a rest b rest' ⟨hkey, hcolon, mid, hblanks, ha⟩ hclosed
    ⟨hkey', hcolon', mid', hblanks', hb⟩ hclosed'
  obtain ⟨hname, rfl⟩ := hkey.unique hkey'
  obtain ⟨-, rfl⟩ := hcolon.next_unique hcolon' (by decide) (by decide)
  obtain rfl := hblanks.unique hblanks' (hitem.fresh ha) (hitem'.fresh hb)
  exact ⟨hname, (hagree ha hclosed hb hclosed').2⟩

end

/-! ### Values -/

/-- The digits of a number, at least one. -/
def Digits (ds : List Char) : Prop :=
  ds ≠ [] ∧ ∀ d ∈ ds, d.isDigit

/-- The part of a number before the point. -/
def Whole (ds : List Char) : Prop :=
  ds = ['0'] ∨ Digits ds ∧ ds.head? ≠ some '0'

/-- A number: a sign, digits, digits behind a point and an exponent. -/
inductive Number.Spelled : List Char → Prop
  | mk {sign whole fraction exponent} : sign ∈ [[], ['-']] → Whole whole →
      (fraction = [] ∨ ∃ ds, Digits ds ∧ fraction = '.' :: ds) →
      (exponent = [] ∨ ∃ e ∈ ['e', 'E'], ∃ s ∈ [[], ['+'], ['-']], ∃ ds, Digits ds ∧
        exponent = e :: s ++ ds) → Number.Spelled (sign ++ whole ++ fraction ++ exponent)

/-- The kinds of JSON values. -/
inductive Form where
  | word
  | number
  | text
  | list
  | object
deriving DecidableEq, Repr

/-- A value of one kind; the values inside it are told by `inner`. -/
def Form.Holds (inner : List Char → Unit → List Char → Prop) :
    Form → List Char → List Char → Prop
  | .word => fun cs rest => ∃ word ∈ ["null", "true", "false"], Word word cs () rest
  | .number => fun cs rest => ∃ spelled, Number.Spelled spelled ∧ cs = spelled ++ rest
  | .text => fun cs rest => ∃ s, Quoted cs s rest
  | .list => fun cs rest => ∃ items, Enclosed '[' ']' inner cs items rest
  | .object => fun cs rest => ∃ names : List String,
      Enclosed '\x7b' '\x7d' (Member id fun cs _ rest => inner cs () rest) cs names rest

/-- A value of at most this many levels. -/
def ValueWithin : Nat → List Char → Unit → List Char → Prop
  | 0 => fun _ _ _ => False
  | depth + 1 => fun cs _ rest => ∃ form : Form, form.Holds (ValueWithin depth) cs rest

/-- A value of any kind and any depth. -/
def Value (cs : List Char) (rest : List Char) : Prop :=
  ∃ depth, ValueWithin depth cs () rest

/-- The form of the value that starts with a character. -/
def Form.ofStart (c : Char) : Form :=
  if c ∈ ['n', 't', 'f'] then .word
  else if c = '"' then .text
  else if c = '[' then .list
  else if c = '\x7b' then .object
  else .number

/-! ### Numbers -/

theorem ofStart_of_isDigit {c : Char} (h : c.isDigit) : Form.ofStart c = .number := by
  have hne : c ∉ ['n', 't', 'f'] ∧ c ≠ '"' ∧ c ≠ '[' ∧ c ≠ '\x7b' := by
    refine ⟨?_, ?_, ?_, ?_⟩
    · intro hc
      have hall : ∀ d ∈ ['n', 't', 'f'], d.isDigit = false := by simp [Char.isDigit]
      simp [hall c hc] at h
    · rintro rfl
      exact absurd h (by decide)
    · rintro rfl
      exact absurd h (by decide)
    · rintro rfl
      exact absurd h (by decide)
  rw [Form.ofStart, if_neg hne.1, if_neg hne.2.1, if_neg hne.2.2.1, if_neg hne.2.2.2]

theorem Whole.digits {ds : List Char} (h : Whole ds) : Digits ds := by
  rcases h with rfl | ⟨hds, -⟩
  · exact ⟨by simp, by simp [Char.isDigit]⟩
  · exact hds

theorem Digits.notMem_closing {ds : List Char} (h : Digits ds) : ∀ c ∈ ds, c ∉ closing :=
  fun c hc => Reader.notMem_closing_of_isDigit (h.2 c hc)

theorem Number.Spelled.notMem_closing {s : List Char} (h : Number.Spelled s) :
    ∀ c ∈ s, c ∉ closing := by
  obtain ⟨hsign, hwhole, hfraction, hexponent⟩ := h
  intro c hc
  simp only [List.mem_append, or_assoc] at hc
  have hsigns : ∀ sign ∈ [[], ['+'], ['-']], ∀ c ∈ sign, c ∉ closing := by
    simp [closing, blanks]
  rcases hc with hc | hc | hc | hc
  · refine hsigns _ ?_ c hc
    rcases List.mem_cons.mp hsign with rfl | hminus
    · exact List.mem_cons_self ..
    · exact List.mem_cons_of_mem _ (List.mem_cons_of_mem _ hminus)
  · exact hwhole.digits.notMem_closing c hc
  · rcases hfraction with rfl | ⟨ds, hds, rfl⟩
    · cases hc
    · rcases List.mem_cons.mp hc with rfl | hc
      · decide
      · exact hds.notMem_closing c hc
  · rcases hexponent with rfl | ⟨e, he, sign, hsign, ds, hds, rfl⟩
    · cases hc
    · rcases List.mem_append.mp hc with hc | hc
      · rcases List.mem_cons.mp hc with rfl | hc
        · have hletters : ∀ e ∈ ['e', 'E'], e ∉ closing := by simp [closing, blanks]
          exact hletters c he
        · exact hsigns sign hsign c hc
      · exact hds.notMem_closing c hc

theorem Number.Spelled.starts {s : List Char} (h : Number.Spelled s) :
    ∃ c more, s = c :: more ∧ Form.ofStart c = .number := by
  obtain ⟨hsign, hwhole, -, -⟩ := h
  obtain ⟨d, ds, rfl⟩ := List.exists_cons_of_ne_nil hwhole.digits.1
  have hd := hwhole.digits.2 d (List.mem_cons_self ..)
  rcases List.mem_cons.mp hsign with rfl | hminus
  · exact ⟨d, _, rfl, ofStart_of_isDigit hd⟩
  · obtain rfl := List.mem_singleton.mp hminus
    exact ⟨'-', _, rfl, by decide⟩

/-- A number goes on up to the next closing character. -/
theorem Number.Spelled.unique {s s' rest rest' : List Char} (h : Number.Spelled s)
    (h' : Number.Spelled s') (hclosed : Closed rest) (hclosed' : Closed rest')
    (hsame : s ++ rest = s' ++ rest') : rest = rest' := by
  have hdrop : ∀ {s rest : List Char}, Number.Spelled s → Closed rest →
      (s ++ rest).dropWhile (· ∉ closing) = rest := by
    rintro s _ hs ⟨c, more, rfl, hc⟩
    rw [List.dropWhile_append_of_pos (by simpa using hs.notMem_closing)]
    exact List.dropWhile_cons_of_neg (by simpa using hc)
  rw [← hdrop h hclosed, hsame, hdrop h' hclosed']

/-! ### One value in one place -/

section
variable {inner inner' : List Char → Unit → List Char → Prop}

theorem Form.Holds.starts {form : Form} {cs rest : List Char} (h : form.Holds inner cs rest) :
    ∃ c more, cs = c :: more ∧ Form.ofStart c = form ∧ c ∉ closing := by
  cases form with
  | word =>
    obtain ⟨word, hword, rfl⟩ := h
    have hall : ∀ word ∈ ["null", "true", "false"], ∃ c more, word.toList = c :: more ∧
        Form.ofStart c = .word ∧ c ∉ closing := by
      simp only [List.mem_cons, List.not_mem_nil, or_false]
      rintro word (rfl | rfl | rfl)
      · exact ⟨'n', _, rfl, by decide, by decide⟩
      · exact ⟨'t', _, rfl, by decide, by decide⟩
      · exact ⟨'f', _, rfl, by decide, by decide⟩
    obtain ⟨c, more, hcs, hstart⟩ := hall word hword
    exact ⟨c, more ++ rest, by rw [hcs]; rfl, hstart⟩
  | number =>
    obtain ⟨spelled, hspelled, rfl⟩ := h
    obtain ⟨c, more, rfl, hstart⟩ := hspelled.starts
    exact ⟨c, more ++ rest, rfl, hstart, hspelled.notMem_closing c (List.mem_cons_self ..)⟩
  | text =>
    obtain ⟨s, hs⟩ := h
    obtain ⟨more, rfl, -⟩ := quoted_iff.mp hs
    exact ⟨'"', more, rfl, by decide, by decide⟩
  | list =>
    obtain ⟨items, ⟨hitems⟩⟩ := h
    exact ⟨'[', _, rfl, by decide, by decide⟩
  | object =>
    obtain ⟨names, ⟨hitems⟩⟩ := h
    exact ⟨'\x7b', _, rfl, by decide, by decide⟩

theorem Form.Holds.shorter (hinner : Solid inner) {form : Form} {cs rest : List Char}
    (h : form.Holds inner cs rest) : rest.length < cs.length := by
  cases form with
  | word =>
    obtain ⟨word, hword, rfl⟩ := h
    have hall : ∀ word ∈ ["null", "true", "false"], 0 < word.toList.length := by simp
    have := hall word hword
    rw [List.length_append]
    omega
  | number =>
    obtain ⟨spelled, hspelled, rfl⟩ := h
    obtain ⟨c, more, rfl, -⟩ := hspelled.starts
    simp only [List.length_append, List.length_cons]
    omega
  | text =>
    obtain ⟨s, hs⟩ := h
    exact solid_quoted.shorter hs
  | list =>
    obtain ⟨items, hitems⟩ := h
    exact (solid_enclosed (by decide) hinner).shorter hitems
  | object =>
    obtain ⟨names, hitems⟩ := h
    have hmember : Solid fun cs (_ : String) rest => inner cs () rest :=
      ⟨hinner.starts, hinner.shorter⟩
    exact (solid_enclosed (by decide) (solid_member hmember)).shorter hitems

theorem solid_valueWithin (depth : Nat) : Solid (ValueWithin depth) := by
  induction depth with
  | zero => exact ⟨False.elim, False.elim⟩
  | succ depth ih =>
    constructor
    · rintro cs _ rest ⟨form, h⟩
      obtain ⟨c, more, hcs, -, hc⟩ := h.starts
      exact ⟨c, more, hcs, hc⟩
    · rintro cs _ rest ⟨form, h⟩
      exact h.shorter ih

theorem Form.Holds.unique (hinner : Solid inner) (hinner' : Solid inner')
    (hagree : Agree inner inner' (fun _ => ()) (fun _ => ())) {form : Form}
    {cs rest rest' : List Char} (h : form.Holds inner cs rest) (h' : form.Holds inner' cs rest')
    (hclosed : Closed rest) (hclosed' : Closed rest') : rest = rest' := by
  cases form with
  | word =>
    obtain ⟨word, hword, rfl⟩ := h
    obtain ⟨word', hword', hsame⟩ := h'
    simp only [List.mem_cons, List.not_mem_nil, or_false] at hword hword'
    rcases hword with rfl | rfl | rfl <;> rcases hword' with rfl | rfl | rfl <;>
      first | exact List.append_cancel_left hsame | exact absurd hsame (by simp [Word])
  | number =>
    obtain ⟨spelled, hspelled, rfl⟩ := h
    obtain ⟨spelled', hspelled', hsame⟩ := h'
    exact hspelled.unique hspelled' hclosed hclosed' hsame
  | text =>
    obtain ⟨s, hs⟩ := h
    obtain ⟨s', hs'⟩ := h'
    exact (hs.unique hs').2
  | list =>
    obtain ⟨items, hitems⟩ := h
    obtain ⟨items', hitems'⟩ := h'
    exact (hitems.unique hinner hinner' (by decide) hagree hitems').2
  | object =>
    obtain ⟨names, hitems⟩ := h
    obtain ⟨names', hitems'⟩ := h'
    have hmember : Solid fun cs (_ : String) rest => inner cs () rest :=
      ⟨hinner.starts, hinner.shorter⟩
    have hmember' : Solid fun cs (_ : String) rest => inner' cs () rest :=
      ⟨hinner'.starts, hinner'.shorter⟩
    have hfields : Agree (Member id _) (Member id _) id id :=
      agree_member hmember hmember' fun _ _ _ _ _ ha hrest hb hrest' => hagree ha hrest hb hrest'
    exact (hitems.unique (solid_member hmember) (solid_member hmember') (by decide) hfields
      hitems').2

end

theorem agree_valueWithin (depth depth' : Nat) :
    Agree (ValueWithin depth) (ValueWithin depth') (fun _ => ()) (fun _ => ()) := by
  induction depth generalizing depth' with
  | zero =>
    rintro cs a rest b rest' ⟨⟩
  | succ depth ih =>
    cases depth' with
    | zero => rintro cs a rest b rest' - - ⟨⟩
    | succ depth' =>
      rintro cs a rest b rest' ⟨form, h⟩ hclosed ⟨form', h'⟩ hclosed'
      -- The first character tells the form.
      obtain ⟨c, more, rfl, rfl, -⟩ := h.starts
      obtain ⟨c', more', hcs, rfl, -⟩ := h'.starts
      obtain ⟨rfl, rfl⟩ := List.cons.inj hcs
      exact ⟨rfl, h.unique (solid_valueWithin depth) (solid_valueWithin depth') (ih depth') h'
        hclosed hclosed'⟩

end GoldenSuite.Json
