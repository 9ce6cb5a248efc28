import GoldenSuite.Config.Reading
import GoldenSuite.Proofs.Config.Assigned
import GoldenSuite.Proofs.Json.Values

/-!
# Values of the fields in a text

`Spelled` says how a value of a kind is written. A policy is also read from an object that has the
name of the policy for its only key; `Admitted` allows for that. `Met` is what the readers accept:
an admitted value, and after an integer nothing that would make it another number.
-/

namespace GoldenSuite.Config

open Json

/-- How a value is written. A path is written as the text that names it. -/
def Kind.Spelled : (kind : Kind) → List Char → kind.Carrier → List Char → Prop
  | .path => fun cs (p : Path) rest => ∃ text, p = .ofText text ∧ Quoted cs text rest
  | .text => Quoted
  | .texts => Enclosed '[' ']' Quoted
  | .natural => Numeral
  | .policy => fun cs (p : LogPolicy) rest => Quoted cs p.name rest
  | .flag => Flag

/-- An object with one field, which has the name of a policy and no value. -/
def TaggedPolicy (cs : List Char) (p : LogPolicy) (rest : List Char) : Prop :=
  Enclosed '\x7b' '\x7d' (Member LogPolicy.name fun cs _ rest => Word "null" cs () rest) cs [p] rest

/-- How a value may be written for a configuration to be read. -/
def Kind.Admitted : (kind : Kind) → List Char → kind.Carrier → List Char → Prop
  | .policy => fun cs p rest => Kind.policy.Spelled cs p rest ∨ TaggedPolicy cs p rest
  | .path => Kind.path.Spelled
  | .text => Kind.text.Spelled
  | .texts => Kind.texts.Spelled
  | .natural => Kind.natural.Spelled
  | .flag => Kind.flag.Spelled

/-- An admitted value that the readers find complete. -/
def Kind.Met (kind : Kind) (cs : List Char) (value : kind.Carrier) (rest : List Char) : Prop :=
  kind.Admitted cs value rest ∧ (kind = .natural → EndsNumeral rest)

theorem Kind.admitted_of_spelled {kind : Kind} {cs : List Char} {value : kind.Carrier}
    {rest : List Char} (h : kind.Spelled cs value rest) : kind.Admitted cs value rest := by
  cases kind with
  | policy => exact .inl h
  | path => exact h
  | text => exact h
  | texts => exact h
  | natural => exact h
  | flag => exact h

/-! ### Every value takes some characters -/

theorem solid_word {word : String} {c : Char} {cs : List Char} (hword : word.toList = c :: cs)
    (hc : c ∉ closing) : Solid fun cs (_ : LogPolicy) rest => Word word cs () rest where
  starts := by
    rintro _ _ rest rfl
    exact ⟨c, cs ++ rest, by rw [hword]; rfl, hc⟩
  shorter := by
    rintro _ _ rest rfl
    simp only [hword, List.length_append, List.length_cons]
    omega

theorem solid_numeral : Solid Numeral where
  starts := by
    intro cs n rest h
    obtain ⟨c, more, hcs, hc⟩ := Reader.head?_of_numeral h
    exact ⟨c, more, hcs, Reader.notMem_closing_of_isDigit hc⟩
  shorter := by
    rintro _ n rest ⟨-, rfl⟩
    have := @Nat.length_toDigits_pos 10 n
    rw [List.length_append]
    omega

theorem solid_flag : Solid Flag where
  starts := by
    rintro _ b rest rfl
    cases b with
    | false => exact ⟨'f', _, rfl, by decide⟩
    | true => exact ⟨'t', _, rfl, by decide⟩
  shorter := by
    rintro _ b rest rfl
    have hpos : 0 < (toString b).toList.length := by cases b <;> decide
    rw [List.length_append]
    omega

theorem Kind.solid_admitted (kind : Kind) : Solid kind.Admitted := by
  cases kind with
  | path =>
    constructor
    · rintro cs p rest ⟨text, -, hquoted⟩
      exact solid_quoted.starts hquoted
    · rintro cs p rest ⟨text, -, hquoted⟩
      exact solid_quoted.shorter hquoted
  | text => exact solid_quoted
  | texts => exact solid_enclosed (by decide) solid_quoted
  | natural => exact solid_numeral
  | flag => exact solid_flag
  | policy =>
    have hvalue : Solid fun cs (_ : LogPolicy) rest => Word "null" cs () rest :=
      solid_word rfl (by decide)
    have htagged : Solid (Enclosed '\x7b' '\x7d' (Member LogPolicy.name _)) :=
      solid_enclosed (by decide) (solid_member hvalue)
    constructor
    · rintro cs p rest (hname | hobject)
      · exact solid_quoted.starts hname
      · exact htagged.starts hobject
    · rintro cs p rest (hname | hobject)
      · exact solid_quoted.shorter hname
      · exact htagged.shorter hobject

/-! ### Readers -/

/-- The reader of a kind. -/
def Kind.read : (kind : Kind) → Reader kind.Carrier
  | .path => readPath
  | .text => readString
  | .texts => Reader.list readString
  | .natural => Reader.natural
  | .policy => readPolicy
  | .flag => Reader.boolean

theorem readValue_eq (c : Config) (field : Field) :
    readValue c field = field.kind.read >>= fun value => pure (c.withValue field value) := by
  cases field <;> rfl

theorem name_injective {p q : LogPolicy} (h : p.name = q.name) : p = q := by
  cases p <;> cases q <;> first | rfl | exact absurd h (by decide)

theorem accepts_policyNamed (name : String) : (policyNamed name).Accepts fun cs p rest =>
    name = p.name ∧ rest = cs := by
  unfold policyNamed
  split
  · next policy hpolicy =>
    have hname : policy.name = name := by simpa using List.find?_some hpolicy
    refine (Reader.accepts_pure policy).congr fun cs p rest => and_congr_left fun _ => ?_
    constructor
    · rintro rfl
      exact hname.symm
    · intro hp
      exact name_injective (hp.symm.trans hname.symm)
  · next hnone =>
    refine (Reader.stops_fail _).congr fun cs p rest => iff_of_false id ?_
    rintro ⟨rfl, -⟩
    have hmem : p ∈ [LogPolicy.lenient, .strict] := by cases p <;> decide
    have := List.find?_eq_none.mp hnone p hmem
    simp at this

theorem accepts_policyText : (Reader.text "variant identifier" >>= policyNamed).Accepts
    (Spaced fun cs p rest => Quoted cs p.name rest) := by
  refine ((Reader.accepts_text _).bind accepts_policyNamed).congr fun cs p rest => ?_
  constructor
  · rintro ⟨name, mid, hname, rfl, rfl⟩
    exact hname
  · intro hname
    exact ⟨p.name, rest, hname, rfl, rfl⟩

theorem taggedPolicy_iff {cs rest : List Char} {p : LogPolicy} : TaggedPolicy cs p rest ↔
    ∃ more mid, cs = '\x7b' :: more ∧
      Spaced (Member LogPolicy.name fun cs _ rest => Word "null" cs () rest) more p mid ∧
        Blanks mid ('\x7d' :: rest) := by
  constructor
  · rintro ⟨hitems⟩
    obtain ⟨mid, after, ⟨hblanks⟩, hmember, hclose⟩ := items_cons_iff.mp hitems
    exact ⟨_, after, rfl, ⟨mid, hblanks, hmember⟩, items_nil_iff.mp hclose⟩
  · rintro ⟨more, after, rfl, ⟨mid, hblanks, hmember⟩, hclose⟩
    exact .mk (.item (.first hblanks) hmember (.close hclose))

/-- What follows the opening bracket of a tagged policy. -/
theorem accepts_policyBody : (do
    let policy ← policyNamed (← Reader.text "variant identifier")
    Reader.colon
    Reader.null
    match ← Reader.peekToken with
    | some '\x7d' => do Reader.advance; pure policy
    | some _ => Reader.fail .expectedValue
    | none => Reader.fail .endInObject : Reader LogPolicy).Accepts fun cs p rest => ∃ mid,
      Spaced (Member LogPolicy.name fun cs _ rest => Word "null" cs () rest) cs p mid ∧
        Blanks mid ('\x7d' :: rest) := by
  have hclose : ∀ policy : LogPolicy, (do
      match ← Reader.peekToken with
      | some '\x7d' => do Reader.advance; pure policy
      | some _ => Reader.fail .expectedValue
      | none => Reader.fail .endInObject : Reader LogPolicy).Accepts fun cs p rest =>
        p = policy ∧ Blanks cs ('\x7d' :: rest) := by
    intro policy
    refine (Reader.accepts_single '\x7d' (fun cs p rest => p = policy ∧ rest = cs) (by decide)
      (Reader.accepts_pure policy).advance fun next hnext => ?_).congr fun cs p rest => ?_
    · split
      · exact absurd rfl hnext
      · exact Reader.stops_fail _
      · exact Reader.stops_fail _
    · constructor
      · rintro ⟨more, hblanks, rfl, rfl⟩
        exact ⟨rfl, hblanks⟩
      · rintro ⟨rfl, hblanks⟩
        exact ⟨rest, hblanks, rfl, rfl⟩
  have hread := (Reader.accepts_text "variant identifier").bind fun name =>
    (accepts_policyNamed name).bind fun policy => Reader.accepts_colon.bind fun _ =>
      Reader.accepts_null.bind fun _ => hclose policy
  refine hread.congr fun cs p rest => ?_
  constructor
  · rintro ⟨name, _, ⟨mid, hblanks, hname⟩, policy, _, ⟨rfl, rfl⟩, _, after, hcolon, _, last,
      hnull, rfl, hend⟩
    exact ⟨last, ⟨mid, hblanks, .mk hname hcolon hnull⟩, hend⟩
  · rintro ⟨last, ⟨mid, hblanks, ⟨hname, hcolon, hnull⟩⟩, hend⟩
    exact ⟨p.name, _, ⟨mid, hblanks, hname⟩, p, _, ⟨rfl, rfl⟩, (), _, hcolon, (), last, hnull,
      rfl, hend⟩

theorem accepts_readPolicy : readPolicy.Accepts (Spaced Kind.policy.Met) := by
  refine (@Reader.accepts_token _ _ (fun next cs p rest =>
    next = some '"' ∧ Spaced (fun cs p rest => Quoted cs p.name rest) cs p rest ∨
      next = some '\x7b' ∧ ∃ mid, Spaced (Member LogPolicy.name fun cs _ rest =>
        Word "null" cs () rest) cs.tail p mid ∧ Blanks mid ('\x7d' :: rest)) fun next => ?_).congr
    fun cs p rest => ?_
  · split
    · refine accepts_policyText.congr fun cs p rest => ?_
      simp
    · refine accepts_policyBody.advance.congr fun cs p rest => ?_
      simp
    · next c hquote hbrace =>
      refine (Reader.stops_failNext _).congr fun cs p rest => ?_
      have hne : c ≠ '"' := hquote
      have hne' : c ≠ '\x7b' := hbrace
      simp [hne, hne']
    · exact (Reader.stops_failNext _).congr (by simp)
  · constructor
    · rintro ⟨mid, hblanks, -, ⟨-, mid', hblanks', hname⟩ | ⟨hbrace, after, hmember, hend⟩⟩
      · exact ⟨mid', hblanks.trans hblanks', .inl hname, nofun⟩
      · obtain ⟨more, rfl⟩ := List.head?_eq_some_iff.mp hbrace
        exact ⟨_, hblanks, .inr (taggedPolicy_iff.mpr ⟨more, after, rfl, hmember, hend⟩), nofun⟩
    · rintro ⟨mid, hblanks, hname | htagged, -⟩
      · obtain ⟨hletters⟩ := id hname
        exact ⟨_, hblanks, fresh_cons (by decide), .inl ⟨rfl, _, .none, hname⟩⟩
      · obtain ⟨more, after, rfl, hmember, hend⟩ := taggedPolicy_iff.mp htagged
        exact ⟨_, hblanks, fresh_cons (by decide), .inr ⟨rfl, after, hmember, hend⟩⟩

theorem accepts_readPath : readPath.Accepts (Spaced Kind.path.Met) := by
  refine ((Reader.accepts_text "path string").bind fun text =>
    Reader.accepts_pure (Path.ofText text)).congr fun cs p rest => ?_
  constructor
  · rintro ⟨text, _, ⟨mid, hblanks, htext⟩, rfl, rfl⟩
    exact ⟨mid, hblanks, ⟨text, rfl, htext⟩, nofun⟩
  · rintro ⟨mid, hblanks, ⟨text, rfl, htext⟩, -⟩
    exact ⟨text, rest, ⟨mid, hblanks, htext⟩, rfl, rfl⟩

theorem accepts_read (kind : Kind) : kind.read.Accepts (Spaced kind.Met) := by
  -- What is asked of the rest concerns integers only.
  have hmet : ∀ (item : List Char → kind.Carrier → List Char → Prop),
      (∀ cs value rest, item cs value rest ↔ kind.Met cs value rest) →
        kind.read.Accepts (Spaced item) → kind.read.Accepts (Spaced kind.Met) := by
    intro item hitem hread
    refine hread.congr fun cs value rest => ?_
    simp only [Spaced, hitem]
  cases kind with
  | path => exact accepts_readPath
  | text => exact hmet Quoted (fun _ _ _ => (and_iff_left nofun).symm) (Reader.accepts_text _)
  | texts =>
    exact hmet (Enclosed '[' ']' Quoted) (fun _ _ _ => (and_iff_left nofun).symm)
      (Reader.accepts_list (Reader.accepts_text _) solid_quoted)
  | natural =>
    refine hmet _ (fun cs n rest => ?_) Reader.accepts_natural
    exact ⟨fun h => ⟨h.1, fun _ => h.2⟩, fun h => ⟨h.1, h.2 rfl⟩⟩
  | policy => exact accepts_readPolicy
  | flag => exact hmet Flag (fun _ _ _ => (and_iff_left nofun).symm) Reader.accepts_boolean

theorem accepts_readValue (c : Config) (field : Field) :
    (readValue c field).Accepts fun cs d rest =>
      ∃ value, Spaced field.kind.Met cs value rest ∧ d = c.withValue field value := by
  rw [readValue_eq]
  refine ((accepts_read field.kind).bind fun value =>
    Reader.accepts_pure (c.withValue field value)).congr fun cs d rest => ?_
  constructor
  · rintro ⟨value, mid, hvalue, rfl, rfl⟩
    exact ⟨value, hvalue, rfl⟩
  · rintro ⟨value, hvalue, rfl⟩
    exact ⟨value, rest, hvalue, rfl, rfl⟩

end GoldenSuite.Config
