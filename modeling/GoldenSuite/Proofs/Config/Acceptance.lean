import GoldenSuite.Proofs.Config.Documents
import GoldenSuite.Proofs.Json.Nested
import Mathlib.Data.List.Nodup

/-!
# Which texts are configurations

Every object that gives some fields of a configuration by their keys is read back exactly, and one
with a repeated or an unknown key is refused, whatever its values are. Besides such objects only
lists of the first fields are accepted, and there is an object form for policies.
-/

namespace GoldenSuite.Config

open Json

/-- The configuration has the values of these assignments and defaults for its other fields. -/
structure Gives (members : List Assignment) (c : Config) : Prop where
  given : ∀ a ∈ members, c.valueOf a.field = a.value
  others : ∀ field ∉ members.map Assignment.field, c.valueOf field = ({} : Config).valueOf field

theorem gives_assign {members : List Assignment} (h : (members.map Assignment.field).Nodup) :
    Gives members (({} : Config).assign members) where
  given _ ha := valueOf_assign_of_mem {} h ha
  others _ hfield := valueOf_assign_of_notMem {} hfield

theorem eq_assign_of_gives {members : List Assignment} {c : Config} (h : Gives members c)
    (hnodup : (members.map Assignment.field).Nodup) : c = ({} : Config).assign members := by
  refine eq_of_valueOf fun field => ?_
  by_cases hfield : field ∈ members.map Assignment.field
  · obtain ⟨a, ha, rfl⟩ := List.mem_map.mp hfield
    rw [h.given a ha, (gives_assign hnodup).given a ha]
  · rw [h.others field hfield, (gives_assign hnodup).others field hfield]

/-! ### Objects and lists -/

section
variable (value : (kind : Kind) → List Char → kind.Carrier → List Char → Prop)

/-- A text that gives fields by their keys. -/
def ObjectText (text : String) (members : List Assignment) : Prop :=
  Document (Enclosed '\x7b' '\x7d' (Member Assignment.key (Written value))) text members

/-- A text that gives fields without their keys. -/
def ListText (text : String) (members : List Assignment) : Prop :=
  Document (Enclosed '[' ']' (Written value)) text members

end

theorem Kind.met_of_closed {kind : Kind} {cs : List Char} {value : kind.Carrier} {rest : List Char}
    (h : kind.Admitted cs value rest) (hclosed : Closed rest) : kind.Met cs value rest :=
  ⟨h, fun _ => hclosed.endsNumeral⟩

theorem Document.imp {α : Type} {item item' : List Char → α → List Char → Prop} {text : String}
    {a : α} (h : Document item text a) (himp : ∀ ⦃cs rest⦄, item cs a rest → item' cs a rest) :
    Document item' text a := by
  obtain ⟨after, ⟨mid, hblanks, hitem⟩, hend⟩ := h
  exact ⟨after, ⟨mid, hblanks, himp hitem⟩, hend⟩

section
variable {value value' : (kind : Kind) → List Char → kind.Carrier → List Char → Prop}
  (himp : ∀ ⦃kind cs v rest⦄, value kind cs v rest → Closed rest → value' kind cs v rest)

include himp

theorem written_imp ⦃cs : List Char⦄ ⦃a : Assignment⦄ ⦃rest : List Char⦄
    (h : Written value cs a rest) (hclosed : Closed rest) : Written value' cs a rest :=
  himp h hclosed

theorem ObjectText.imp {text : String} {members : List Assignment}
    (h : ObjectText value text members) : ObjectText value' text members := by
  refine Document.imp h fun cs rest hobject => ?_
  have hmapped : Enclosed '\x7b' '\x7d' (Member Assignment.key (Written value')) cs
      (members.map id) rest :=
    hobject.map (by decide) id fun _ _ _ hmember hclosed =>
      hmember.map hclosed id rfl fun _ _ hvalue => written_imp himp hvalue
  rwa [List.map_id] at hmapped

theorem ListText.imp {text : String} {members : List Assignment}
    (h : ListText value text members) : ListText value' text members := by
  refine Document.imp h fun cs rest hlist => ?_
  have hmapped := hlist.map (by decide) id (written_imp himp)
  rwa [List.map_id] at hmapped

end

theorem document_given_iff {text : String} {members : List Assignment} :
    Document Given text members ↔
      (members.map Assignment.field).Nodup ∧ ObjectText Kind.Met text members ∨
        members.map Assignment.field <+: Field.all ∧ ListText Kind.Met text members := by
  constructor
  · rintro ⟨after, ⟨mid, hblanks, ⟨hnodup, hobject⟩ | ⟨hfields, hlist⟩⟩, hend⟩
    · exact .inl ⟨hnodup, after, ⟨mid, hblanks, hobject⟩, hend⟩
    · exact .inr ⟨hfields, after, ⟨mid, hblanks, hlist⟩, hend⟩
  · rintro (⟨hnodup, after, ⟨mid, hblanks, hobject⟩, hend⟩ |
      ⟨hfields, after, ⟨mid, hblanks, hlist⟩, hend⟩)
    · exact ⟨after, ⟨mid, hblanks, .inl ⟨hnodup, hobject⟩⟩, hend⟩
    · exact ⟨after, ⟨mid, hblanks, .inr ⟨hfields, hlist⟩⟩, hend⟩

theorem nodup_of_leading {fields : List Field} (h : fields <+: Field.all) : fields.Nodup :=
  h.sublist.nodup (by decide)

/-! ### Unique keys -/

theorem value_of_quoted {cs rest : List Char} {s : String} (h : Quoted cs s rest) (depth : Nat) :
    ValueWithin (depth + 1) cs () rest :=
  ⟨.text, s, h⟩

theorem value_of_word {word : String} {cs rest : List Char} (h : Word word cs () rest)
    (hword : word ∈ ["null", "true", "false"]) (depth : Nat) :
    ValueWithin (depth + 1) cs () rest :=
  ⟨.word, word, hword, h⟩

theorem value_of_numeral {cs rest : List Char} {n : Nat} (h : Numeral cs n rest) (depth : Nat) :
    ValueWithin (depth + 1) cs () rest := by
  obtain ⟨-, rfl⟩ := h
  have hwhole : Whole (Nat.toDigits 10 n) := by
    rcases Nat.eq_zero_or_pos n with rfl | hpos
    · exact .inl (Nat.toDigits_zero 10)
    · exact .inr ⟨⟨Nat.toDigits_ne_nil, fun d => Reader.isDigit_of_mem_toDigits⟩,
        Reader.head?_toDigits_ne_zero hpos⟩
  have hspelled : Number.Spelled ([] ++ Nat.toDigits 10 n ++ [] ++ []) :=
    .mk (List.mem_cons_self ..) hwhole (.inl rfl) (.inl rfl)
  simp only [List.nil_append, List.append_nil] at hspelled
  exact ⟨.number, _, hspelled, rfl⟩

theorem value_of_admitted {kind : Kind} {cs : List Char} {value : kind.Carrier} {rest : List Char}
    (h : kind.Admitted cs value rest) : ValueWithin 2 cs () rest := by
  cases kind with
  | path =>
    obtain ⟨text, -, hquoted⟩ := h
    exact value_of_quoted hquoted 1
  | text => exact value_of_quoted h 1
  | texts =>
    have hlist : Enclosed '[' ']' Quoted cs value rest := h
    have hvalues := hlist.map (by decide) (fun _ => ()) fun _ _ _ hquoted _ =>
      value_of_quoted hquoted 0
    exact ⟨.list, _, hvalues⟩
  | natural => exact value_of_numeral h 1
  | policy =>
    rcases h with hname | hobject
    · exact value_of_quoted hname 1
    · have hfields : Enclosed '\x7b' '\x7d' (Member id fun cs (_ : String) rest =>
          ValueWithin 1 cs () rest) cs [LogPolicy.name value] rest :=
        Enclosed.map hobject (by decide) LogPolicy.name fun _ _ _ hmember hclosed =>
          hmember.map hclosed LogPolicy.name rfl fun _ _ hnull _ =>
            value_of_word hnull (by decide) 0
      exact ⟨.object, _, hfields⟩
  | flag =>
    refine value_of_word h ?_ 1
    cases value <;> decide

/-- A text that gives values of any kind under these keys. -/
def AnyObject (text : String) (keys : List String) : Prop :=
  Document (Enclosed '\x7b' '\x7d' (Member id fun cs _ rest => Value cs rest)) text keys

theorem solid_value : Solid fun cs (_ : String) rest => Value cs rest where
  starts := fun ⟨depth, h⟩ => (solid_valueWithin depth).starts h
  shorter := fun ⟨depth, h⟩ => (solid_valueWithin depth).shorter h

theorem agree_written : Agree (Written Kind.Met) (fun cs (_ : String) rest => Value cs rest)
    (fun _ => ()) (fun _ => ()) := by
  rintro cs a rest _ rest' hmet hclosed ⟨depth, hvalue⟩ hclosed'
  exact agree_valueWithin 2 depth (value_of_admitted hmet.1) hclosed hvalue hclosed'

/-- An object has the keys that it is read with, and no others. -/
theorem keys_of_objectText {text : String} {members : List Assignment} {keys : List String}
    (h : ObjectText Kind.Met text members)
    (hkeys : AnyObject text keys) :
    members.map Assignment.key = keys := by
  obtain ⟨after, ⟨mid, hblanks, hobject⟩, -⟩ := h
  obtain ⟨after', ⟨mid', hblanks', hobject'⟩, -⟩ := hkeys
  have hwritten : Solid (Member Assignment.key (Written Kind.Met)) :=
    solid_member (solid_written Kind.solid_met)
  have hvalues : Solid (Member id fun cs (_ : String) rest => Value cs rest) :=
    solid_member solid_value
  obtain rfl := hblanks.unique hblanks' ((solid_enclosed (by decide) hwritten).fresh hobject)
    ((solid_enclosed (by decide) hvalues).fresh hobject')
  have hsame := (hobject.unique hwritten hvalues (by decide)
    (agree_member (solid_written Kind.solid_met) solid_value agree_written) hobject').1
  rw [hsame, List.map_id]

theorem nodup_keys {members : List Assignment} (h : (members.map Assignment.field).Nodup) :
    (members.map Assignment.key).Nodup := by
  have hkeys : members.map Assignment.key = (members.map Assignment.field).map Field.key := by
    rw [List.map_map]
    rfl
  rw [hkeys]
  exact h.map Field.key_injective

theorem not_object_of_list {α : Type} {item : List Char → α → List Char → Prop} {text : String}
    {members : List Assignment} {as : List α} (h : ListText Kind.Met text members) :
    ¬ Document (Enclosed '\x7b' '\x7d' item) text as := by
  rintro ⟨_, ⟨_, hblanks', ⟨-⟩⟩, -⟩
  obtain ⟨_, ⟨_, hblanks, ⟨-⟩⟩, -⟩ := h
  exact absurd (hblanks.next_unique hblanks' (by decide) (by decide)).1 (by decide)

/-! ### Every assignment can be written -/

/-- The values that an object can give: an integer has to fit into 64 bits, and a path has to be
named by a text. -/
def Kind.Fits : (kind : Kind) → kind.Carrier → Prop
  | .natural, (n : Nat) => n < 2 ^ 64
  | .path, (p : Path) => ∃ text, p = .ofText text
  | .text, _ | .texts, _ | .policy, _ | .flag, _ => True

theorem exists_hexDigit {value : Nat} (h : value < 16) : ∃ d, HexDigit d value := by
  have hlength : value < lowerDigits.length := h
  exact ⟨lowerDigits[value], .inl (List.getElem?_eq_getElem hlength)⟩

theorem exists_hex {unit : Nat} (h : unit < 0x10000) (rest : List Char) :
    ∃ cs, Hex cs unit rest := by
  obtain ⟨a, ha⟩ := @exists_hexDigit (unit / 0x1000) (by omega)
  obtain ⟨b, hb⟩ := @exists_hexDigit (unit / 0x100 % 0x10) (by omega)
  obtain ⟨c, hc⟩ := @exists_hexDigit (unit / 0x10 % 0x10) (by omega)
  obtain ⟨d, hd⟩ := @exists_hexDigit (unit % 0x10) (by omega)
  have hunit : ((unit / 0x1000 * 16 + unit / 0x100 % 0x10) * 16 + unit / 0x10 % 0x10) * 16 +
      unit % 0x10 = unit := by omega
  exact ⟨a :: b :: c :: d :: rest, hunit ▸ .four ha hb hc hd⟩

theorem exists_letter (c : Char) (rest : List Char) : ∃ cs, Letter cs c rest := by
  rcases Nat.lt_or_ge c.toNat 0x10000 with hunit | hbig
  · obtain ⟨cs, hhex⟩ := exists_hex hunit rest
    exact ⟨_, .unit hhex⟩
  · refine ⟨c :: rest, .plain ?_ ?_ (by omega)⟩
    · rintro rfl
      exact absurd hbig (by decide)
    · rintro rfl
      exact absurd hbig (by decide)

theorem exists_letters (s rest : List Char) : ∃ cs, Letters cs s rest := by
  induction s with
  | nil => exact ⟨_, .close⟩
  | cons c others ih =>
    obtain ⟨mid, hothers⟩ := ih
    obtain ⟨cs, hletter⟩ := exists_letter c mid
    exact ⟨cs, .letter hletter hothers⟩

theorem exists_quoted (s : String) (rest : List Char) : ∃ cs, Quoted cs s rest := by
  obtain ⟨cs, hletters⟩ := exists_letters s.toList rest
  exact ⟨_, .mk hletters⟩

theorem exists_items {α : Type} {item : List Char → α → List Char → Prop} {close : Char}
    {as : List α} (hitem : ∀ a ∈ as, ∀ rest, ∃ cs, item cs a rest) (first : Bool)
    (rest : List Char) : ∃ cs, Items item close first cs as rest := by
  induction as generalizing first with
  | nil => exact ⟨_, .close .none⟩
  | cons a others ih =>
    obtain ⟨more, hmore⟩ := ih (fun b hb => hitem b (List.mem_cons_of_mem _ hb)) false
    obtain ⟨mid, ha⟩ := hitem a (List.mem_cons_self ..) more
    cases first with
    | true => exact ⟨mid, .item (.first .none) ha hmore⟩
    | false => exact ⟨',' :: mid, .item (.comma .none .none) ha hmore⟩

theorem Kind.exists_spelled {kind : Kind} {value : kind.Carrier} (h : kind.Fits value)
    (rest : List Char) : ∃ cs, kind.Spelled cs value rest := by
  cases kind with
  | path =>
    obtain ⟨text, rfl⟩ := h
    obtain ⟨cs, hquoted⟩ := exists_quoted text rest
    exact ⟨cs, text, rfl, hquoted⟩
  | text => exact exists_quoted value rest
  | texts =>
    have hitems : ∃ cs, Items Quoted ']' true cs value rest :=
      exists_items (fun s _ => exists_quoted s) true rest
    obtain ⟨cs, hitems⟩ := hitems
    exact ⟨_, .mk hitems⟩
  | natural => exact ⟨_, h, rfl⟩
  | policy => exact exists_quoted (LogPolicy.name value) rest
  | flag => exact ⟨_, rfl⟩

theorem exists_objectText {members : List Assignment}
    (h : ∀ a ∈ members, a.field.kind.Fits a.value) :
    ∃ text, ObjectText Kind.Spelled text members := by
  have hmember : ∀ a ∈ members, ∀ rest, ∃ cs,
      Member Assignment.key (Written Kind.Spelled) cs a rest := by
    intro a ha rest
    obtain ⟨after, hvalue⟩ := Kind.exists_spelled (h a ha) rest
    obtain ⟨cs, hkey⟩ := exists_quoted a.key (':' :: after)
    exact ⟨cs, hkey, .none, after, .none, hvalue⟩
  obtain ⟨cs, hitems⟩ := @exists_items _ _ '\x7d' _ hmember true []
  refine ⟨String.ofList ('\x7b' :: cs), [], ⟨'\x7b' :: cs, ?_, .mk hitems⟩, .none⟩
  rw [String.toList_ofList]
  exact .none

/-! ### Reading -/

/-- Values for any fields can be written as an object. An object that gives each of them once, in
any order, spacing and spelling, is read as the configuration with these values and defaults for
its other fields. One that repeats a key or has an unknown key is refused, whatever its values. -/
theorem objects_read_exactly :
    (∀ members : List Assignment, (∀ a ∈ members, a.field.kind.Fits a.value) →
      ∃ text, ObjectText Kind.Spelled text members) ∧
    (∀ (members : List Assignment) (text : String), (members.map Assignment.field).Nodup →
      ObjectText Kind.Spelled text members → ∃ c, ofText text = .ok c ∧ Gives members c) ∧
    ∀ (keys : List String) (text : String),
      AnyObject text keys →
      (¬ keys.Nodup ∨ ∃ key ∈ keys, key ∉ Field.keys) →
        ∃ problem, ofText text = .error (.malformed inlineSource problem) := by
  refine ⟨fun members h => exists_objectText h, fun members text hnodup hobject => ?_,
    fun keys text hkeys hwrong => ?_⟩
  · have hmet : ObjectText Kind.Met text members := ObjectText.imp
      (fun _ _ _ _ hvalue hclosed => Kind.met_of_closed (Kind.admitted_of_spelled hvalue) hclosed)
      hobject
    have hgiven := document_given_iff.mpr (.inl ⟨hnodup, hmet⟩)
    exact ⟨_, ofText_eq_ok_iff.mpr ⟨members, rfl, hgiven⟩, gives_assign hnodup⟩
  · refine ofText_eq_error_iff.mpr fun c hok => ?_
    obtain ⟨members, -, hgiven⟩ := ofText_eq_ok_iff.mp hok
    rcases document_given_iff.mp hgiven with ⟨hnodup, hobject⟩ | ⟨-, hlist⟩
    · -- Had it been read, its keys would be those of pairwise different fields.
      obtain rfl := keys_of_objectText hobject hkeys
      rcases hwrong with hrepeated | ⟨key, hkey, hunknown⟩
      · exact hrepeated (nodup_keys hnodup)
      · obtain ⟨a, -, rfl⟩ := List.mem_map.mp hkey
        exact hunknown (List.mem_map_of_mem (Field.mem_all a.field))
    · exact not_object_of_list hlist hkeys

def escapedAssignments : List Assignment :=
  [⟨.root, Path.ofText "/𝄞"⟩, ⟨.logPolicy, LogPolicy.strict⟩,
   ⟨.testTimeoutSecs, (18446744073709551615 : Nat)⟩]

def escapedText : String :=
  "\x7b \"r\\u006fot\" : \"\\/\\ud834\\uDD1E\",\n\"logPolicy\":\"strict\"," ++
    "\"testTimeoutSecs\":18446744073709551615\x7d"

theorem objectText_escaped : ObjectText Kind.Spelled escapedText escapedAssignments := by
  have hplain : ∀ (s : String) rest, s.toList.all needsNone →
      Quoted ('"' :: (s.toList ++ '"' :: rest)) s rest := fun s rest hs => .mk (letters_plain hs)
  have hspace : ∀ {cs}, Blanks (' ' :: cs) cs := .some (by decide) .none
  let limit := "\"testTimeoutSecs\":18446744073709551615\x7d".toList
  have hlimit : Member Assignment.key (Written Kind.Spelled) limit
      ⟨.testTimeoutSecs, (18446744073709551615 : Nat)⟩ ['\x7d'] :=
    .mk (hplain "testTimeoutSecs" _ (by decide)) .none ⟨_, .none, by decide, by decide⟩
  let policy := "\"logPolicy\":\"strict\"".toList ++ ',' :: limit
  have hpolicy : Member Assignment.key (Written Kind.Spelled) policy
      ⟨.logPolicy, LogPolicy.strict⟩ (',' :: limit) :=
    .mk (hplain "logPolicy" _ (by decide)) .none ⟨_, .none, hplain "strict" _ (by decide)⟩
  let path := "\"\\/\\ud834\\uDD1E\"".toList ++ ',' :: '\n' :: policy
  have hpath : Quoted path "/𝄞" (',' :: '\n' :: policy) :=
    .mk (.letter (.short (by decide)) (.letter (.pair (by decide)
      ((hexValue?_eq_some_iff _).mp (by decide)) ((hexValue?_eq_some_iff _).mp (by decide)))
        .close))
  let root := "\"r\\u006fot\"".toList ++ ' ' :: ':' :: ' ' :: path
  have hname : Quoted root "root" (' ' :: ':' :: ' ' :: path) :=
    .mk (.letter (.plain (by decide) (by decide) (by decide)) (.letter
      (.unit ((hexValue?_eq_some_iff _).mp (by decide)))
        (@letters_plain ['o', 't'] _ (by decide))))
  have hroot : Member Assignment.key (Written Kind.Spelled) root ⟨.root, Path.ofText "/𝄞"⟩
      (',' :: '\n' :: policy) := .mk hname hspace ⟨_, hspace, _, rfl, hpath⟩
  have htext : escapedText.toList = '\x7b' :: ' ' :: root := by decide
  exact ⟨[], ⟨_, htext ▸ .none, .mk (.item (.first hspace) hroot
    (.item (.comma .none (.some (by decide) .none)) hpolicy
      (.item (.comma .none .none) hlimit (.close .none))))⟩, .none⟩

/-- An object that gives a field twice. -/
def repeatedText : String :=
  "\x7b\"root\":null,\"root\":[]\x7d"

theorem anyObject_repeated : AnyObject repeatedText ["root", "root"] := by
  have hroot : ∀ rest, Quoted ("\"root\"".toList ++ rest) "root" rest :=
    fun rest => .mk (@letters_plain "root".toList rest (by decide))
  have hlist : Value "[]\x7d".toList ['\x7d'] := ⟨1, .list, [], .mk (.close .none)⟩
  let second := "\"root\":[]\x7d".toList
  have hsecond : Member id (fun cs (_ : String) rest => Value cs rest) second "root" ['\x7d'] :=
    .mk (hroot _) .none ⟨_, .none, hlist⟩
  have hnull : Value ("null".toList ++ ',' :: second) (',' :: second) :=
    ⟨1, @value_of_word "null" _ _ rfl (by decide) 0⟩
  let first := "\"root\":null".toList ++ ',' :: second
  have hfirst : Member id (fun cs (_ : String) rest => Value cs rest) first "root"
      (',' :: second) := .mk (hroot _) .none ⟨_, .none, hnull⟩
  have htwice : repeatedText.toList = '\x7b' :: first := by decide
  exact ⟨[], ⟨_, htwice ▸ .none, .mk (.item (.first .none) hfirst
    (.item (.comma .none .none) hsecond (.close .none)))⟩, .none⟩

/-- An escaped key, a pair of UTF-16 units, the largest integer and blank characters are read; a key
that is given twice is not. -/
theorem escaped_object_read :
    (∀ a ∈ escapedAssignments, a.field.kind.Fits a.value) ∧
      (escapedAssignments.map Assignment.field).Nodup ∧
        ObjectText Kind.Spelled escapedText escapedAssignments ∧
          (∃ text, ObjectText Kind.Spelled text escapedAssignments) ∧
            (∃ c, ofText escapedText = .ok c ∧ Gives escapedAssignments c) ∧
              ∃ problem, ofText repeatedText = .error (.malformed inlineSource problem) := by
  have hfits : ∀ a ∈ escapedAssignments, a.field.kind.Fits a.value := by
    simp [escapedAssignments, Field.kind, Kind.Fits]
  have hnodup : (escapedAssignments.map Assignment.field).Nodup := by decide
  have hrepeated : ¬ ["root", "root"].Nodup := by decide
  exact ⟨hfits, hnodup, objectText_escaped, objects_read_exactly.1 _ hfits,
    objects_read_exactly.2.1 _ _ hnodup objectText_escaped,
    objects_read_exactly.2.2 _ _ anyObject_repeated (.inl hrepeated)⟩

/-- What is read is an object that gives some fields, each once, or a list with the values of the
first fields; the configuration has these values and defaults for its other fields. -/
theorem accepted_texts {text : String} {c : Config} : ofText text = .ok c ↔
    ∃ members, Gives members c ∧
      ((members.map Assignment.field).Nodup ∧ ObjectText Kind.Admitted text members ∨
        members.map Assignment.field <+: Field.all ∧ ListText Kind.Admitted text members) := by
  rw [ofText_eq_ok_iff]
  constructor
  · rintro ⟨members, rfl, hgiven⟩
    have hadmitted : ∀ ⦃kind : Kind⦄ ⦃cs : List Char⦄ ⦃value : kind.Carrier⦄ ⦃rest : List Char⦄,
        kind.Met cs value rest → Closed rest → kind.Admitted cs value rest := fun _ _ _ _ h _ => h.1
    rcases document_given_iff.mp hgiven with ⟨hnodup, hobject⟩ | ⟨hfields, hlist⟩
    · exact ⟨members, gives_assign hnodup, .inl ⟨hnodup, hobject.imp hadmitted⟩⟩
    · exact ⟨members, gives_assign (nodup_of_leading hfields), .inr ⟨hfields, hlist.imp hadmitted⟩⟩
  · rintro ⟨members, hgives, ⟨hnodup, hobject⟩ | ⟨hfields, hlist⟩⟩
    · have hmet := hobject.imp fun _ _ _ _ h hclosed => Kind.met_of_closed h hclosed
      exact ⟨members, eq_assign_of_gives hgives hnodup,
        document_given_iff.mpr (.inl ⟨hnodup, hmet⟩)⟩
    · have hmet := hlist.imp fun _ _ _ _ h hclosed => Kind.met_of_closed h hclosed
      exact ⟨members, eq_assign_of_gives hgives (nodup_of_leading hfields),
        document_given_iff.mpr (.inr ⟨hfields, hmet⟩)⟩

/-- A value reaches a field without its key, and a policy need not be a text. -/
theorem unkeyed_values_accepted :
    ofText "[\"/srv\"]" = .ok { root := ⟨"/srv"⟩ } ∧
      (∀ members, ¬ ObjectText Kind.Admitted "[\"/srv\"]" members) ∧
        ofText "\x7b\"logPolicy\":\x7b\"strict\":null\x7d\x7d" = .ok { logPolicy := .strict } ∧
          ∀ members, ¬ ObjectText Kind.Spelled "\x7b\"logPolicy\":\x7b\"strict\":null\x7d\x7d"
            members := by
  refine ⟨by decide +kernel, ?_, by decide +kernel, ?_⟩
  · rintro members ⟨_, ⟨_, hblanks, ⟨-⟩⟩, -⟩
    have hbrace := hblanks.next_unique (d := '[') .none (by decide) (by decide)
    exact absurd hbrace.1 (by decide)
  · rintro members ⟨_, ⟨_, hblanks, ⟨hitems⟩⟩, -⟩
    let value := "\x7b\"strict\":null\x7d\x7d".toList
    let body := "\"logPolicy\":".toList ++ value
    have hkey : Quoted body "logPolicy" (':' :: value) :=
      .mk (@letters_plain "logPolicy".toList _ (by decide))
    have hbrace := hblanks.next_unique (d := '\x7b') .none (by decide) (by decide)
    obtain rfl : _ = body := hbrace.2
    cases hitems with
    | close hblanks =>
      have hquote := hblanks.next_unique (d := '"') .none (by decide) (by decide)
      exact absurd hquote.1 (by decide)
    | @item _ _ _ a _ _ _ hlead hmember _ =>
      cases hlead with
      | first hblanks =>
        obtain ⟨hname, hcolon, _, hspace, hvalue⟩ := hmember
        obtain rfl := hblanks.unique .none (solid_quoted.fresh hname) (solid_quoted.fresh hkey)
        obtain ⟨hfield, rfl⟩ := hname.unique hkey
        obtain ⟨-, rfl⟩ := hcolon.next_unique .none (by decide) (by decide)
        obtain ⟨field, policy⟩ := a
        obtain rfl : field = .logPolicy := Field.key_injective hfield
        obtain ⟨more, rfl, -⟩ := quoted_iff.mp (show Quoted _ (LogPolicy.name policy) _ from hvalue)
        have hbrace := hspace.next_unique (d := '\x7b') .none (by decide) (by decide)
        exact absurd hbrace.1 (by decide)

end GoldenSuite.Config
