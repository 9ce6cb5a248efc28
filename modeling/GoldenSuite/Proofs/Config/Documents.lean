import GoldenSuite.Proofs.Config.Spelled

/-!
# Texts of configurations

`ofText_eq_ok_iff` says which texts are read as which configurations: objects that give some fields,
each once and under its key, and lists that give the first fields without their keys.
-/

namespace GoldenSuite.Config

open Json

/-- How the value of an assignment stands in a text, for a way to write the values of each kind. -/
def Written (value : (kind : Kind) → List Char → kind.Carrier → List Char → Prop) (cs : List Char)
    (a : Assignment) (rest : List Char) : Prop :=
  value a.field.kind cs a.value rest

theorem Kind.solid_met (kind : Kind) : Solid kind.Met where
  starts h := kind.solid_admitted.starts h.1
  shorter h := kind.solid_admitted.shorter h.1

theorem solid_written {value : (kind : Kind) → List Char → kind.Carrier → List Char → Prop}
    (h : ∀ kind, Solid (value kind)) : Solid (Written value) where
  starts {_ a _} ha := (h a.field.kind).starts ha
  shorter {_ a _} ha := (h a.field.kind).shorter ha

/-- Fields that have not been seen, each once. -/
def Unseen (seen : List Field) (members : List Assignment) : Prop :=
  (members.map Assignment.field).Nodup ∧ ∀ a ∈ members, a.field ∉ seen

theorem unseen_cons_iff {seen : List Field} {a : Assignment} {members : List Assignment} :
    Unseen seen (a :: members) ↔ a.field ∉ seen ∧ Unseen (a.field :: seen) members := by
  simp only [Unseen, List.map_cons, List.nodup_cons, List.mem_map, List.mem_cons, forall_eq_or_imp,
    not_or, not_exists, not_and]
  constructor
  · rintro ⟨⟨hne, hnodup⟩, ha, hmembers⟩
    exact ⟨ha, hnodup, fun b hb => ⟨hne b hb, hmembers b hb⟩⟩
  · rintro ⟨ha, hnodup, hmembers⟩
    exact ⟨⟨fun b hb => (hmembers b hb).1, hnodup⟩, ha, fun b hb => (hmembers b hb).2⟩

/-- Closes an object that gave a configuration. -/
def closeObject (c : Config) : Reader Config := do
  Reader.endOfObject
  pure c

theorem accepts_closeObject (c : Config) : (closeObject c).Accepts fun cs d rest =>
    d = c ∧ Blanks cs ('\x7d' :: rest) := by
  refine (Reader.accepts_endOfObject.bind fun _ => Reader.accepts_pure c).congr fun cs d rest => ?_
  constructor
  · rintro ⟨_, mid, hblanks, rfl, rfl⟩
    exact ⟨rfl, hblanks⟩
  · rintro ⟨rfl, hblanks⟩
    exact ⟨(), rest, hblanks, rfl, rfl⟩

/-- Reads on after the name of a field. -/
def readNamed (c : Config) (seen : List Field) (most : Nat) (key : String) : Reader Config :=
  match Field.ofKey? key with
  | none => Reader.failAfterName (.unknownField key Field.keys)
  | some field =>
    if field ∈ seen then Reader.failAfterName (.repeatedField key)
    else do
      Reader.colon
      readFields (← readValue c field) (field :: seen) most

theorem readFields_succ (c : Config) (seen : List Field) (most : Nat) :
    readFields c seen (most + 1) = Reader.anotherField seen.isEmpty >>= fun more =>
      if more then Reader.fieldName >>= readNamed c seen most else pure c := rfl

/-- The fields that an object gives from here on, and its closing bracket. -/
def Fields (c : Config) (seen : List Field) (most : Nat) (cs : List Char) (d : Config)
    (rest : List Char) : Prop :=
  ∃ members, d = c.assign members ∧ Unseen seen members ∧ members.length ≤ most ∧
    Items (Member Assignment.key (Written Kind.Met)) '\x7d' seen.isEmpty cs members rest

theorem accepts_readNamed {c : Config} {seen : List Field} {most : Nat}
    (hmore : ∀ d seen, (readFields d seen most >>= closeObject).Accepts (Fields d seen most))
    (key : String) : (readNamed c seen most key >>= closeObject).Accepts fun cs d rest =>
      ∃ field value after more, field.key = key ∧ field ∉ seen ∧ Blanks cs (':' :: after) ∧
        Spaced field.kind.Met after value more ∧
          Fields (c.withValue field value) (field :: seen) most more d rest := by
  unfold readNamed
  split
  · next hnone =>
    refine ((Reader.stops_failAfterName _).bind _).congr fun cs d rest => iff_of_false id ?_
    rintro ⟨field, _, _, _, rfl, -⟩
    simp [Field.ofKey?_key] at hnone
  · next field hfield =>
    have hname := Field.key_of_ofKey? hfield
    have hunique : ∀ other : Field, other.key = key → other = field := by
      rintro other rfl
      rw [Field.ofKey?_key] at hfield
      exact Option.some.inj hfield
    -- The key tells the field, so no other field can be meant.
    by_cases hseen : field ∈ seen
    · rw [if_pos hseen]
      refine ((Reader.stops_failAfterName _).bind _).congr fun cs d rest => iff_of_false id ?_
      rintro ⟨other, _, _, _, hother, hunseen, -⟩
      exact hunseen (hunique other hother ▸ hseen)
    · rw [if_neg hseen]
      simp only [bind_assoc]
      have hbody := (accepts_readValue c field).bind fun d => hmore d (field :: seen)
      refine (Reader.accepts_colon.bind fun _ => hbody).congr fun cs d rest => ?_
      constructor
      · rintro ⟨_, after, hcolon, _, more, ⟨value, hvalue, rfl⟩, hfields⟩
        exact ⟨field, value, after, more, hname, hseen, hcolon, hvalue, hfields⟩
      · rintro ⟨other, value, after, more, hother, -, hcolon, hvalue, hfields⟩
        obtain rfl := hunique other hother
        exact ⟨(), after, hcolon, _, more, ⟨value, hvalue, rfl⟩, hfields⟩

/-- Where a field stands, the fields from there on are that field and the fields behind it. -/
theorem fields_succ_iff {c d : Config} {seen : List Field} {most : Nat} {cs rest : List Char} :
    Fields c seen (most + 1) cs d rest ↔ d = c ∧ Blanks cs ('\x7d' :: rest) ∨
      ∃ field value mid named after more, Lead seen.isEmpty cs mid ∧ Quoted mid field.key named ∧
        field ∉ seen ∧ Blanks named (':' :: after) ∧ Spaced field.kind.Met after value more ∧
          Fields (c.withValue field value) (field :: seen) most more d rest := by
  constructor
  · rintro ⟨members, rfl, hunseen, hlength, hitems⟩
    cases hitems with
    | close hblanks => exact .inl ⟨rfl, hblanks⟩
    | @item _ _ _ a _ members _ hlead hmember hmore =>
      obtain ⟨hkey, hcolon, hvalue⟩ := hmember
      obtain ⟨hfield, hunseen⟩ := unseen_cons_iff.mp hunseen
      exact .inr ⟨a.field, a.value, _, _, _, _, hlead, hkey, hfield, hcolon, hvalue,
        members, rfl, hunseen, Nat.le_of_succ_le_succ hlength, hmore⟩
  · rintro (⟨rfl, hblanks⟩ | ⟨field, value, mid, named, after, more, hlead, hkey, hfield, hcolon,
      hvalue, members, rfl, hunseen, hlength, hmore⟩)
    · exact ⟨[], rfl, ⟨List.nodup_nil, nofun⟩, Nat.zero_le _, .close hblanks⟩
    · let a : Assignment := ⟨field, value⟩
      have hmember : Member Assignment.key (Written Kind.Met) mid a more := .mk hkey hcolon hvalue
      exact ⟨a :: members, rfl, unseen_cons_iff.mpr ⟨hfield, hunseen⟩, Nat.succ_le_succ hlength,
        .item hlead hmember hmore⟩

/-- The fields of an object and its closing bracket. -/
theorem accepts_readFields (c : Config) (seen : List Field) (most : Nat) :
    (readFields c seen most >>= closeObject).Accepts (Fields c seen most) := by
  induction most generalizing c seen with
  | zero =>
    have hread : readFields c seen 0 = pure c := rfl
    rw [hread, pure_bind]
    refine (accepts_closeObject c).congr fun cs d rest => ?_
    constructor
    · rintro ⟨rfl, hblanks⟩
      exact ⟨[], rfl, ⟨List.nodup_nil, nofun⟩, Nat.zero_le _, .close hblanks⟩
    · rintro ⟨members, rfl, -, hlength, hitems⟩
      obtain rfl := List.length_eq_zero_iff.mp (Nat.le_zero.mp hlength)
      exact ⟨rfl, items_nil_iff.mp hitems⟩
  | succ most ih =>
    have hread : (readFields c seen (most + 1) >>= closeObject) =
        (Reader.anotherField seen.isEmpty >>= fun more =>
          if more then Reader.fieldName >>= fun key => readNamed c seen most key >>= closeObject
          else closeObject c) := by
      rw [readFields_succ, bind_assoc]
      congr 1
      funext more
      cases more <;> simp
    rw [hread]
    refine (Reader.accepts_nextField (fun key => accepts_readNamed ih key) (accepts_closeObject c)
      seen.isEmpty).congr fun cs d rest => ?_
    rw [fields_succ_iff]
    refine or_congr_right ?_
    constructor
    · rintro ⟨mid, _, named, hlead, hkey, field, value, after, more, rfl, hrest⟩
      exact ⟨field, value, mid, named, after, more, hlead, hkey, hrest⟩
    · rintro ⟨field, value, mid, named, after, more, hlead, hkey, hrest⟩
      exact ⟨mid, _, named, hlead, hkey, field, value, after, more, rfl, hrest⟩

/-! ### Lists -/

/-- Closes a list that gave a configuration. -/
def closeList (c : Config) : Reader Config := do
  Reader.endOfList
  pure c

theorem accepts_closeList (c : Config) : (closeList c).Accepts fun cs d rest =>
    d = c ∧ Blanks cs (']' :: rest) := by
  refine (Reader.accepts_endOfList.bind fun _ => Reader.accepts_pure c).congr fun cs d rest => ?_
  constructor
  · rintro ⟨_, mid, hblanks, rfl, rfl⟩
    exact ⟨rfl, hblanks⟩
  · rintro ⟨rfl, hblanks⟩
    exact ⟨(), rest, hblanks, rfl, rfl⟩

/-- The values that a list gives from here on, and its closing bracket. -/
def Elements (c : Config) (first : Bool) (fields : List Field) (cs : List Char) (d : Config)
    (rest : List Char) : Prop :=
  ∃ members, d = c.assign members ∧ members.map Assignment.field <+: fields ∧
    Items (Written Kind.Met) ']' first cs members rest

theorem elements_cons_iff {c d : Config} {first : Bool} {field : Field} {others : List Field}
    {cs rest : List Char} : Elements c first (field :: others) cs d rest ↔
      d = c ∧ Blanks cs (']' :: rest) ∨ ∃ value mid more, Lead first cs mid ∧
        field.kind.Met mid value more ∧
          Elements (c.withValue field value) false others more d rest := by
  constructor
  · rintro ⟨members, rfl, hfields, hitems⟩
    cases hitems with
    | close hblanks => exact .inl ⟨rfl, hblanks⟩
    | @item _ _ _ a _ members _ hlead hvalue hmore =>
      obtain ⟨rfl, hothers⟩ := List.cons_prefix_cons.mp hfields
      exact .inr ⟨a.value, _, _, hlead, hvalue, members, rfl, hothers, hmore⟩
  · rintro (⟨rfl, hblanks⟩ | ⟨value, mid, more, hlead, hvalue, members, rfl, hfields, hmore⟩)
    · exact ⟨[], rfl, List.nil_prefix, .close hblanks⟩
    · let a : Assignment := ⟨field, value⟩
      have hwritten : Written Kind.Met mid a more := hvalue
      exact ⟨a :: members, rfl, List.cons_prefix_cons.mpr ⟨rfl, hfields⟩,
        .item hlead hwritten hmore⟩

theorem accepts_readElements (c : Config) (first : Bool) (fields : List Field) :
    (readElements c first fields >>= closeList).Accepts (Elements c first fields) := by
  induction fields generalizing c first with
  | nil =>
    have hread : readElements c first [] = pure c := rfl
    rw [hread, pure_bind]
    refine (accepts_closeList c).congr fun cs d rest => ?_
    constructor
    · rintro ⟨rfl, hblanks⟩
      exact ⟨[], rfl, List.nil_prefix, .close hblanks⟩
    · rintro ⟨members, rfl, hfields, hitems⟩
      obtain rfl := List.map_eq_nil_iff.mp (List.prefix_nil.mp hfields)
      exact ⟨rfl, items_nil_iff.mp hitems⟩
  | cons field others ih =>
    have hread : (readElements c first (field :: others) >>= closeList) =
        (Reader.anotherElement first >>= fun more =>
          if more then field.kind.read >>= fun value =>
            readElements (c.withValue field value) false others >>= closeList
          else closeList c) := by
      show ((Reader.anotherElement first >>= fun more => _) >>= closeList) = _
      rw [bind_assoc]
      congr 1
      funext more
      cases more <;> simp [readValue_eq]
    rw [hread]
    refine (Reader.accepts_nextElement (accepts_read field.kind) field.kind.solid_met
      (fun value => ih (c.withValue field value) false) (accepts_closeList c) first).congr
        fun cs d rest => ?_
    rw [elements_cons_iff]
    refine or_congr_right ?_
    constructor
    · rintro ⟨mid, value, more, hlead, hvalue, helements⟩
      exact ⟨value, mid, more, hlead, hvalue, helements⟩
    · rintro ⟨value, mid, more, hlead, hvalue, helements⟩
      exact ⟨mid, value, more, hlead, hvalue, helements⟩

/-! ### Whole texts -/

/-- What is read as a configuration: an object that gives fields by their keys, or a list that gives
the first fields. -/
def Given (cs : List Char) (members : List Assignment) (rest : List Char) : Prop :=
  (members.map Assignment.field).Nodup ∧
      Enclosed '\x7b' '\x7d' (Member Assignment.key (Written Kind.Met)) cs members rest ∨
    members.map Assignment.field <+: Field.all ∧ Enclosed '[' ']' (Written Kind.Met) cs members rest

theorem accepts_objectBody : (do
    let c ← readFields {} [] ((← get).rest.length + 1)
    Reader.endOfObject
    pure c : Reader Config).Accepts fun cs c rest => ∃ members, c = ({} : Config).assign members ∧
      (members.map Assignment.field).Nodup ∧
        Items (Member Assignment.key (Written Kind.Met)) '\x7d' true cs members rest := by
  intro c d rest
  -- An object has fewer fields than characters, so the bound leaves none of them out.
  refine (accepts_readFields {} [] (c.rest.length + 1) c d rest).trans ?_
  refine exists_congr fun members => and_congr_right fun _ => ?_
  constructor
  · rintro ⟨⟨hnodup, -⟩, -, hitems⟩
    exact ⟨hnodup, hitems⟩
  · rintro ⟨hnodup, hitems⟩
    have := hitems.length_lt (solid_member (solid_written Kind.solid_met))
    exact ⟨⟨hnodup, fun a _ => List.not_mem_nil⟩, by omega, hitems⟩

theorem accepts_readConfig : readConfig.Accepts fun cs c rest =>
    ∃ members, c = ({} : Config).assign members ∧ Spaced Given cs members rest := by
  unfold readConfig
  extract_lets start
  refine (@Reader.accepts_token _ _ (fun next cs c rest => ∃ members,
    c = ({} : Config).assign members ∧
      (next = some '[' ∧ members.map Assignment.field <+: Field.all ∧
          Items (Written Kind.Met) ']' true cs.tail members rest ∨
        next = some '\x7b' ∧ (members.map Assignment.field).Nodup ∧
          Items (Member Assignment.key (Written Kind.Met)) '\x7d' true cs.tail members rest))
    fun next => ?_).congr fun cs c rest => ?_
  · split
    · refine (accepts_readElements start true Field.all).advance.congr fun cs c rest => ?_
      simp [Elements, start]
    · refine accepts_objectBody.advance.congr fun cs c rest => ?_
      simp
    · next hlist hobject =>
      refine (Reader.stops_mismatch _).congr fun cs c rest => iff_of_false id ?_
      rintro ⟨members, -, ⟨hnext, -⟩ | ⟨hnext, -⟩⟩
      · exact hlist hnext
      · exact hobject hnext
  · constructor
    · rintro ⟨mid, hblanks, -, members, rfl, ⟨hhead, hfields, hitems⟩ | ⟨hhead, hnodup, hitems⟩⟩
      · obtain ⟨more, rfl⟩ := List.head?_eq_some_iff.mp hhead
        exact ⟨members, rfl, _, hblanks, .inr ⟨hfields, .mk hitems⟩⟩
      · obtain ⟨more, rfl⟩ := List.head?_eq_some_iff.mp hhead
        exact ⟨members, rfl, _, hblanks, .inl ⟨hnodup, .mk hitems⟩⟩
    · rintro ⟨members, rfl, _, hblanks, ⟨hnodup, ⟨hitems⟩⟩ | ⟨hfields, ⟨hitems⟩⟩⟩
      · exact ⟨_, hblanks, fresh_cons (by decide), members, rfl, .inr ⟨rfl, hnodup, hitems⟩⟩
      · exact ⟨_, hblanks, fresh_cons (by decide), members, rfl, .inl ⟨rfl, hfields, hitems⟩⟩

/-- Reads a configuration and nothing else. -/
def readWhole : Reader Config := do
  let c ← readConfig
  Reader.endOfText
  pure c

theorem accepts_readWhole : readWhole.Accepts fun cs c rest => ∃ members after,
    c = ({} : Config).assign members ∧ Spaced Given cs members after ∧ Blanks after [] ∧
      rest = [] := by
  refine (accepts_readConfig.bind fun c => Reader.accepts_endOfText.bind fun _ =>
    Reader.accepts_pure c).congr fun cs c rest => ?_
  constructor
  · rintro ⟨_, after, ⟨members, rfl, hgiven⟩, _, _, ⟨hend, rfl⟩, rfl, rfl⟩
    exact ⟨members, after, rfl, hgiven, hend, rfl⟩
  · rintro ⟨members, after, rfl, hgiven, hend, rfl⟩
    exact ⟨_, after, ⟨members, rfl, hgiven⟩, (), [], ⟨hend, rfl⟩, rfl, rfl⟩

theorem ofText_eq (text : String) : ofText text = match readWhole (Cursor.ofText text) with
    | .ok (c, _) => .ok c
    | .error problem => .error (.malformed inlineSource problem) := rfl

theorem ofText_eq_ok_iff {text : String} {c : Config} : ofText text = .ok c ↔
    ∃ members, c = ({} : Config).assign members ∧ Document Given text members := by
  have hyields : ofText text = .ok c ↔ ∃ rest, readWhole.Yields (Cursor.ofText text) c rest := by
    rw [ofText_eq]
    cases hwhole : readWhole (Cursor.ofText text) with
    | ok answer => simp [Reader.Yields, hwhole, Prod.ext_iff]
    | error problem => simp [Reader.Yields, hwhole]
  rw [hyields]
  constructor
  · rintro ⟨rest, hread⟩
    obtain ⟨members, after, rfl, hgiven, hend, -⟩ := (accepts_readWhole _ c rest).mp hread
    exact ⟨members, rfl, after, hgiven, hend⟩
  · rintro ⟨members, rfl, after, hgiven, hend⟩
    exact ⟨[], (accepts_readWhole _ _ []).mpr ⟨members, after, rfl, hgiven, hend, rfl⟩⟩

/-- A text that is no configuration is a malformed one. -/
theorem ofText_eq_error_iff {text : String} :
    (∃ problem, ofText text = .error (.malformed inlineSource problem)) ↔
      ∀ c, ofText text ≠ .ok c := by
  rw [ofText_eq]
  cases readWhole (Cursor.ofText text) with
  | ok answer => simp
  | error problem => simp

end GoldenSuite.Config
