import GoldenSuite.Glob.Matching
import GoldenSuite.Proofs.Text.Bytewise
import Mathlib.Computability.Language

/-!
# The language of a pattern

What a pattern stands for can be read off its tokens: each is a set of byte strings, and tokens in
a row are put together. Bytes are accepted exactly when they are among those of the pattern, so the
matching from the end neither misses a way to split them nor invents one.
-/

namespace GoldenSuite.Glob

open Text

variable {P Q : Language UInt8} {subject rest : Bytes} {after other : Outlook} {byte : UInt8}

/-! ### Languages -/

/-- The strings of one byte that passes a test. -/
def oneByte (test : UInt8 → Bool) : Language UInt8 :=
  {bytes | ∃ byte, test byte = true ∧ bytes = [byte]}

mutual

/-- The byte strings that tokens in a row stand for. -/
def language : List Token → Language UInt8
  | [] => 1
  | t :: rest => tokenLanguage t * language rest

/-- The byte strings that a token stands for. -/
def tokenLanguage : Token → Language UInt8
  | .literal c => {encode (String.singleton c)}
  | .any => oneByte fun _ => true
  | .gap => ⊤
  | .leadingDirectories => 1 + ⊤ * {[separator]}
  | .trailingDirectories => {[separator]} * ⊤
  | .innerDirectories => {[separator]} * (1 + ⊤ * {[separator]})
  | .oneOf negated ranges => oneByte (classHas negated ranges)
  | .alternatives branches => if areVoid branches then 1 else branchesLanguage branches

/-- The byte strings that stand for one of the branches which are not dropped. -/
def branchesLanguage : List (List Token) → Language UInt8
  | [] => 0
  | branch :: rest =>
    if isVoid branch then branchesLanguage rest else language branch + branchesLanguage rest

end

/-- The byte strings that a pattern stands for. -/
def Pattern.language (p : Pattern) : Language UInt8 :=
  match p.tokens with
  | [.leadingDirectories] => ⊤
  | tokens => Glob.language tokens

theorem oneByte_beq (byte : UInt8) : oneByte (· == byte) = {[byte]} := by
  ext bytes
  constructor
  · rintro ⟨b, hb, rfl⟩
    rw [eq_of_beq hb]
    exact rfl
  · intro h
    exact ⟨byte, beq_self_eq_true byte, h⟩

theorem singleton_mul_singleton (a b : Bytes) : ({a} * {b} : Language UInt8) = {a ++ b} := by
  rw [Language.mul_def]
  exact Set.image2_singleton

theorem nil_not_mem_oneByte_mul {test : UInt8 → Bool} : [] ∉ oneByte test * P := by
  rw [Language.mem_mul]
  rintro ⟨_, ⟨b, -, rfl⟩, _, -, hnil⟩
  cases hnil

theorem cons_mem_oneByte_mul {test : UInt8 → Bool} :
    byte :: rest ∈ oneByte test * P ↔ test byte = true ∧ rest ∈ P := by
  rw [Language.mem_mul]
  constructor
  · rintro ⟨_, ⟨b, hb, rfl⟩, bytes, hbytes, heq⟩
    obtain ⟨rfl, rfl⟩ := List.cons.inj heq
    exact ⟨hb, hbytes⟩
  · rintro ⟨htest, hrest⟩
    exact ⟨[byte], ⟨byte, htest, rfl⟩, rest, hrest, rfl⟩

theorem mem_top_mul_iff {bytes : Bytes} :
    bytes ∈ ⊤ * P ↔ ∃ ending, ending <:+ bytes ∧ ending ∈ P := by
  rw [Language.mem_mul]
  constructor
  · rintro ⟨before, -, ending, hending, rfl⟩
    exact ⟨ending, List.suffix_append _ _, hending⟩
  · rintro ⟨ending, ⟨before, rfl⟩, hending⟩
    exact ⟨before, trivial, ending, hending, rfl⟩

theorem cons_mem_top_mul : byte :: rest ∈ ⊤ * P ↔ byte :: rest ∈ P ∨ rest ∈ ⊤ * P := by
  simp only [mem_top_mul_iff, List.suffix_cons_iff]
  constructor
  · rintro ⟨ending, rfl | hsuffix, hending⟩
    · exact .inl hending
    · exact .inr ⟨ending, hsuffix, hending⟩
  · rintro (hall | ⟨ending, hsuffix, hending⟩)
    · exact ⟨_, .inl rfl, hall⟩
    · exact ⟨ending, .inr hsuffix, hending⟩

/-! ### Outlooks -/

namespace Outlook

/-- An outlook tells for every suffix of a subject whether it belongs to a language. -/
inductive Tells (P : Language UInt8) : Bytes → Outlook → Prop
  | nil {accepted : Bool} : (accepted = true ↔ [] ∈ P) → Tells P [] [accepted]
  | cons {byte : UInt8} {rest : Bytes} {accepted : Bool} {later : Outlook} :
    (accepted = true ↔ byte :: rest ∈ P) → Tells P rest later →
    Tells P (byte :: rest) (accepted :: later)

theorem Tells.head (h : Tells P subject after) : after.head?.getD false = true ↔ subject ∈ P := by
  cases h with
  | nil haccepted => exact haccepted
  | cons haccepted _ => exact haccepted

theorem tells_atEnd (subject : Bytes) : Tells 1 subject (atEnd subject) := by
  induction subject with
  | nil => exact .nil (by simp)
  | cons byte rest ih => exact .cons (by simp [Language.mem_one]) ih

theorem Tells.afterByte (h : Tells P subject after) (test : UInt8 → Bool) :
    Tells (oneByte test * P) subject (Outlook.afterByte test subject after) := by
  induction h with
  | nil _ => exact .nil (by simp [nil_not_mem_oneByte_mul])
  | cons _ hlater ih =>
    refine .cons ?_ ih
    rw [Bool.and_eq_true, hlater.head, cons_mem_oneByte_mul]

theorem Tells.afterBytes (h : Tells P subject after) (bytes : Bytes) :
    Tells ({bytes} * P) subject (Outlook.afterBytes bytes subject after) := by
  induction bytes with
  | nil =>
    have hone : ({[]} : Language UInt8) = 1 := Language.one_def.symm
    rw [hone, one_mul]
    exact h
  | cons byte bytes ih =>
    have hsplit : ({byte :: bytes} : Language UInt8) = oneByte (· == byte) * {bytes} := by
      rw [oneByte_beq, singleton_mul_singleton]
      rfl
    rw [hsplit, mul_assoc]
    exact ih.afterByte _

theorem Tells.afterAny (h : Tells P subject after) :
    Tells (⊤ * P) subject (Outlook.afterAny after) := by
  induction h with
  | nil haccepted =>
    refine .nil ?_
    simp [mem_top_mul_iff, haccepted]
  | cons haccepted _ ih =>
    refine .cons ?_ ih
    rw [Bool.or_eq_true, haccepted, cons_mem_top_mul]
    exact or_congr_right ih.head

theorem Tells.either (h : Tells P subject after) (h' : Tells Q subject other) :
    Tells (P + Q) subject (Outlook.either after other) := by
  induction h generalizing other with
  | nil haccepted =>
    cases h' with
    | nil haccepted' =>
      refine .nil ?_
      rw [Bool.or_eq_true, haccepted, haccepted', Language.mem_add]
  | cons haccepted _ ih =>
    cases h' with
    | cons haccepted' hlater =>
      refine .cons ?_ (ih hlater)
      rw [Bool.or_eq_true, haccepted, haccepted', Language.mem_add]

theorem Tells.nothing (h : Tells P subject after) :
    Tells 0 subject (after.map fun _ => false) := by
  induction h with
  | nil _ => exact .nil (by simp [Language.notMem_zero])
  | cons _ _ ih => exact .cons (by simp [Language.notMem_zero]) ih

end Outlook

/-! ### Tokens -/

open Outlook

mutual

theorem tells_outlookOf : ∀ (tokens : List Token) {P : Language UInt8} {after : Outlook},
    Tells P subject after → Tells (language tokens * P) subject (outlookOf subject tokens after)
  | [], P, after, h => by
    rw [language, one_mul, outlookOf]
    exact h
  | t :: rest, P, after, h => by
    have hrest := tells_outlookOf rest h
    rw [language, mul_assoc, outlookOf]
    exact tells_tokenOutlook t hrest

theorem tells_tokenOutlook : ∀ (t : Token) {P : Language UInt8} {after : Outlook},
    Tells P subject after → Tells (tokenLanguage t * P) subject (tokenOutlook subject t after)
  | .literal c, P, after, h => by
    rw [tokenLanguage, tokenOutlook]
    exact h.afterBytes _
  | .any, P, after, h => by
    rw [tokenLanguage, tokenOutlook]
    exact h.afterByte _
  | .gap, P, after, h => by
    rw [tokenLanguage, tokenOutlook]
    exact h.afterAny
  | .leadingDirectories, P, after, h => by
    rw [tokenLanguage, tokenOutlook, add_mul, one_mul, mul_assoc, ← oneByte_beq]
    exact h.either (h.afterByte _).afterAny
  | .trailingDirectories, P, after, h => by
    rw [tokenLanguage, tokenOutlook, mul_assoc, ← oneByte_beq]
    exact h.afterAny.afterByte _
  | .innerDirectories, P, after, h => by
    rw [tokenLanguage, tokenOutlook, mul_assoc, add_mul, one_mul, mul_assoc, ← oneByte_beq]
    exact (h.either (h.afterByte _).afterAny).afterByte _
  | .oneOf negated ranges, P, after, h => by
    rw [tokenLanguage, tokenOutlook]
    exact h.afterByte _
  | .alternatives branches, P, after, h => by
    rw [tokenLanguage, tokenOutlook]
    by_cases hvoid : areVoid branches = true
    · rw [if_pos hvoid, if_pos hvoid, one_mul]
      exact h
    · rw [if_neg hvoid, if_neg hvoid]
      exact tells_branchesOutlook branches h

theorem tells_branchesOutlook : ∀ (branches : List (List Token)) {P : Language UInt8}
    {after : Outlook}, Tells P subject after →
      Tells (branchesLanguage branches * P) subject (branchesOutlook subject branches after)
  | [], P, after, h => by
    rw [branchesLanguage, zero_mul, branchesOutlook]
    exact h.nothing
  | branch :: rest, P, after, h => by
    have hothers := tells_branchesOutlook rest h
    rw [branchesLanguage, branchesOutlook]
    by_cases hvoid : isVoid branch = true
    · rw [if_pos hvoid, if_pos hvoid]
      exact hothers
    · rw [if_neg hvoid, if_neg hvoid, add_mul]
      exact (tells_outlookOf branch h).either hothers

end

/-- A pattern accepts the bytes that it stands for. -/
theorem Pattern.accepts_iff (p : Pattern) (subject : Bytes) :
    p.accepts subject = true ↔ subject ∈ p.language := by
  obtain ⟨tokens⟩ := p
  by_cases hstars : tokens = [.leadingDirectories]
  · subst hstars
    exact iff_of_true rfl trivial
  · have htells := tells_outlookOf tokens (tells_atEnd subject)
    rw [mul_one] at htells
    have hlanguage : Pattern.language ⟨tokens⟩ = Glob.language tokens := by
      unfold Pattern.language
      split
      · contradiction
      · rfl
    rw [hlanguage, ← htells.head]
    unfold Pattern.accepts
    split
    · contradiction
    · rfl

/-! ### A fixed ending at any depth -/

theorem language_literals (cs : List Char) :
    language (cs.map .literal) = {cs.flatMap String.utf8EncodeChar} := by
  induction cs with
  | nil =>
    rw [List.map_nil, language, List.flatMap_nil]
    exact Language.one_def
  | cons c cs ih =>
    have hc : encode (String.singleton c) = String.utf8EncodeChar c := by simp [encode_eq]
    rw [List.map_cons, language, tokenLanguage, ih, hc, singleton_mul_singleton, List.flatMap_cons]

/-- Two stars for directories, one star and then characters stand for all bytes that end in those of
these characters. -/
theorem accepts_ending_iff (ending : String) (subject : Bytes) :
    Pattern.accepts ⟨.leadingDirectories :: .gap :: ending.toList.map .literal⟩ subject = true ↔
      encode ending <:+ subject := by
  -- The directories may be none at all, and then the star stands for any bytes.
  have hany : (1 + ⊤ * {[separator]}) * ⊤ = (⊤ : Language UInt8) := by
    ext bytes
    exact iff_of_true (Language.mem_mul.mpr ⟨[], .inl rfl, bytes, trivial, rfl⟩) trivial
  have hlanguage : Pattern.language ⟨.leadingDirectories :: .gap :: ending.toList.map .literal⟩ =
      ⊤ * {encode ending} := by
    rw [encode_eq, ← language_literals]
    show (1 + ⊤ * {[separator]}) * (⊤ * language (ending.toList.map .literal)) = _
    rw [← mul_assoc, hany]
  rw [Pattern.accepts_iff, hlanguage, mem_top_mul_iff]
  exact ⟨fun ⟨_, hsuffix, hbytes⟩ => hbytes ▸ hsuffix, fun hsuffix => ⟨_, hsuffix, rfl⟩⟩

end GoldenSuite.Glob
