/-!
# Blank characters and lines

Which characters count as blank (the Unicode property `White_Space`), how a text is trimmed,
and how it falls into lines. Everything works on character lists; the texts that the rest of
the library hands over are turned into lists and back at its own boundary.
-/

namespace GoldenSuite.Text

/-! ### Blank characters -/

/-- The code point ranges of the Unicode property `White_Space`, both ends included. -/
def blankRanges : List (Nat × Nat) :=
  [(0x09, 0x0D), (0x20, 0x20), (0x85, 0x85), (0xA0, 0xA0), (0x1680, 0x1680),
   (0x2000, 0x200A), (0x2028, 0x2029), (0x202F, 0x202F), (0x205F, 0x205F), (0x3000, 0x3000)]

/-- A character is blank when its code point lies in one of the ranges. -/
def isBlank (c : Char) : Bool :=
  blankRanges.any fun range => range.1 ≤ c.toNat && c.toNat ≤ range.2

/-- Whether a text holds nothing but blank characters. -/
def allBlank (text : String) : Bool :=
  text.toList.all isBlank

/-- Drops the blank characters at the end of a line. -/
def trimEnd (line : List Char) : List Char :=
  (line.reverse.dropWhile isBlank).reverse

/-- A trimmed line is the line itself with some blank characters taken off its end. -/
theorem exists_trimEnd_append (line : List Char) :
    ∃ tail, line = trimEnd line ++ tail ∧ ∀ c ∈ tail, isBlank c = true := by
  refine ⟨(line.reverse.takeWhile isBlank).reverse, ?_, ?_⟩
  · have whole := List.takeWhile_append_dropWhile (p := isBlank) (l := line.reverse)
    have turned := congrArg List.reverse whole
    rw [List.reverse_append, List.reverse_reverse] at turned
    exact turned.symm
  · intro c hc
    rw [List.mem_reverse] at hc
    exact List.all_eq_true.mp List.all_takeWhile c hc

/-! ### Lines -/

/-- Drops one carriage return from the front of a reversed line. -/
def dropReturn : List Char → List Char
  | '\r' :: line => line
  | line => line

/-- Reads the lines of a text whose current line, reversed, has been read up to here. -/
def linesFrom (current : List Char) : List Char → List (List Char)
  | [] => if current.isEmpty then [] else [current.reverse]
  | '\n' :: rest => (dropReturn current).reverse :: linesFrom [] rest
  | c :: rest => linesFrom (c :: current) rest

/-- The lines of a text: each ends at a line feed, which is dropped together with one carriage
return before it; what follows the last line feed is a line unless it is empty. -/
def lines (text : List Char) : List (List Char) :=
  linesFrom [] text

theorem not_mem_dropReturn {current : List Char} {c : Char} (h : c ∉ current) :
    c ∉ dropReturn current := by
  unfold dropReturn
  split
  · exact fun hc => h (List.mem_cons_of_mem _ hc)
  · exact h

/-- No line holds a line feed. -/
theorem not_mem_of_mem_linesFrom {current text line : List Char} (h : '\n' ∉ current)
    (hline : line ∈ linesFrom current text) : '\n' ∉ line := by
  fun_induction linesFrom current text with
  | case1 => simp at hline
  | case2 =>
    rw [List.mem_singleton] at hline
    subst hline
    simpa using h
  | case3 current rest ih =>
    rcases List.mem_cons.mp hline with rfl | hrest
    · simpa using not_mem_dropReturn h
    · exact ih (by simp) hrest
  | case4 current c rest hc ih =>
    refine ih ?_ hline
    simp only [List.mem_cons, not_or]
    exact ⟨fun he => hc he.symm, h⟩

theorem not_mem_of_mem_lines {text line : List Char} (h : line ∈ lines text) : '\n' ∉ line :=
  not_mem_of_mem_linesFrom (by simp) h

/-- The last `count` members of a list, or all of them when there are fewer. -/
def lastOf {α : Type} (count : Nat) (items : List α) : List α :=
  items.drop (items.length - count)

end GoldenSuite.Text
