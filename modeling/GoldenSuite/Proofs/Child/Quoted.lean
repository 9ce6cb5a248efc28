import GoldenSuite.Proofs.Verdict.Wording
import Mathlib.Data.List.DropRight

/-!
# What is quoted of an error stream

A message quotes the last lines of an error stream that are not blank. These lines are told here
without reading the text line by line: they are its pieces between line feeds, less the blank ones.
A line feed parts the lines before it from the lines behind it, so what stands above the last lines
does not matter, and neither do blanks at the end or carriage returns before the line feeds.
-/

namespace GoldenSuite.Child

open Text

/-! ### Lines that are not blank -/

/-- The pieces of a text between its line feeds that are not blank, each without the blank
characters at its end. -/
def spokenLines (text : List Char) : List (List Char) :=
  ((text.splitOn '\n').filter fun line => !line.all isBlank).map (List.rdropWhile isBlank)

/-- The lines that are left when each is trimmed and the blank ones are dropped. -/
def trimmedLines (lines : List (List Char)) : List (List Char) :=
  (lines.map trimEnd).filter fun line => !line.all isBlank

theorem trimmedLines_cons (line : List Char) (others : List (List Char)) :
    trimmedLines (line :: others) = trimmedLines [line] ++ trimmedLines others := by
  have happend : line :: others = [line] ++ others := rfl
  rw [happend, trimmedLines, List.map_append, List.filter_append]
  rfl

theorem all_isBlank_trimEnd (line : List Char) :
    (trimEnd line).all isBlank = line.all isBlank := by
  obtain ⟨blanks, hline, hblanks⟩ := exists_trimEnd_append line
  have hall : blanks.all isBlank = true := List.all_eq_true.mpr hblanks
  have hsplit := congrArg (·.all isBlank) hline
  simp only [List.all_append, hall, Bool.and_true] at hsplit
  exact hsplit.symm

theorem trimmedLines_splitOn (text : List Char) :
    trimmedLines (text.splitOn '\n') = spokenLines text := by
  have hblank : ((fun line : List Char => !line.all isBlank) ∘ trimEnd) =
      fun line : List Char => !line.all isBlank := by
    funext line
    simp [all_isBlank_trimEnd]
  rw [trimmedLines, List.filter_map, hblank]
  rfl

theorem trimmedLines_append_blank {line : List Char} {c : Char} (h : isBlank c = true) :
    trimmedLines [line ++ [c]] = trimmedLines [line] := by
  have htrim : trimEnd (line ++ [c]) = trimEnd line := List.rdropWhile_concat_pos isBlank line c h
  simp only [trimmedLines, List.map_cons, List.map_nil, htrim]

theorem trimmedLines_dropReturn (current : List Char) :
    trimmedLines [(dropReturn current).reverse] = trimmedLines [current.reverse] := by
  unfold dropReturn
  split
  · rw [List.reverse_cons, trimmedLines_append_blank (by decide)]
  · rfl

/-! ### Reading on from a line -/

theorem splitOnPPrepend_newline (current rest : List Char) :
    ('\n' :: rest).splitOnPPrepend (· == '\n') current =
      current.reverse :: rest.splitOnP (· == '\n') :=
  List.splitOnPPrepend_cons_pos (p := (· == '\n')) (by simp)

theorem splitOnPPrepend_of_ne {c : Char} (h : c ≠ '\n') (current rest : List Char) :
    (c :: rest).splitOnPPrepend (· == '\n') current =
      rest.splitOnPPrepend (· == '\n') (c :: current) :=
  List.splitOnPPrepend_cons_neg (p := (· == '\n')) (by simpa using h)

/-- The lines of a text whose current line, reversed, has been read up to here. Core's split keeps
its piece in the same way, so the two can be compared at every character. -/
theorem trimmedLines_linesFrom (current text : List Char) :
    trimmedLines (linesFrom current text) =
      trimmedLines (text.splitOnPPrepend (· == '\n') current) := by
  fun_induction linesFrom current text with
  | case1 current hempty =>
    rw [List.isEmpty_iff.mp hempty]
    rfl
  | case2 current _ => rfl
  | case3 current rest ih =>
    rw [splitOnPPrepend_newline, trimmedLines_cons, trimmedLines_dropReturn, ih,
      List.splitOnPPrepend_nil_right, ← trimmedLines_cons]
  | case4 current c rest hc ih => rw [splitOnPPrepend_of_ne hc, ih]

theorem meaningfulLines_eq (text : String) :
    meaningfulLines text = spokenLines text.toList := by
  rw [← trimmedLines_splitOn]
  exact trimmedLines_linesFrom [] text.toList

theorem spokenLines_append_newline (before behind : List Char) :
    spokenLines (before ++ '\n' :: behind) = spokenLines before ++ spokenLines behind := by
  simp only [spokenLines, List.splitOn_append_cons_self, List.filter_append, List.map_append]

theorem trimmedLines_blanks {blanks : List Char} (h : ∀ c ∈ blanks, isBlank c = true)
    (current : List Char) :
    trimmedLines (blanks.splitOnPPrepend (· == '\n') current) = trimmedLines [current.reverse] := by
  induction blanks generalizing current with
  | nil => rfl
  | cons c rest ih =>
    have hc : isBlank c = true := h c (List.mem_cons_self ..)
    have hrest : ∀ d ∈ rest, isBlank d = true := fun d hd => h d (List.mem_cons_of_mem _ hd)
    by_cases hline : c = '\n'
    · have hnone : trimmedLines (rest.splitOnP (· == '\n')) = [] := ih hrest []
      rw [hline, splitOnPPrepend_newline, trimmedLines_cons, hnone, List.append_nil]
    · rw [splitOnPPrepend_of_ne hline, ih hrest, List.reverse_cons,
        trimmedLines_append_blank hc]

theorem trimmedLines_append_blanks {blanks : List Char} (h : ∀ c ∈ blanks, isBlank c = true)
    (text current : List Char) :
    trimmedLines ((text ++ blanks).splitOnPPrepend (· == '\n') current) =
      trimmedLines (text.splitOnPPrepend (· == '\n') current) := by
  induction text generalizing current with
  | nil => exact trimmedLines_blanks h current
  | cons c rest ih =>
    rw [List.cons_append]
    by_cases hline : c = '\n'
    · have hrest : trimmedLines ((rest ++ blanks).splitOnP (· == '\n')) =
          trimmedLines (rest.splitOnP (· == '\n')) := ih []
      rw [hline, splitOnPPrepend_newline, splitOnPPrepend_newline, trimmedLines_cons, hrest,
        ← trimmedLines_cons]
    · rw [splitOnPPrepend_of_ne hline, splitOnPPrepend_of_ne hline, ih]

theorem spokenLines_append_blanks {blanks : List Char} (h : ∀ c ∈ blanks, isBlank c = true)
    (text : List Char) : spokenLines (text ++ blanks) = spokenLines text := by
  rw [← trimmedLines_splitOn, ← trimmedLines_splitOn]
  exact trimmedLines_append_blanks h text []

/-! ### Carriage returns -/

/-- The text with a carriage return before each of its line feeds. -/
def withReturns (text : List Char) : List Char :=
  text.flatMap fun c => if c = '\n' then ['\r', '\n'] else [c]

theorem trimmedLines_withReturns (text current : List Char) :
    trimmedLines ((withReturns text).splitOnPPrepend (· == '\n') current) =
      trimmedLines (text.splitOnPPrepend (· == '\n') current) := by
  induction text generalizing current with
  | nil => rfl
  | cons c rest ih =>
    by_cases hline : c = '\n'
    · subst hline
      have hrest : trimmedLines ((withReturns rest).splitOnP (· == '\n')) =
          trimmedLines (rest.splitOnP (· == '\n')) := ih []
      have hreturns : withReturns ('\n' :: rest) = '\r' :: '\n' :: withReturns rest := rfl
      rw [hreturns, splitOnPPrepend_of_ne (by decide), splitOnPPrepend_newline,
        splitOnPPrepend_newline, trimmedLines_cons, hrest, List.reverse_cons,
        trimmedLines_append_blank (by decide), ← trimmedLines_cons]
    · have hreturns : withReturns (c :: rest) = c :: withReturns rest := by
        simp [withReturns, hline]
      rw [hreturns, splitOnPPrepend_of_ne hline, splitOnPPrepend_of_ne hline, ih]

theorem spokenLines_withReturns (text : List Char) :
    spokenLines (withReturns text) = spokenLines text := by
  rw [← trimmedLines_splitOn, ← trimmedLines_splitOn]
  exact trimmedLines_withReturns text []

/-! ### The last lines -/

theorem stderrTail_eq (status : Status) (text : String) (count : Nat) :
    (Outcome.mk status text).stderrTail count =
      " | ".intercalate ((lastOf count (spokenLines text.toList)).map String.ofList) := by
  rw [Outcome.stderrTail, tail, meaningfulLines_eq]

theorem lastOf_append {α : Type} {count : Nat} (above items : List α) (h : count ≤ items.length) :
    lastOf count (above ++ items) = lastOf count items := by
  have hsplit : (above ++ items).length - count = above.length + (items.length - count) := by
    rw [List.length_append]
    omega
  rw [lastOf, lastOf, hsplit, List.drop_append]
  simp

theorem spokenLines_above {above : String} (h : above = "" ∨ above.toList.getLast? = some '\n')
    (text : String) : ∃ lines,
      spokenLines (above ++ text).toList = lines ++ spokenLines text.toList := by
  rw [String.toList_append]
  rcases h with rfl | hlast
  · exact ⟨[], rfl⟩
  · obtain ⟨before, hbefore⟩ := List.getLast?_eq_some_iff.mp hlast
    refine ⟨spokenLines before, ?_⟩
    rw [hbefore, List.append_assoc]
    exact spokenLines_append_newline before text.toList

/-- What is quoted of an error stream are its last lines that are not blank, at most as many as
asked for, in their order, without the blanks at their ends and in one line. What stands in lines
above them does not show, nor do blanks behind them or the way in which lines end, and fewer lines
are the same ones without the first. -/
theorem stderrTail_tells_last_lines (status : Status) (text : String) (count : Nat) :
    let quoted (text : String) (count : Nat) := (Outcome.mk status text).stderrTail count
    let lines := (spokenLines text.toList).map String.ofList
    let last (count : Nat) := lines.drop (lines.length - count)
    quoted text count = " | ".intercalate (last count) ∧
      (last count).length = min count lines.length ∧
      '\n' ∉ (quoted text count).toList ∧
      (∀ above : String, above = "" ∨ above.toList.getLast? = some '\n' →
        count ≤ lines.length → quoted (above ++ text) count = quoted text count) ∧
      (∀ blanks : String, (∀ c ∈ blanks.toList, isBlank c = true) →
        quoted (text ++ blanks) count = quoted text count) ∧
      quoted (String.ofList (withReturns text.toList)) count = quoted text count ∧
      (∀ fewer ≤ count, quoted text fewer = " | ".intercalate (last fewer) ∧
        ∃ first, last count = first ++ last fewer) ∧
      quoted text 0 = "" ∧
      (lines.length ≤ count → quoted text count = " | ".intercalate lines) := by
  intro quoted lines last
  have hquoted : ∀ count, quoted text count = " | ".intercalate (last count) := by
    intro count
    simp only [quoted, stderrTail_eq, lastOf, last, lines, List.map_drop, List.length_map]
  refine ⟨hquoted count, ?_, newline_not_mem_tail text count, ?_, ?_, ?_, ?_, ?_, ?_⟩
  · simp only [last, List.length_drop]
    omega
  · intro above habove hcount
    obtain ⟨before, hbefore⟩ := spokenLines_above habove text
    have hlength : count ≤ (spokenLines text.toList).length := by
      simpa only [lines, List.length_map] using hcount
    simp only [quoted, stderrTail_eq, hbefore, lastOf_append before _ hlength]
  · intro blanks hblanks
    simp only [quoted, stderrTail_eq, String.toList_append, spokenLines_append_blanks hblanks]
  · simp only [quoted, stderrTail_eq, String.toList_ofList, spokenLines_withReturns]
  · intro fewer hfewer
    refine ⟨hquoted fewer, ?_⟩
    -- The shorter end of the lines is an end of the longer one.
    have hsuffix : last fewer <:+ last count :=
      List.drop_suffix_drop_left _ (by omega)
    obtain ⟨first, hfirst⟩ := hsuffix
    exact ⟨first, hfirst.symm⟩
  · simp [hquoted, last]
  · intro hall
    rw [hquoted]
    simp [last, Nat.sub_eq_zero_of_le hall]

/-- Two of the three lines of a text with all kinds of endings, below a line of noise and above
blank lines. -/
theorem last_two_of_three :
    let stream := "noise\r\n" ++ "first\n\t second \r\n\u2003\nthird" ++ " \n\u00a0\r"
    (Outcome.mk (.exited 1) stream).stderrTail 2 = "\t second | third" ∧
      (Outcome.mk (.exited 1) stream).stderrTail 1 = "third" := by
  let text := "first\n\t second \r\n\u2003\nthird"
  let quoted (text : String) (count : Nat) := (Outcome.mk (.exited 1) text).stderrTail count
  have hlines : (spokenLines text.toList).map String.ofList = ["first", "\t second", "third"] := by
    decide +kernel
  have hlength : ((spokenLines text.toList).map String.ofList).length = 3 := by rw [hlines]; rfl
  have hblanks : ∀ c ∈ " \n\u00a0\r".toList, isBlank c = true :=
    List.all_eq_true.mp (by decide +kernel)
  -- The noise above and the blanks below go, for any number of lines up to three.
  have haround : ∀ count ≤ 3,
      quoted ("noise\r\n" ++ text ++ " \n\u00a0\r") count = quoted text count := by
    intro count hcount
    obtain ⟨-, -, -, -, hbelow, -⟩ :=
      stderrTail_tells_last_lines (.exited 1) ("noise\r\n" ++ text) count
    obtain ⟨-, -, -, habove, -⟩ := stderrTail_tells_last_lines (.exited 1) text count
    exact (hbelow _ hblanks).trans (habove _ (.inr (by decide)) (by omega))
  obtain ⟨htwo, -, -, -, -, -, hfewer, -⟩ := stderrTail_tells_last_lines (.exited 1) text 2
  have hone := (hfewer 1 (by decide)).1
  rw [hlines] at htwo hone
  exact ⟨(haround 2 (by decide)).trans htwo, (haround 1 (by decide)).trans hone⟩

end GoldenSuite.Child
