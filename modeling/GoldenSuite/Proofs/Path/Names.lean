import GoldenSuite.Workspace.Change

/-!
# Names of paths

Joining paths joins their names, and separators at the end of a path have none.
-/

namespace GoldenSuite.Path

variable {base p : Path}

/-! ### Pieces -/

theorem segments_append_slash (a b : List Char) :
    segments (a ++ '/' :: b) = segments a ++ segments b := by
  induction a with
  | nil => simp [segments]
  | cons ch a ih =>
    rw [List.cons_append, segments, segments, ih]
    by_cases hch : ch = '/'
    · rw [if_pos hch, if_pos hch, List.cons_append]
    · rw [if_neg hch, if_neg hch]
      cases hs : segments a with
      | nil => exact absurd hs (segments_ne_nil a)
      | cons first others => rfl

/-- A text without a slash is one piece. -/
theorem segments_of_slash_not_mem {cs : List Char} (h : '/' ∉ cs) : segments cs = [cs] := by
  induction cs with
  | nil => rfl
  | cons ch rest ih =>
    have hch : ch ≠ '/' := fun heq => h (heq ▸ List.mem_cons_self ..)
    rw [segments, if_neg hch, ih fun hmem => h (List.mem_cons_of_mem _ hmem)]

/-- The names among pieces. -/
def namesIn (pieces : List (List Char)) : List String :=
  (pieces.filter fun piece => piece ≠ []).map String.ofList

theorem names_eq (p : Path) : p.names = namesIn (segments p.chars) := rfl

theorem namesIn_append (a b : List (List Char)) :
    namesIn (a ++ b) = namesIn a ++ namesIn b := by
  simp [namesIn]

theorem namesIn_segments_slash (cs : List Char) :
    namesIn (segments (cs ++ ['/'])) = namesIn (segments cs) := by
  rw [segments_append_slash, namesIn_append]
  simp [segments, namesIn]

/-! ### Joined paths -/

theorem chars_withSeparator (p : Path) :
    ∃ cs, p.withSeparator.chars = cs ++ ['/'] ∧ p.names = namesIn (segments cs) := by
  unfold withSeparator
  by_cases h : p.endsInSeparator = true
  · rw [if_pos h]
    obtain ⟨cs, hcs⟩ := List.getLast?_eq_some_iff.mp (by simpa [endsInSeparator] using h)
    exact ⟨cs, hcs, by rw [names_eq, hcs, namesIn_segments_slash]⟩
  · rw [if_neg h]
    exact ⟨p.chars, by simp [chars], names_eq p⟩

theorem names_join (h : p.isAbsolute = false) : (base.join p).names = base.names ++ p.names := by
  obtain ⟨cs, hcs, hnames⟩ := base.chars_withSeparator
  have hjoin : (base.join p).text = if base.text = "" then p.text else
      base.withSeparator.text ++ p.text := by
    unfold join
    rw [if_neg (by simp [h])]
    split <;> rfl
  by_cases hempty : base.text = ""
  · rw [if_pos hempty] at hjoin
    have hbase : base.names = [] := by simp [names, chars, hempty, segments]
    rw [hbase, List.nil_append, names, chars, hjoin]
    rfl
  · rw [if_neg hempty] at hjoin
    have hchars : (base.join p).chars = cs ++ '/' :: p.chars := by
      rw [chars, hjoin, String.toList_append]
      show base.withSeparator.chars ++ p.chars = _
      rw [hcs, List.append_assoc]
      rfl
    rw [names_eq, hchars, segments_append_slash, namesIn_append, hnames, names_eq]

theorem isAbsolute_join (h : p.isAbsolute = false) :
    (base.join p).isAbsolute = base.isAbsolute := by
  unfold join
  rw [if_neg (by simp [h])]
  by_cases hempty : base.text = ""
  · rw [if_pos hempty, h]
    simp [isAbsolute, chars, hempty]
  · rw [if_neg hempty]
    have hne : base.chars ≠ [] := by simpa [chars] using hempty
    cases hcs : base.chars with
    | nil => exact absurd hcs hne
    | cons ch rest =>
      have hwith : ∃ more, base.withSeparator.chars = ch :: more := by
        unfold withSeparator
        split
        · exact ⟨rest, hcs⟩
        · refine ⟨rest ++ ['/'], ?_⟩
          show (base.text ++ "/").toList = _
          rw [String.toList_append]
          show base.chars ++ ['/'] = _
          rw [hcs, List.cons_append]
      obtain ⟨more, hmore⟩ := hwith
      have hjoined : (Path.mk (base.withSeparator.text ++ p.text)).chars =
          ch :: (more ++ p.chars) := by
        rw [chars, String.toList_append]
        show base.withSeparator.chars ++ p.chars = _
        rw [hmore, List.cons_append]
      rw [isAbsolute, hjoined, isAbsolute, hcs]
      rfl

theorem names_of_isName {name : String} (h : IsName name) :
    (Path.mk name).names = [name] ∧ (Path.mk name).isAbsolute = false := by
  have hseg : segments (Path.mk name).chars = [name.toList] :=
    segments_of_slash_not_mem h.slash_not_mem
  have hne : name.toList ≠ [] := by simpa using h.ne_empty
  constructor
  · rw [names, hseg]
    simp [hne]
  · cases hc : name.toList with
    | nil => exact absurd hc hne
    | cons ch rest =>
      have hslash := h.slash_not_mem
      rw [hc] at hslash
      simp only [List.mem_cons, not_or] at hslash
      simp [isAbsolute, chars, hc, Ne.symm hslash.1]

/-! ### Steps -/

/-- A path is followed name by name, perhaps with a step to where one is at the end. -/
theorem steps_eq (p : Path) : ∃ stay, p.steps = p.names ++ stay ∧ (stay = [] ∨ stay = ["."]) := by
  unfold steps
  split
  · exact ⟨["."], rfl, Or.inr rfl⟩
  · exact ⟨[], by simp, Or.inl rfl⟩

/-! ### Trimmed paths -/

theorem namesIn_segments_replicate (cs : List Char) (n : Nat) :
    namesIn (segments (cs ++ List.replicate n '/')) = namesIn (segments cs) := by
  induction n with
  | zero => simp
  | succ n ih => rw [List.replicate_succ', ← List.append_assoc, namesIn_segments_slash, ih]

theorem chars_eq_trimmed_append (p : Path) :
    ∃ n, p.chars = (Workspace.trimmed p).chars ++ List.replicate n '/' := by
  have hparts := congrArg List.reverse
    (List.takeWhile_append_dropWhile (p := (· == '/')) (l := p.chars.reverse))
  have hslashes : ∀ ch ∈ (p.chars.reverse.takeWhile (· == '/')).reverse, ch = '/' := by
    intro ch hch
    have hall := List.all_eq_true.mp (List.all_takeWhile (p := (· == '/')) (l := p.chars.reverse))
    simpa using hall ch (List.mem_reverse.mp hch)
  have htrimmed : (Workspace.trimmed p).chars =
      (p.chars.reverse.dropWhile (· == '/')).reverse := by
    simp [Workspace.trimmed, chars]
  rw [List.reverse_append, List.reverse_reverse, List.eq_replicate_of_mem hslashes,
    ← htrimmed] at hparts
  exact ⟨_, hparts.symm⟩

theorem endsInSeparator_trimmed (p : Path) : (Workspace.trimmed p).endsInSeparator = false := by
  have hhead := List.head?_dropWhile_not (· == '/') p.chars.reverse
  have hlast : (Workspace.trimmed p).chars.getLast? =
      (p.chars.reverse.dropWhile (· == '/')).head? := by
    simp [Workspace.trimmed, chars]
  rw [endsInSeparator, hlast]
  cases hh : (p.chars.reverse.dropWhile (· == '/')).head? with
  | none => rfl
  | some ch =>
    rw [hh] at hhead
    simpa using hhead

theorem names_trimmed (p : Path) : (Workspace.trimmed p).names = p.names := by
  obtain ⟨n, hn⟩ := chars_eq_trimmed_append p
  rw [names_eq p, hn, namesIn_segments_replicate, names_eq]

theorem steps_trimmed (p : Path) : (Workspace.trimmed p).steps = p.names := by
  rw [steps, endsInSeparator_trimmed, names_trimmed]
  simp

theorem isAbsolute_trimmed (h : p.names ≠ []) :
    (Workspace.trimmed p).isAbsolute = p.isAbsolute := by
  obtain ⟨n, hn⟩ := chars_eq_trimmed_append p
  cases hc : (Workspace.trimmed p).chars with
  | nil =>
    rw [← names_trimmed, names_eq, hc] at h
    exact absurd rfl h
  | cons ch rest =>
    rw [isAbsolute, isAbsolute, hn, hc, List.cons_append, List.head?_cons, List.head?_cons]

end GoldenSuite.Path
