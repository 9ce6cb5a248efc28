import GoldenSuite.Proofs.FileTree.Route

/-!
# Steps that lead nowhere else

A `.` among names makes no difference to where they lead as long as another name follows it. At the
end it does: a link there is followed, and whatever the names lead to has to be a directory.
-/

namespace GoldenSuite.FileTree

variable {t : FileTree} {last : Bool} {n : Nat} {here there : Location}
  {names rest more : List String} {name : String} {fault : Fault}

/-! ### Dots before a name -/

theorem follow_current_of_ne_nil (h : rest ≠ []) :
    t.follow last n here ("." :: rest) = t.follow last n here rest := by
  by_cases hdir : t.IsDirectory here
  · exact follow_current hdir
  · obtain ⟨first, others, rfl⟩ := List.exists_cons_of_ne_nil h
    rw [follow_cons, follow_cons, if_pos hdir, if_pos hdir]

theorem follow_append_congr (names : List String) {more' : List String} (hmore : more ≠ [])
    (hmore' : more' ≠ [])
    (h : ∀ n here, t.follow last n here more = t.follow last n here more') :
    t.follow last n here (names ++ more) = t.follow last n here (names ++ more') := by
  induction n, here, names using follow_induction with
  | nil n here => exact h n here
  | cons n here name rest ih ihless =>
    have hends : ∀ {end_ : List String}, end_ ≠ [] → rest ++ end_ ≠ [] :=
      fun hne => List.append_ne_nil_of_right_ne_nil rest hne
    rw [List.cons_append, List.cons_append, follow_cons, follow_cons, ih, ih]
    split
    · rfl
    split
    · rfl
    split
    · rfl
    split
    · rfl
    cases t.get? (here ++ [name]) with
    | none =>
      dsimp only
      rw [if_neg (hends hmore), if_neg (hends hmore')]
    | some e =>
      cases e with
      | directory => exact ih _
      | file contents => exact ih _
      | link target =>
        -- More names follow on both sides, so the link is followed on both.
        dsimp only
        rw [if_neg fun hall => hends hmore hall.1, if_neg fun hall => hends hmore' hall.1]
        cases n with
        | zero => rfl
        | succ m =>
          rw [jump, jump, ← List.append_assoc, ← List.append_assoc, ihless m _ _ rfl]

theorem proper_ne_nil (hnames : names ≠ []) (hlast : names.getLast? ≠ some ".") :
    proper names ≠ [] := by
  obtain ⟨name, hname⟩ : ∃ name, names.getLast? = some name :=
    ⟨_, List.getLast?_eq_some_getLast hnames⟩
  have hmem : name ∈ proper names := by
    refine List.mem_filter.mpr ⟨List.mem_of_getLast? hname, decide_eq_true fun heq => hlast ?_⟩
    exact hname.trans (congrArg some heq)
  exact List.ne_nil_of_mem hmem

/-- Names that end in a proper one lead where the proper ones lead. -/
theorem follow_proper (hlast : names.getLast? ≠ some ".") :
    t.follow last n here names = t.follow last n here (proper names) := by
  induction names generalizing n here with
  | nil => rfl
  | cons name rest ih =>
    by_cases hrest : rest = []
    · subst hrest
      rw [proper_cons (by simpa using hlast)]
      rfl
    · have hlast' : rest.getLast? ≠ some "." := by
        rwa [List.getLast?_cons_of_ne_nil hrest] at hlast
      by_cases hname : name = "."
      · subst hname
        rw [follow_current_of_ne_nil hrest, proper_current, ih hlast']
      · rw [proper_cons hname]
        exact follow_append_congr [name] hrest (proper_ne_nil hrest hlast')
          fun n here => ih hlast'

/-- Names that end in a `.` lead where the proper ones and one `.` behind them lead. -/
theorem follow_proper_current (hlast : names.getLast? = some ".") :
    t.follow last n here names = t.follow last n here (proper names ++ ["."]) := by
  induction names generalizing n here with
  | nil => cases hlast
  | cons name rest ih =>
    by_cases hrest : rest = []
    · subst hrest
      obtain rfl : name = "." := by simpa using hlast
      rfl
    · rw [List.getLast?_cons_of_ne_nil hrest] at hlast
      by_cases hname : name = "."
      · subst hname
        rw [follow_current_of_ne_nil hrest, proper_current, ih hlast]
      · rw [proper_cons hname]
        exact follow_append_congr [name] hrest (by simp) fun n here => ih hlast

/-! ### A dot at the end -/

/-- Unless they lead to a link, names lead to the same whether or not a link at the end is
followed. -/
theorem follow_followed (h : ∀ loc, t.follow false n here names = .ok (.existing loc) →
    ∀ target, t.get? loc ≠ some (.link target)) :
    t.follow true n here names = t.follow false n here names := by
  induction n, here, names using follow_induction with
  | nil n here => rw [follow_nil, follow_nil]
  | cons n here name rest ih ihless =>
    rw [follow_cons, follow_cons]
    rw [follow_cons] at h
    split
    · rfl
    next hdir =>
    rw [if_neg hdir] at h
    split
    · next hname =>
      rw [if_pos hname] at h
      exact ih here h
    next hcurrent =>
    rw [if_neg hcurrent] at h
    split
    · next hname =>
      rw [if_pos hname] at h
      exact ih here.dropLast h
    next hparent =>
    rw [if_neg hparent] at h
    split
    · rfl
    next hsize =>
    rw [if_neg hsize] at h
    cases he : t.get? (here ++ [name]) with
    | none => rfl
    | some e =>
      rw [he] at h
      cases e with
      | directory => exact ih _ h
      | file contents => exact ih _ h
      | link target =>
        dsimp only at h ⊢
        -- Only at the end would the link be left alone, and there the names lead to no link.
        by_cases hend : rest = []
        · rw [if_pos ⟨hend, rfl⟩] at h
          exact absurd he (h _ rfl target)
        · rw [if_neg fun hall => hend hall.1] at h ⊢
          rw [if_neg fun hall => hend hall.1]
          cases n with
          | zero => rfl
          | succ m =>
            rw [jump] at h ⊢
            rw [jump]
            split
            · rfl
            next htext =>
            rw [if_neg htext] at h
            exact ihless m _ _ rfl h

/-- What names lead to that have to lead to a directory. -/
def Destination.asDirectory (t : FileTree) : Destination → Except Fault Destination
  | .vacant _ _ => .error .notFound
  | .existing loc => if t.IsDirectory loc then .ok (.existing loc) else .error (t.astray loc)

/-- A dot at the end asks for a directory, and follows a link in front of it. -/
theorem follow_append_current :
    t.follow last n here (names ++ ["."]) =
      (t.follow true n here names).bind (Destination.asDirectory t) := by
  induction n, here, names using follow_induction with
  | nil n here =>
    rw [follow_nil, List.nil_append, follow_cons]
    by_cases hdir : t.IsDirectory here
    · rw [if_neg (not_not_intro hdir), if_pos rfl, follow_nil]
      exact (if_pos hdir).symm
    · rw [if_pos hdir]
      exact (if_neg hdir).symm
  | cons n here name rest ih ihless =>
    have hrest : rest ++ ["."] ≠ [] := by simp
    rw [List.cons_append, follow_cons, follow_cons]
    split
    · rfl
    split
    · exact ih here
    split
    · exact ih here.dropLast
    split
    · rfl
    cases t.get? (here ++ [name]) with
    | none =>
      dsimp only
      split <;> rfl
    | some e =>
      cases e with
      | directory => exact ih _
      | file contents => exact ih _
      | link target =>
        dsimp only
        rw [if_neg fun hall => hrest hall.1, if_neg fun hall => Bool.noConfusion hall.2]
        cases n with
        | zero => rfl
        | succ m =>
          rw [jump, jump]
          split
          · rfl
          · rw [← List.append_assoc]
            exact ihless m _ _ rfl

theorem Route.get?_ne_none {n' : Nat} (h : Route t last n here names n' there)
    (hhere : t.get? here ≠ none) : t.get? there ≠ none := by
  induction h with
  | nil => exact hhere
  | current _ _ ih => exact ih hhere
  | parent hdir _ ih => exact ih (by rw [isDirectory_dropLast hdir]; simp)
  | down _ he _ _ ih => exact ih (by simp [he])
  | link _ he => simp [he]
  | @jump n n' here there name rest target hlooks _ _ _ _ ih =>
    refine ih ?_
    unfold start
    split
    · simp [get?_root]
    · exact hhere

/-- Names that end in one that stays below lead to that name in some directory, when a link at
the end is not followed. -/
theorem Route.exists_concat {n' : Nat} (h : Route t false n here names n' there)
    (hlast : names.getLast? = some name) (hcurrent : name ≠ ".") (hparent : name ≠ "..") :
    ∃ directory, there = directory ++ [name] := by
  have hnext : ∀ {first : String} {rest : List String}, (first :: rest).getLast? = some name →
      rest = [] ∧ first = name ∨ rest.getLast? = some name := by
    intro first rest hfirst
    by_cases hrest : rest = []
    · subst hrest
      exact .inl ⟨rfl, by simpa using hfirst⟩
    · rw [List.getLast?_cons_of_ne_nil hrest] at hfirst
      exact .inr hfirst
  induction h with
  | nil => cases hlast
  | current _ _ ih =>
    rcases hnext hlast with ⟨-, rfl⟩ | hrest
    · exact absurd rfl hcurrent
    · exact ih hrest
  | parent _ _ ih =>
    rcases hnext hlast with ⟨-, rfl⟩ | hrest
    · exact absurd rfl hparent
    · exact ih hrest
  | @down n n' here there first rest e _ _ _ hroute ih =>
    rcases hnext hlast with ⟨rfl, rfl⟩ | hrest
    · cases hroute
      exact ⟨here, rfl⟩
    · exact ih hrest
  | @link n here first =>
    obtain rfl : first = name := by simpa using hlast
    exact ⟨here, rfl⟩
  | jump _ _ hgoes _ _ ih =>
    rcases hnext hlast with ⟨hnil, -⟩ | hrest
    · exact absurd ⟨hnil, rfl⟩ hgoes
    · refine ih ?_
      rw [List.getLast?_append, hrest]
      rfl

theorem get?_ne_none_of_follow (hnames : names ≠ [])
    (h : t.follow last n here names = .ok (.existing there)) : t.get? there ≠ none := by
  obtain ⟨name, rest, rfl⟩ := List.exists_cons_of_ne_nil hnames
  obtain ⟨n', hroute⟩ := route_of_follow h
  exact hroute.get?_ne_none (by rw [(first_of_follow_ok h).1]; simp)

end GoldenSuite.FileTree
