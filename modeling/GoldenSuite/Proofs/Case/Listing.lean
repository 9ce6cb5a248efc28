import GoldenSuite.Proofs.Case.Isolation

/-!
# When the same cases are discovered

The discovery looks at what the directory of all cases lists and at what each listed name leads
to, and at nothing below: files on which these agree have the same cases.
-/

namespace GoldenSuite

open FileTree

variable {c : Config} {ws ws' : Workspace} {base : Path} {root root' : Location} {name : String}

theorem Workspace.find_child_congr (hroot : ws.find true base = .ok (root, .directory))
    (hroot' : ws'.find true base = .ok (root', .directory)) (hlinks : ws.Unlinked base)
    (hlinks' : ws'.Unlinked base) (hname : IsName name)
    (h : ws.seen base [name] = ws'.seen base [name]) :
    (ws.find true (base.join ⟨name⟩)).map Prod.snd =
      (ws'.find true (base.join ⟨name⟩)).map Prod.snd := by
  obtain ⟨hnames, hrelative⟩ := Path.names_of_isName hname
  by_cases husable : (base.join ⟨name⟩).Usable
  · obtain ⟨stay, hsteps, hstay⟩ := (base.join ⟨name⟩).steps_eq
    rw [Path.names_join hrelative, hnames, List.append_assoc] at hsteps
    have hup : ".." ∉ [name] ++ stay :=
      parent_not_mem_append_stay hstay (by simpa using hname.ne_parent.symm)
    rw [entry_of_find hroot hlinks husable (Path.isAbsolute_join hrelative) hsteps (by simp) hup,
      entry_of_find hroot' hlinks' husable (Path.isAbsolute_join hrelative) hsteps (by simp) hup]
    have hhere : ws.seen base [] = ws'.seen base [] := by rw [seen_root hroot, seen_root hroot']
    rcases hstay with rfl | rfl
    · simp only [List.append_nil, View.entry, List.nil_append, hhere, h]
    · simp [View.entry, hname.ne_current, hhere, h]
  · obtain ⟨fault, hfault⟩ := resolve_of_not_usable husable
    rw [find_map_snd, find_map_snd, hfault, hfault]
    rfl

theorem Workspace.seen_of_part (hhere : ws'.here = ws.here) (hpart : ws.tree.PartOf ws'.tree)
    {inner : List String} {e : Entry} (h : ws.seen base inner = some e) :
    ws'.seen base inner = some e := by
  obtain ⟨root, hroot⟩ := exists_root_of_seen h
  rw [seen_eq hroot] at h
  rw [seen_eq (find_of_part hhere hpart hroot)]
  exact hpart _ e h

theorem Workspace.seen_congr (hhere : ws.here = ws'.here)
    (htree : ∀ loc, ws.tree.get? loc = ws'.tree.get? loc) (base : Path) (inner : List String) :
    ws.seen base inner = ws'.seen base inner := by
  refine Option.ext fun e => ⟨fun h => ?_, fun h => ?_⟩
  · exact seen_of_part hhere.symm (fun loc e he => (htree loc).symm.trans he) h
  · exact seen_of_part hhere (fun loc e he => (htree loc).trans he) h

namespace Discovery

theorem casesAmong_congr {entries : List String}
    (h : ∀ entry ∈ entries, (ws.find true (c.testsRoot.join ⟨entry⟩)).map Prod.snd =
      (ws'.find true (c.testsRoot.join ⟨entry⟩)).map Prod.snd) :
    casesAmong c ws entries = casesAmong c ws' entries := by
  induction entries with
  | nil => rfl
  | cons entry others ih =>
    rw [List.forall_mem_cons] at h
    obtain ⟨hsame, hothers⟩ := h
    rw [casesAmong_cons, casesAmong_cons, ih hothers]
    generalize ws.find true (c.testsRoot.join ⟨entry⟩) = found at hsame
    generalize ws'.find true (c.testsRoot.join ⟨entry⟩) = found' at hsame
    cases found with
    | error fault =>
      cases found' with
      | error fault' =>
        cases hsame
        rfl
      | ok other => cases hsame
    | ok one =>
      cases found' with
      | error fault' => cases hsame
      | ok other =>
        obtain ⟨loc, e⟩ := one
        obtain ⟨loc', e'⟩ := other
        cases hsame
        cases e <;> rfl

/-- Files that list the same names, below which no link is seen and which have the same at each
name, have the same cases. -/
theorem cases_congr (hlist : ws.list c.testsRoot = ws'.list c.testsRoot)
    (hlinks : ws.Unlinked c.testsRoot) (hlinks' : ws'.Unlinked c.testsRoot)
    (h : ∀ name, ws.seen c.testsRoot [name] = ws'.seen c.testsRoot [name]) :
    Discovery.cases c ws = Discovery.cases c ws' := by
  cases hl : ws.list c.testsRoot with
  | error fault => rw [cases_of_unlisted hl, cases_of_unlisted (hlist.symm.trans hl)]
  | ok listed =>
    obtain ⟨root, names⟩ := listed
    have hl' := hlist.symm.trans hl
    obtain ⟨hroot, rfl⟩ := Workspace.list_eq_ok_iff.mp hl
    obtain ⟨hroot', -⟩ := Workspace.list_eq_ok_iff.mp hl'
    rw [cases_of_listed hl, cases_of_listed hl', casesAmong_congr]
    intro name hname
    obtain ⟨e, he⟩ := mem_children_iff.mp hname
    exact Workspace.find_child_congr hroot hroot' hlinks hlinks'
      (isName_of_mem he (List.mem_append_right _ (List.mem_singleton_self name))) (h name)

theorem exists_entries (hlinks : ws.Unlinked c.testsRoot) {cases : List TestCase}
    (hd : Discovery.cases c ws = .ok cases) :
    ∃ root, ws.find true c.testsRoot = .ok (root, .directory) ∧ ∃ entries : List String,
      cases = entries.map (.named c) ∧ entries.Nodup ∧
        ∀ entry ∈ entries, IsName entry ∧ ws.tree.IsDirectory (root ++ [entry]) := by
  obtain ⟨root, hroot, -⟩ := cases_eq_ok hd
  refine ⟨root, hroot, cases.map TestCase.entry, (map_named_entry hd).symm, nodup_entries hd, ?_⟩
  intro entry hmem
  obtain ⟨case, hcase, rfl⟩ := List.mem_map.mp hmem
  have hentry := (eq_named_entry hd hcase).1
  have hseen := seen_of_isCase hlinks hentry
  rw [Workspace.seen_eq hroot] at hseen
  exact ⟨isName_of_isCase hentry, hseen⟩

end Discovery

end GoldenSuite
