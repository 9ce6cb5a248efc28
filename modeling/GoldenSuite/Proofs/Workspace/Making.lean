import Mathlib.Data.List.Basic
import GoldenSuite.Proofs.Path.Spelling
import GoldenSuite.Proofs.Workspace.Growing

/-!
# Directories that were made

When a directory has been made with those on the way to it, its path leads to a directory, whether
it was there before or not.
-/

namespace GoldenSuite

open FileTree

/-! ### Vacant names -/

namespace FileTree

variable {t : FileTree} {last : Bool} {n : Nat} {here directory : Location} {names : List String}
  {name : String}

/-- A vacant name is looked up in a directory that does not have it, and it is the last one. -/
theorem vacant_of_follow (h : t.follow false n here names = .ok (.vacant directory name)) :
    (t.Looks directory name ∧ t.get? (directory ++ [name]) = none) ∧
      names.getLast? = some name := by
  induction n, here, names using follow_induction with
  | nil n here =>
    rw [follow_nil] at h
    cases h
  | cons n here first rest ih ihless =>
    have hlast : ∀ more, rest ≠ [] → (more ++ rest).getLast? = some name →
        (first :: rest).getLast? = some name := by
      intro more hrest hmore
      rwa [List.getLast?_append_of_ne_nil more hrest,
        ← List.getLast?_append_of_ne_nil [first] hrest] at hmore
    -- What follows the first name is followed from somewhere else, and ends in the same name.
    have hgoesOn : ∀ next, t.follow false n next rest = .ok (.vacant directory name) →
        (t.Looks directory name ∧ t.get? (directory ++ [name]) = none) ∧
          (first :: rest).getLast? = some name := by
      intro next hnext
      obtain ⟨hvacant, hend⟩ := ih next hnext
      refine ⟨hvacant, hlast [] ?_ hend⟩
      rintro rfl
      cases hend
    obtain ⟨hdir, rfl | rfl | hlooks⟩ := first_of_follow_ok h
    · rw [follow_current hdir] at h
      exact hgoesOn here h
    · rw [follow_parent hdir] at h
      exact hgoesOn here.dropLast h
    · rw [follow_name hlooks] at h
      cases he : t.get? (here ++ [first]) with
      | none =>
        rw [he] at h
        dsimp only at h
        split at h
        · next hend =>
          cases h
          exact ⟨⟨hlooks, he⟩, by rw [hend]; rfl⟩
        · cases h
      | some e =>
        rw [he] at h
        cases e with
        | directory => exact hgoesOn _ h
        | file contents => exact hgoesOn _ h
        | link target =>
          dsimp only at h
          split at h
          · cases h
          · next hgoes =>
            have hrest : rest ≠ [] := fun hnil => hgoes ⟨hnil, rfl⟩
            cases n with
            | zero => cases h
            | succ m =>
              rw [jump] at h
              split at h
              · cases h
              · obtain ⟨hvacant, hend⟩ := ihless m _ _ rfl h
                exact ⟨hvacant, hlast target.steps hrest hend⟩

theorem route_of_proper_nil (hdir : t.IsDirectory here) (h : proper names = []) :
    Route t last n here names n here := by
  induction names with
  | nil => exact .nil n here
  | cons first rest ih =>
    by_cases hfirst : first = "."
    · subst hfirst
      rw [proper_current] at h
      exact .current hdir (ih h)
    · rw [proper_cons hfirst] at h
      cases h

end FileTree

/-! ### Paths without names -/

namespace Path

variable {p : Path} {name : String}

theorem isName_of_mem_names (hnul : '\x00' ∉ p.chars) (hname : name ∈ p.names)
    (hcurrent : name ≠ ".") (hparent : name ≠ "..") (hsize : name.length ≤ longestName) :
    IsName name := by
  have hmem : name ∈ proper p.names :=
    List.mem_filter.mpr ⟨hname, decide_eq_true hcurrent⟩
  obtain ⟨piece, hpiece, rfl⟩ := List.mem_map.mp hname
  obtain ⟨hpiece, hne⟩ := List.mem_filter.mp hpiece
  refine ⟨?_, hcurrent, hparent, ?_, fun hin => hnul ?_, hsize⟩
  · simpa using hne
  · rw [String.toList_ofList]
    exact slash_not_mem_of_mem_segments hpiece
  · exact (mem_chars_iff (by decide) (by decide)).mpr ⟨_, hmem, hin⟩

theorem names_of_components_nil (h : p.components = []) : p.names = [] := by
  obtain ⟨hleading, hinner⟩ := List.append_eq_nil_iff.mp h
  have hrelative : p.isAbsolute = false := by
    rw [← Bool.not_eq_true, ← root_mem_components_iff, h]
    exact List.not_mem_nil
  have hfirst : (segments p.chars).head? ≠ some ['.'] := by
    intro hdot
    rw [leading, hrelative, if_neg (by decide), if_pos (by simp [hdot])] at hleading
    cases hleading
  cases hchars : p.chars with
  | nil => rw [names_eq, hchars]; rfl
  | cons ch rest =>
    -- The first piece has a character, so it shows among the components.
    exfalso
    have hslash : ch ≠ '/' := by
      rintro rfl
      simp [isAbsolute, hchars] at hrelative
    obtain ⟨piece, others, hsegments⟩ : ∃ piece others,
        segments p.chars = (ch :: piece) :: others := by
      rw [hchars, segments, if_neg hslash]
      split
      · exact ⟨[], [], rfl⟩
      · next piece others _ => exact ⟨piece, others, rfl⟩
    rw [hsegments, List.head?_cons] at hfirst
    rw [hsegments, List.filterMap_eq_nil_iff] at hinner
    have hshown := hinner _ List.mem_cons_self
    rw [Component.ofSegment?] at hshown
    split at hshown
    · next hnone =>
      rcases hnone with hempty | hdot
      · cases hempty
      · exact hfirst (by rw [hdot])
    · split at hshown <;> cases hshown

theorem proper_names_of_components_root (h : p.components = [.root]) :
    p.isAbsolute = true ∧ proper p.names = [] := by
  have habsolute : p.isAbsolute = true :=
    root_mem_components_iff.mp (by rw [h]; exact List.mem_cons_self)
  rw [components_eq, leading, if_pos habsolute, List.singleton_append, List.cons.injEq,
    inner_eq, List.map_eq_nil_iff] at h
  exact ⟨habsolute, h.2⟩

end Path

namespace Workspace

variable {ws left made : Workspace} {p : Path} {above : List Path}

/-- A path leads to a directory. One without any name stands for the working directory or for the
root, and those are there. -/
def HoldsDirectory (ws : Workspace) (p : Path) : Prop :=
  ∃ n loc, Route ws.tree true mostLinks (start ws.here p) p.names n loc ∧
    (p.names ≠ [] → ws.tree.IsDirectory loc)

theorem holdsDirectory_of_find {loc : Location} (h : ws.find true p = .ok (loc, .directory)) :
    ws.HoldsDirectory p := by
  obtain ⟨n, hroute⟩ := route_names_of_find h
  exact ⟨n, loc, hroute, fun _ => get?_of_find h⟩

theorem holdsDirectory_of_isDirectory (h : ws.isDirectory p = true) : ws.HoldsDirectory p := by
  unfold isDirectory at h
  split at h
  · next loc hfind => exact holdsDirectory_of_find hfind
  · cases h

theorem holdsDirectory_of_makeDirectory (h : ws.makeDirectory p = .ok made) :
    made.HoldsDirectory p := by
  obtain ⟨⟨hnul, -⟩, directory, name, hresolve, rfl⟩ := makeDirectory_eq_ok h
  obtain ⟨-, hfollow⟩ := resolve_eq_ok_iff.mp hresolve
  rw [p.steps_trimmed] at hfollow
  obtain ⟨⟨hlooks, hfree⟩, hlast⟩ := vacant_of_follow hfollow
  have hmem := List.mem_of_getLast? hlast
  have hname := Path.isName_of_mem_names hnul hmem hlooks.ne_current hlooks.ne_parent hlooks.size_le
  have hthere : (ws.tree.add directory name .directory).get? (directory ++ [name]) =
      some .directory := get?_add_self hlooks.isDirectory hfree hname
  rw [start_eq (p.isAbsolute_trimmed (List.ne_nil_of_mem hmem))] at hfollow
  obtain ⟨n, hroute⟩ := route_of_follow (follow_of_vacant (partOf_add hfree .directory) hthere
    hfollow)
  exact ⟨n, _, hroute, fun _ => hthere⟩

theorem holdsDirectory_of_ensureDirectories
    (h : ensureDirectories (p :: above) ws = (.ok (), left)) : left.HoldsDirectory p := by
  -- A directory that cannot be made has to be there when that is no fault.
  have hsettle : ∀ fault (start : Workspace),
      (if fault = Fault.alreadyExists ∧ start.isDirectory p then
        ((.ok (), start) : Changed) else (.error fault, start)) = (.ok (), left) →
      left.HoldsDirectory p := by
    intro fault start hsettled
    split at hsettled
    · next hthere =>
      cases hsettled
      exact holdsDirectory_of_isDirectory hthere.2
    · cases hsettled
  unfold ensureDirectories at h
  dsimp only at h
  split at h
  · next made hmade =>
    cases h
    exact holdsDirectory_of_makeDirectory hmade
  · split at h
    · cases h
    · split at h
      · next made hmade =>
        cases h
        exact holdsDirectory_of_makeDirectory hmade
      · exact hsettle _ _ h
  · exact hsettle _ _ h

theorem holdsDirectory_of_createDirectories (h : ws.createDirectories p = (.ok (), left)) :
    left.HoldsDirectory p := by
  unfold createDirectories at h
  split at h
  · next hcomponents =>
    cases h
    rcases hcomponents with hnone | hroot
    · rw [HoldsDirectory, Path.names_of_components_nil hnone]
      exact ⟨mostLinks, _, .nil _ _, fun hnot => absurd rfl hnot⟩
    · obtain ⟨habsolute, hnames⟩ := Path.proper_names_of_components_root hroot
      have hstart : start ws.here p = [] := if_pos habsolute
      refine ⟨mostLinks, [], ?_, fun _ => ws.tree.isDirectory_root⟩
      rw [hstart]
      exact route_of_proper_nil ws.tree.isDirectory_root hnames
  · exact holdsDirectory_of_ensureDirectories h

end Workspace

end GoldenSuite
