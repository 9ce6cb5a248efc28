import GoldenSuite.Proofs.Workspace.Growing
import Mathlib.Data.List.Induction

/-!
# Files laid out in a tree

Writing files below a place puts each of them where its names say and directories on the way to
it, and leaves everything else. Files that are there already can be written again, and then
nothing is changed.
-/

namespace GoldenSuite.FileTree

variable {t t' : FileTree} {place loc : Location} {files : List (Location × Bytes)}

/-! ### Laying files out -/

/-- What stands at a location when files have been written below a place, given what stood there
before. -/
def laid (place : Location) (files : List (Location × Bytes)) (loc : Location)
    (before : Option Entry) : Option Entry :=
  match files.find? fun file => place ++ file.1 = loc with
  | some file => some (.file file.2)
  | none => if ∃ file ∈ files, loc <+: place ++ file.1 then some .directory else before

theorem laid_of_apart {before : Option Entry} (h : ∀ file ∈ files, ¬ loc <+: place ++ file.1) :
    laid place files loc before = before := by
  have hno : files.find? (fun file => place ++ file.1 = loc) = none := by
    rw [List.find?_eq_none]
    intro file hmem heq
    have hplace : place ++ file.1 = loc := of_decide_eq_true heq
    exact h file hmem (hplace ▸ List.prefix_rfl)
  have hway : ¬ ∃ file ∈ files, loc <+: place ++ file.1 :=
    fun ⟨file, hmem, hunder⟩ => h file hmem hunder
  rw [laid, hno]
  exact if_neg hway

theorem laid_of_ne (before : Option Entry) (h : ∀ file ∈ files, place ++ file.1 ≠ loc) :
    laid place files loc before = some .directory ∨ laid place files loc before = before := by
  have hno : files.find? (fun file => place ++ file.1 = loc) = none := by
    rw [List.find?_eq_none]
    exact fun file hmem heq => h file hmem (of_decide_eq_true heq)
  rw [laid, hno]
  dsimp only
  split
  · exact .inl rfl
  · exact .inr rfl

theorem laid_single (place loc : Location) (inner : Location) (contents : Bytes)
    (before : Option Entry) :
    laid place [(inner, contents)] loc before =
      if loc = place ++ inner then some (.file contents)
      else if loc <+: place ++ inner then some .directory else before := by
  by_cases h : loc = place ++ inner
  · simp [laid, h]
  · simp [laid, h, Ne.symm h]

theorem exists_laid_eq_file {file : Location × Bytes} (h : file ∈ files) (before : Option Entry) :
    ∃ contents, laid place files (place ++ file.1) before = some (.file contents) := by
  unfold laid
  cases hf : files.find? fun other => place ++ other.1 = place ++ file.1 with
  | none => exact absurd (List.find?_eq_none.mp hf file h) (by simp)
  | some other => exact ⟨other.2, rfl⟩

theorem laid_laid (before : Option Entry) :
    laid place files loc (laid place files loc before) = laid place files loc before := by
  unfold laid
  cases files.find? fun file => place ++ file.1 = loc with
  | some file => rfl
  | none =>
    dsimp only
    by_cases hway : ∃ file ∈ files, loc <+: place ++ file.1
    · rw [if_pos hway, if_pos hway]
    · rw [if_neg hway, if_neg hway]

/-! ### Room for files -/

/-- Nothing is in the way of the files: at most another file in the place of each, and nothing
but directories on the way. -/
structure Room (t : FileTree) (place : Location) (files : List (Location × Bytes)) : Prop where
  target : ∀ file ∈ files, ∀ e, t.get? (place ++ file.1) = some e → ∃ contents, e = .file contents
  way : ∀ file ∈ files, ∀ loc e, loc <+: place ++ file.1 → loc ≠ place ++ file.1 →
    t.get? loc = some e → e = .directory

/-- The files are there as they would be written. -/
def Written (t : FileTree) (place : Location) (files : List (Location × Bytes)) : Prop :=
  ∀ loc, laid place files loc (t.get? loc) = t.get? loc

theorem isDirectory_of_above {above : Location} {e : Entry} (h : t.get? loc = some e)
    (habove : above <+: loc) (hne : above ≠ loc) : t.IsDirectory above := by
  obtain ⟨rest, rfl⟩ := habove
  induction rest using List.reverseRecOn generalizing e with
  | nil => exact absurd (List.append_nil above).symm hne
  | append_singleton more last ih =>
    have hdir := isDirectory_dropLast h
    rw [← List.append_assoc, List.dropLast_concat] at hdir
    by_cases hmore : more = []
    · rwa [hmore, List.append_nil] at hdir
    · exact ih hdir (by simpa using hmore)

theorem isDirectory_of_isPrefix {above : Location} (hdir : t.IsDirectory loc) (h : above <+: loc) :
    t.IsDirectory above := by
  by_cases heq : above = loc
  · rw [heq]
    exact hdir
  · exact isDirectory_of_above hdir h heq

theorem Written.room (h : t.Written place files) : t.Room place files where
  target := by
    intro file hmem e he
    obtain ⟨contents, hfile⟩ := exists_laid_eq_file hmem (t.get? (place ++ file.1))
    rw [h, he] at hfile
    exact ⟨contents, Option.some.inj hfile⟩
  way := by
    intro file hmem above e hunder hne he
    obtain ⟨contents, hfile⟩ := exists_laid_eq_file hmem (t.get? (place ++ file.1))
    rw [h] at hfile
    have hdir := isDirectory_of_above hfile hunder hne
    rw [IsDirectory, he] at hdir
    exact Option.some.inj hdir

theorem room_of_free {directory : Location} {inner : String} (hdir : t.IsDirectory directory)
    (hfree : t.get? (directory ++ [inner]) = none) (files : List (Location × Bytes)) :
    t.Room (directory ++ [inner]) files := by
  have hbelow : ∀ loc e, directory ++ [inner] <+: loc → t.get? loc ≠ some e := by
    intro loc e hloc he
    by_cases heq : directory ++ [inner] = loc
    · rw [← heq, hfree] at he
      cases he
    · have habove := isDirectory_of_above he hloc heq
      rw [IsDirectory, hfree] at habove
      cases habove
  refine ⟨fun file _ e he => absurd he (hbelow _ e (List.prefix_append _ _)), ?_⟩
  intro file _ loc e hway _ he
  rcases List.prefix_or_prefix_of_prefix hway (List.prefix_append _ file.1) with hup | hdown
  · have habove : loc <+: directory := by
      refine (List.prefix_concat_iff.mp hup).resolve_left ?_
      rintro rfl
      exact hbelow _ e List.prefix_rfl he
    have hthere := isDirectory_of_isPrefix hdir habove
    rw [IsDirectory, he] at hthere
    exact Option.some.inj hthere
  · exact absurd he (hbelow loc e hdown)

theorem written_of_laid (h : ∀ loc, t'.get? loc = laid place files loc (t.get? loc)) :
    t'.Written place files := by
  intro loc
  rw [h, laid_laid]

/-! ### What stays -/

/-- The directories and the links of the first tree are in the second one too. -/
def Kept (t t' : FileTree) : Prop :=
  ∀ loc e, t.get? loc = some e → (∀ contents, e ≠ .file contents) → t'.get? loc = some e

theorem Kept.refl (t : FileTree) : t.Kept t :=
  fun _ _ he _ => he

theorem Kept.trans {t'' : FileTree} (h : t.Kept t') (h' : t'.Kept t'') : t.Kept t'' :=
  fun loc e he hfile => h' loc e (h loc e he hfile) hfile

theorem kept_of_laid (hroom : t.Room place files)
    (h : ∀ loc, t'.get? loc = laid place files loc (t.get? loc)) : t.Kept t' := by
  intro loc e he hfile
  have hne : ∀ file ∈ files, place ++ file.1 ≠ loc := by
    rintro file hmem rfl
    obtain ⟨contents, rfl⟩ := hroom.target file hmem e he
    exact hfile contents rfl
  rw [h]
  by_cases hway : ∃ file ∈ files, loc <+: place ++ file.1
  · obtain ⟨file, hmem, hunder⟩ := hway
    obtain rfl := hroom.way file hmem loc e hunder (hne file hmem).symm he
    rcases laid_of_ne (t.get? loc) hne with hlaid | hlaid
    · exact hlaid
    · rw [hlaid, he]
  · rw [laid_of_apart fun file hmem hunder => hway ⟨file, hmem, hunder⟩, he]

/-- A way to a directory is one as long as the directories and the links on it stay. -/
theorem Route.of_kept {last : Bool} {n n' : Nat} {here there : Location} {names : List String}
    (hkept : t.Kept t') (h : Route t last n here names n' there) (hend : t.IsDirectory there) :
    Route t' last n here names n' there := by
  have hdir : ∀ {loc}, t.IsDirectory loc → t'.IsDirectory loc :=
    fun hloc => hkept _ _ hloc (by simp)
  have hlooks : ∀ {here name}, t.Looks here name → t'.Looks here name :=
    fun hl => ⟨hdir hl.isDirectory, hl.ne_current, hl.ne_parent, hl.size_le⟩
  induction h with
  | nil n here => exact .nil n here
  | current hd _ ih => exact .current (hdir hd) (ih hend)
  | parent hd _ ih => exact .parent (hdir hd) (ih hend)
  | @down n n' here there name rest e hl he hne hroute ih =>
    -- Gone through is a directory: either more names follow, or it is where the way ends.
    have hfile : ∀ contents, e ≠ .file contents := by
      rintro contents rfl
      have hnotdir : ¬ t.IsDirectory (here ++ [name]) := by
        rw [IsDirectory, he]
        simp
      cases hroute with
      | nil => exact hnotdir hend
      | current hd => exact hnotdir hd
      | parent hd => exact hnotdir hd
      | down hl' => exact hnotdir hl'.isDirectory
      | link hl' => exact hnotdir hl'.isDirectory
      | jump hl' => exact hnotdir hl'.isDirectory
    exact .down (hlooks hl) (hkept _ _ he hfile) hne (ih hend)
  | link hl he hlast => exact .link (hlooks hl) (hkept _ _ he (by simp)) hlast
  | jump hl he hgoes htext _ ih =>
    exact .jump (hlooks hl) (hkept _ _ he (by simp)) hgoes htext (ih hend)

/-! ### Putting a file -/

section
variable {name : String}

theorem children_add_of_ne {t : FileTree} {directory loc : Location} {e : Entry}
    (h : loc ≠ directory) : (t.add directory name e).children loc = t.children loc := by
  unfold add
  split
  · have hne : ¬ (directory ++ [name]).dropLast = loc := by
      rw [List.dropLast_concat]
      exact h.symm
    simp only [children, List.filterMap_cons, if_neg hne]
  · rfl

theorem children_overwrite (t : FileTree) (loc other : Location) (contents : Bytes) :
    (t.overwrite loc contents).children other = t.children other := by
  simp only [children, overwrite, List.filterMap_map]
  congr 1
  funext e
  simp only [Function.comp]
  split <;> rfl

/-- Puts a file into a directory, in place of a file of that name. -/
def put (t : FileTree) (directory : Location) (name : String) (contents : Bytes) : FileTree :=
  if t.get? (directory ++ [name]) = none then t.add directory name (.file contents)
  else t.overwrite (directory ++ [name]) contents

theorem get?_put_self {t : FileTree} {directory : Location} {contents : Bytes}
    (hdir : t.IsDirectory directory) (hname : IsName name)
    (hfile : ∀ e, t.get? (directory ++ [name]) = some e → ∃ old, e = .file old) :
    (put t directory name contents).get? (directory ++ [name]) = some (.file contents) := by
  unfold put
  cases he : t.get? (directory ++ [name]) with
  | none => rw [if_pos rfl, get?_add_self hdir he hname]
  | some e =>
    obtain ⟨old, rfl⟩ := hfile e he
    rw [if_neg (by simp), get?_overwrite_self he]

theorem get?_put_of_ne {t : FileTree} {directory loc : Location} {contents : Bytes}
    (h : loc ≠ directory ++ [name]) : (put t directory name contents).get? loc = t.get? loc := by
  unfold put
  split
  · exact get?_add_of_ne h
  · exact get?_overwrite_of_ne h

theorem children_put_of_ne {t : FileTree} {directory loc : Location} {contents : Bytes}
    (h : loc ≠ directory) : (put t directory name contents).children loc = t.children loc := by
  unfold put
  split
  · exact children_add_of_ne h
  · exact children_overwrite ..

theorem get?_put_add {t : FileTree} {directory : Location} {inner : String} {contents : Bytes}
    (hdir : t.IsDirectory directory) (hinner : IsName inner) (hname : IsName name)
    (hroom : t.Room (directory ++ [inner]) [([name], contents)]) (loc : Location) :
    (put (t.add directory inner .directory) (directory ++ [inner]) name contents).get? loc =
      laid (directory ++ [inner]) [([name], contents)] loc (t.get? loc) := by
  have hmade : (t.add directory inner .directory).IsDirectory (directory ++ [inner]) := by
    cases he : t.get? (directory ++ [inner]) with
    | none => exact get?_add_self hdir he hinner
    | some e =>
      obtain rfl := hroom.way ([name], contents) (by simp) _ e (List.prefix_append _ _)
        (by simp) he
      rcases get?_add_cases t directory inner .directory with hsame | ⟨-, hnew⟩
      · exact hsame.trans he
      · exact hnew
  have hfile : ∀ e, (t.add directory inner .directory).get? (directory ++ [inner] ++ [name]) =
      some e → ∃ old, e = .file old := by
    intro e he
    rw [get?_add_of_ne (by simp)] at he
    exact hroom.target ([name], contents) (by simp) e he
  rw [laid_single]
  by_cases hself : loc = directory ++ [inner] ++ [name]
  · rw [if_pos hself, hself, get?_put_self hmade hname hfile]
  · rw [if_neg hself, get?_put_of_ne hself]
    by_cases hplace : loc = directory ++ [inner]
    · rw [if_pos (hplace ▸ List.prefix_append _ _), hplace]
      exact hmade
    · rw [get?_add_of_ne hplace]
      by_cases hway : loc <+: directory ++ [inner] ++ [name]
      · rw [if_pos hway]
        have habove : loc <+: directory := by
          have hout := (List.prefix_concat_iff.mp hway).resolve_left hself
          exact (List.prefix_concat_iff.mp hout).resolve_left hplace
        exact isDirectory_of_isPrefix hdir habove
      · rw [if_neg hway]

end

end GoldenSuite.FileTree
