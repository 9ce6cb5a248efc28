import GoldenSuite.Proofs.Workspace.Finding

/-!
# Paths in normal form

A path can be tidied without looking at any files: `.` is dropped, and `..` takes the name before
it away. In a tree without links a path leads where its tidied names say.
-/

namespace GoldenSuite

open FileTree

namespace Path

/-- Goes on by one name from names that are tidied. Above the root is the root again, and a
relative path keeps what leads above its start. -/
def goOn (absolute : Bool) (done : List String) (name : String) : List String :=
  if name = "." then done
  else if name ≠ ".." then done ++ [name]
  else if absolute ∨ (done ≠ [] ∧ done.getLast? ≠ some "..") then done.dropLast
  else done ++ [".."]

/-- A path that is tidied. -/
structure Normal where
  absolute : Bool
  names : List String
deriving DecidableEq, Repr

def normal (p : Path) : Normal :=
  ⟨p.isAbsolute, p.names.foldl (goOn p.isAbsolute) []⟩

example : (Path.mk "a/./b//../c/").normal = ⟨false, ["a", "c"]⟩ := by decide +kernel
example : (Path.mk "../../a/../..").normal = ⟨false, ["..", "..", ".."]⟩ := by decide +kernel

/-- One tidied path lies below another, and is not the other. -/
structure Normal.StrictlyBelow (q base : Normal) : Prop where
  absolute_eq : q.absolute = base.absolute
  names_eq : ∃ inner, inner ≠ [] ∧ ".." ∉ inner ∧ q.names = base.names ++ inner

theorem goOn_current (absolute : Bool) (done : List String) : goOn absolute done "." = done := rfl

theorem goOn_parent (done : List String) : goOn true done ".." = done.dropLast := by
  simp [goOn]

theorem goOn_name {name : String} (hcurrent : name ≠ ".") (hparent : name ≠ "..")
    (absolute : Bool) (done : List String) : goOn absolute done name = done ++ [name] := by
  rw [goOn, if_neg hcurrent, if_pos hparent]

theorem foldl_goOn {names : List String} (hup : ".." ∉ names) (absolute : Bool)
    (done : List String) : names.foldl (goOn absolute) done = done ++ proper names := by
  induction names generalizing done with
  | nil => simp [proper]
  | cons name rest ih =>
    rw [List.mem_cons, not_or] at hup
    rw [List.foldl_cons, ih hup.2]
    by_cases hcurrent : name = "."
    · rw [hcurrent, goOn_current, proper_current]
    · rw [goOn_name hcurrent (Ne.symm hup.1), proper_cons hcurrent, List.append_assoc]
      rfl

theorem normal_join {base p : Path} (hrelative : p.isAbsolute = false) (hup : ".." ∉ p.names) :
    (base.join p).normal = ⟨base.isAbsolute, base.normal.names ++ proper p.names⟩ := by
  rw [normal, isAbsolute_join hrelative, names_join hrelative, List.foldl_append, foldl_goOn hup]
  rfl

end Path

/-! ### Trees without links -/

/-- There is no link in the tree. -/
def FileTree.Linkless (t : FileTree) : Prop :=
  ∀ loc target, t.get? loc ≠ some (.link target)

theorem FileTree.Route.eq_foldl {t : FileTree} {last : Bool} {n n' : Nat} {here there : Location}
    {names : List String} (hlinks : t.Linkless) (h : Route t last n here names n' there) :
    there = names.foldl (Path.goOn true) here := by
  induction h with
  | nil => rfl
  | current _ _ ih => rw [ih, List.foldl_cons, Path.goOn_current]
  | parent _ _ ih => rw [ih, List.foldl_cons, Path.goOn_parent]
  | down hlooks _ _ _ ih =>
    rw [ih, List.foldl_cons, Path.goOn_name hlooks.ne_current hlooks.ne_parent]
  | link _ he _ => exact absurd he (hlinks _ _)
  | jump _ he _ _ _ _ => exact absurd he (hlinks _ _)

theorem Workspace.eq_foldl_of_find {ws : Workspace} {p : Path} {loc : Location} {e : Entry}
    (hlinks : ws.tree.Linkless) (h : ws.find true p = .ok (loc, e)) :
    loc = p.names.foldl (Path.goOn true) (start ws.here p) := by
  obtain ⟨n, hroute⟩ := route_names_of_find h
  exact hroute.eq_foldl hlinks

end GoldenSuite
