import GoldenSuite.Text.Octets

/-!
# Paths

A path is a text whose names are separated by slashes, and like the names of files it need not
be UTF-8: the characters of its text stand for bytes. It is kept as it was written: joining paths
never changes them. Its components are the reading that comparisons and checks use: repeated
separators, `.` components and a separator at the end do not show in them.
-/

namespace GoldenSuite

/-- A path as it was written, as a string whose characters stand for bytes. -/
structure Path where
  text : String
deriving DecidableEq, Repr, Inhabited

namespace Path

/-- The path that a text names. -/
def ofText (text : String) : Path :=
  ⟨Octets.ofText text⟩

/-- A path as it is shown. -/
def shown (p : Path) : String :=
  Octets.toText p.text

def chars (p : Path) : List Char :=
  p.text.toList

/-! ### Joining -/

/-- Whether a path starts at the root. -/
def isAbsolute (p : Path) : Bool :=
  p.chars.head? == some '/'

/-- Whether the last character of a path is a separator. -/
def endsInSeparator (p : Path) : Bool :=
  p.chars.getLast? == some '/'

/-- The path itself, with a separator at its end. -/
def withSeparator (p : Path) : Path :=
  if p.endsInSeparator then p else ⟨p.text ++ "/"⟩

/-- The second path as seen from the first: an absolute one stands for itself, any other is
written behind the first with one separator between them, unless the first is empty or brings
the separator along. -/
def join (base p : Path) : Path :=
  if p.isAbsolute then p
  else if base.text = "" then p
  else ⟨base.withSeparator.text ++ p.text⟩

theorem join_of_isAbsolute {base p : Path} (h : p.isAbsolute = true) : base.join p = p := by
  simp [join, h]

theorem withSeparator_of_endsInSeparator {p : Path} (h : p.endsInSeparator = true) :
    p.withSeparator = p := by
  simp [withSeparator, h]

theorem endsInSeparator_withSeparator (p : Path) : p.withSeparator.endsInSeparator = true := by
  unfold withSeparator
  split
  · assumption
  · simp [endsInSeparator, chars]

/-! ### Components -/

/-- One step of a path. -/
inductive Component where
  /-- The root of an absolute path. -/
  | root
  /-- A `.` at the start of a relative path. -/
  | current
  /-- A `..`. -/
  | parent
  | normal (name : String)
deriving DecidableEq, Repr

/-- The pieces of a text between its slashes: one more than there are slashes. -/
def segments : List Char → List (List Char)
  | [] => [[]]
  | c :: rest =>
    if c = '/' then [] :: segments rest
    else match segments rest with
      | [] => [[c]]
      | first :: others => (c :: first) :: others

/-- What a piece between two slashes stands for: nothing when it is empty or `.`. -/
def Component.ofSegment? (segment : List Char) : Option Component :=
  if segment = [] ∨ segment = ['.'] then none
  else if segment = ['.', '.'] then some .parent
  else some (.normal (String.ofList segment))

/-- What stands at the start of a path: its root, or a `.` that is its first piece. -/
def leading (p : Path) : List Component :=
  if p.isAbsolute then [.root]
  else if (segments p.chars).head? == some ['.'] then [.current]
  else []

def components (p : Path) : List Component :=
  p.leading ++ (segments p.chars).filterMap Component.ofSegment?

theorem segments_ne_nil (cs : List Char) : segments cs ≠ [] := by
  cases cs with
  | nil => simp [segments]
  | cons c rest =>
    rw [segments]
    split
    · simp
    · split <;> simp

/-- No piece holds a slash. -/
theorem slash_not_mem_of_mem_segments {cs s : List Char} (h : s ∈ segments cs) : '/' ∉ s := by
  induction cs generalizing s with
  | nil =>
    simp only [segments, List.mem_singleton] at h
    simp [h]
  | cons c rest ih =>
    rw [segments] at h
    split at h
    · rcases List.mem_cons.mp h with rfl | h
      · simp
      · exact ih h
    · next hc =>
      split at h
      · rw [List.mem_singleton] at h
        subst h
        simp only [List.mem_singleton]
        exact fun he => hc he.symm
      · next first others hs =>
        rcases List.mem_cons.mp h with rfl | h
        · simp only [List.mem_cons, not_or]
          exact ⟨fun he => hc he.symm, ih (by simp [hs])⟩
        · exact ih (by simp [hs, h])

/-! ### Order -/

/-- The root comes first, then `.`, then `..`, then the names by their characters, which stand for
bytes. -/
def Component.key : Component → Nat × String
  | .root => (0, "")
  | .current => (1, "")
  | .parent => (2, "")
  | .normal name => (3, name)

/-- Compares two components. -/
def Component.compare (a b : Component) : Ordering :=
  (Ord.compare a.key.1 b.key.1).then (Ord.compare a.key.2 b.key.2)

/-- Compares two paths component by component; a path comes before those that go on from it. -/
def compareComponents : List Component → List Component → Ordering
  | [], [] => .eq
  | [], _ :: _ => .lt
  | _ :: _, [] => .gt
  | a :: as, b :: bs => (a.compare b).then (compareComponents as bs)

/-- Whether the first path comes no later than the second. -/
def precedes (a b : Path) : Bool :=
  (compareComponents a.components b.components).isLE

/-! ### Names -/

/-- The names of a path, among them `.` and `..`, without the separators. -/
def names (p : Path) : List String :=
  ((segments p.chars).filter fun segment => segment ≠ []).map String.ofList

/-- The steps in which a path is followed: its names, and a `.` at the end when it ends in a
separator, because such a path can only lead to a directory. -/
def steps (p : Path) : List String :=
  if p.endsInSeparator ∧ p.names ≠ [] then p.names ++ ["."] else p.names

/-! ### Ancestors -/

/-- Whether a piece at this index shows among the components. -/
def counts (index : Nat) (segment : List Char) : Bool :=
  (Component.ofSegment? segment).isSome || (index == 0 && segment == ['.'])

/-- The numbered pieces of a path, last first. -/
def pieces (p : Path) : List (List Char × Nat) :=
  (segments p.chars).zipIdx.reverse

/-- The paths that numbered pieces, last first, lead through: one for every piece that shows
among the components, the longest first. -/
def through : List (List Char × Nat) → List Path
  | [] => []
  | piece :: rest =>
    if counts piece.2 piece.1 then
      ⟨String.ofList (List.intercalate ['/'] ((piece :: rest).reverse.map (·.1)))⟩ :: through rest
    else through rest

/-- The paths without the last component, without the last two, and so on, as long as they have
a name left. -/
def ancestors (p : Path) : List Path :=
  (through p.pieces).tail

example : (Path.mk "a/./b").ancestors = [⟨"a"⟩] := by decide +kernel
example : (Path.mk "./bin/").ancestors = [⟨"."⟩] := by decide +kernel
example : (Path.mk "/a//b/.").ancestors = [⟨"/a"⟩] := by decide +kernel
example : (Path.mk "/").ancestors = [] := by decide +kernel
example : (Path.mk "a/").steps = ["a", "."] := by decide +kernel
example : (Path.mk "/a//b/./").components = [.root, .normal "a", .normal "b"] := by decide +kernel

end Path

end GoldenSuite
