import GoldenSuite.Child.Command
import GoldenSuite.Journal
import GoldenSuite.Workspace.Basic

/-!
# Sessions

The steps of a run act on a session: the files they find and change, the commands they hand to
the operating system, and the notes they make. A step that stops with an error leaves the
session as it was at that point; nothing is taken back.
-/

namespace GoldenSuite

/-- What the steps of a run act on. -/
structure Session where
  workspace : Workspace
  /-- The commands that were handed to the operating system, in their order. -/
  commands : List Child.Command := []
  /-- What was noted, in its order. -/
  notes : List Note := []

/-- A step that yields a value or stops with an error, and acts on a session. -/
abbrev Act (ε α : Type) := EStateM ε Session α

namespace Act

variable {ε α : Type}

/-- Makes notes. -/
def remark (notes : List Note) : Act ε Unit :=
  modify fun s => { s with notes := s.notes ++ notes }

/-- Makes one note. -/
def note (n : Note) : Act ε Unit :=
  remark [n]

/-- Makes the notes that the files give rise to. -/
def remarkOn (remarks : Workspace → List Note) : Act ε Unit :=
  modify fun s => { s with notes := s.notes ++ remarks s.workspace }

/-- Looks at the files without changing them. -/
def look (question : Workspace → Except ε α) : Act ε α := fun s =>
  match question s.workspace with
  | .ok a => .ok a s
  | .error e => .error e s

/-- Changes the files, also when the change stops half way. -/
def change (f : Workspace → Except ε α × Workspace) : Act ε α := fun s =>
  let (answer, workspace) := f s.workspace
  match answer with
  | .ok a => .ok a { s with workspace }
  | .error e => .error e { s with workspace }

/-- The commands that were handed over so far. -/
def handed : Act ε (List Child.Command) := fun s =>
  .ok s.commands s

/-- Hands a command to the operating system. -/
def record (command : Child.Command) : Act ε Unit :=
  modify fun s => { s with commands := s.commands ++ [command] }

/-- Lets a step stop with an error of another kind. -/
def within {ε' : Type} (wrap : ε → ε') (act : Act ε α) : Act ε' α :=
  EStateM.adaptExcept wrap act

/-- The answer of a step and the session that it leaves. -/
def perform (act : Act ε α) (s : Session) : Except ε α × Session :=
  match act.run s with
  | .ok a left => (.ok a, left)
  | .error e left => (.error e, left)

theorem perform_look (question : Workspace → Except ε α) (s : Session) :
    (look question).perform s = (question s.workspace, s) := by
  unfold perform look EStateM.run
  cases h : question s.workspace <;> simp [h]

theorem perform_change (f : Workspace → Except ε α × Workspace) (s : Session) :
    (change f).perform s = ((f s.workspace).1, { s with workspace := (f s.workspace).2 }) := by
  unfold perform change EStateM.run
  cases h : (f s.workspace).1 <;> simp [h]

end Act

end GoldenSuite
