import GoldenSuite.Shell.Builtin
import GoldenSuite.Shell.Redirecting

/-!
# The words of simple commands

The first field of the words of a simple command names what is run. Words are expanded one after
the other until there is a field; what it names decides how the other words are expanded.
`command` stands before a name that must not be that of a function.
-/

namespace GoldenSuite.Shell

/-- Words some of which have been expanded. -/
structure Fields where
  /-- The fields so far. -/
  found : List String := []
  /-- How many of them come before the name of what is run. -/
  skipped : Nat := 0
  /-- The words that have not been expanded yet. -/
  left : List Word := []

/-- What the words of a simple command ask for. -/
structure Heading where
  fields : Fields
  /-- Whether the name must not be that of a function. -/
  direct : Bool := false
  /-- Whether programs are looked for in the usual directories. -/
  usualPath : Bool := false
  /-- Whether an error ends the script. -/
  special : Bool := false
  /-- Whether assignments before the command last only as long as it runs. -/
  temporary : Bool := false
  /-- Whether the redirections of the command are to last. -/
  lasting : Bool := false

namespace Fields

/-- The name of what is run. -/
def name? (f : Fields) : Option String :=
  f.found[f.skipped]?

/-- Expands words until there is another field. -/
def fill (capture : Capture) (f : Fields) : List Word → Run Fields
  | [] => pure { f with left := [] }
  | word :: others => do
    match ← word.fields capture with
    | [] => fill capture f others
    | fields => pure { f with found := f.found ++ fields, left := others }

/-- Goes on to the next field. -/
def next (capture : Capture) (f : Fields) : Run Fields := do
  let f := { f with skipped := f.skipped + 1 }
  if f.name?.isSome then pure f else f.fill capture f.left

/-- Expands the rest of the words; one that looks like an assignment may be expanded as such. -/
def finish (capture : Capture) (assigning : Bool) (f : Fields) : Run Fields := do
  let more ← f.left.mapM fun word => do
    if assigning && word.isAssignment then return [← word.assignmentText capture]
    else word.fields capture
  pure { f with found := f.found ++ more.flatten, left := [] }

/-- Passes over the options of `command`: the fields from the next name on and whether the usual
directories are asked for. Nothing when there is no name or an option asks for something else. At
most `fuel` fields are looked at. -/
def afterOptions (capture : Capture) (usualPath : Bool) :
    Nat → Fields → Run (Fields × Option Bool)
  | 0, f => pure (f, none)
  | fuel + 1, f => do
    let f ← f.next capture
    match f.name?.map String.toList with
    | none => pure (f, none)
    | some ['-', '-'] => do
      let f ← f.next capture
      pure (f, if f.name?.isSome then some usualPath else none)
    | some ('-' :: letter :: letters) =>
      if (letter :: letters).all (· = 'p') then afterOptions capture true fuel f
      else pure (f, none)
    | some _ => pure (f, some usualPath)

end Fields

namespace Heading

/-- Goes through the names of commands of the shell at the start; at most `fuel` of them are
looked at. `first` says that none has been seen yet. -/
def resolve (capture : Capture) (first : Bool) : Nat → Heading → Run (Heading × Bool)
  | 0, h => pure (h, false)
  | fuel + 1, h => do
    match h.fields.name? with
    | none => pure (h, false)
    | some name =>
      let isFunction := (← Run.process).functions.any fun entry => entry.1 = name
      if (isFunction && !h.direct) || !Builtin.isKnown name then
        pure ({ h with temporary := true }, false)
      else
        let h := if first then
            let special := name ∈ specialCommands
            { h with special, temporary := !special }
          else { h with temporary := true }
        if name ≠ "command" then
          pure ({ h with lasting := name = "exec" }, name ∈ Builtin.assigning)
        else
          let before := h.fields
          match ← before.afterOptions capture h.usualPath Run.plenty with
          | (fields, some usualPath) =>
            resolve capture false fuel { h with fields, usualPath, direct := true }
          | (fields, none) =>
            pure ({ h with fields := { fields with skipped := before.skipped } }, false)

/-- What the words of a simple command ask for. -/
def ofWords (capture : Capture) (words : List Word) : Run Heading := do
  let fields ← Fields.fill capture {} words
  let (h, assigning) ← resolve capture true Run.plenty { fields }
  return { h with fields := ← h.fields.finish capture assigning }

/-- The name of what is run and its arguments. -/
def command (h : Heading) : List String :=
  h.fields.found.drop h.fields.skipped

end Heading

end GoldenSuite.Shell
