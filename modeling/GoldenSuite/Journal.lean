/-!
# Notes on a run

While it works a run notes what it does. Each note has a level, comes from a part of the
program and carries some named values; a note that is made while a case is run and judged knows
that case. Which notes are shown to the reader is decided elsewhere.
-/

namespace GoldenSuite

/-! ### Levels -/

/-- How important a note is. -/
inductive Level where
  | debug
  | info
  | warn
deriving DecidableEq, Repr

def Level.name : Level → String
  | .debug => "DEBUG"
  | .info => "INFO"
  | .warn => "WARN"

/-- Levels in the order of their importance. -/
def Level.rank : Level → Nat
  | .debug => 2
  | .info => 3
  | .warn => 4

/-- The least rank of the notes that are shown. -/
structure Threshold where
  rank : Nat
deriving DecidableEq, Repr

namespace Threshold

/-- Shows no note at all. -/
def silent : Threshold := ⟨6⟩

/-- Shows what went wrong, which is never said in a note. -/
def errors : Threshold := ⟨5⟩

/-- Shows everything. -/
def everything : Threshold := ⟨1⟩

/-- Shows the notes from this level on. -/
def ofLevel (level : Level) : Threshold :=
  ⟨level.rank⟩

/-- Shows warnings, with one request for more also what is being done, with two or more
everything. -/
def ofRequests : Nat → Threshold
  | 0 => .ofLevel .warn
  | 1 => .ofLevel .info
  | _ => .ofLevel .debug

/-- Whether notes of a level are shown. -/
def Admits (threshold : Threshold) (level : Level) : Prop :=
  threshold.rank ≤ level.rank

instance (threshold : Threshold) (level : Level) : Decidable (threshold.Admits level) :=
  inferInstanceAs (Decidable (threshold.rank ≤ level.rank))

end Threshold

/-! ### Notes -/

/-- A part of the program that makes notes. -/
inductive Part where
  /-- The search for the configuration. -/
  | settings
  | commandLine
  | suite
  | build
  | discovery
  | execution
  | comparison
  | child
  | console
deriving DecidableEq, Repr

/-- The name under which the notes of a part can be asked for. -/
def Part.name : Part → String
  | .settings => "simcheck::cli::helpers"
  | .commandLine => "simcheck::cli::commands"
  | .suite => "simcheck_core::driver"
  | .build => "simcheck_core::builder"
  | .discovery => "simcheck_core::discovery"
  | .execution => "simcheck_core::executor"
  | .comparison => "simcheck_core::comparator"
  | .child => "simcheck_core::process"
  | .console => "simcheck_core::report"

/-- Something that a run noted. -/
structure Note where
  level : Level
  part : Part
  /-- The names of the values that it carries besides its message. -/
  fields : List String
  message : String
  /-- The name of the case that was being run or judged. -/
  case : Option String := none
deriving DecidableEq, Repr

namespace Note

def line (note : Note) : String :=
  s!"{note.level.name} {note.message}"

/-- Whether a note carries a value with this name. -/
def carries (note : Note) (name : String) : Bool :=
  name == "message" || note.fields.contains name

/-- A note that was made while a case was run or judged. -/
def during (case : String) (note : Note) : Note :=
  { note with case := some case }

end Note

/-- Makes a note for one part of the program. -/
abbrev Noting := List String → String → Note

namespace Part

/-- A note on a detail. -/
def debug (part : Part) : Noting := fun fields message => ⟨.debug, part, fields, message, none⟩

/-- A note on what is being done. -/
def info (part : Part) : Noting := fun fields message => ⟨.info, part, fields, message, none⟩

/-- A note on something that may be amiss. -/
def warn (part : Part) : Noting := fun fields message => ⟨.warn, part, fields, message, none⟩

end Part

end GoldenSuite
