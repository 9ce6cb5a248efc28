import GoldenSuite.Journal.Directive

/-!
# Filters

A filter is a list of directives. Of those that look at a note alone the most specific decides:
the longest name of a part, then the most fields. The others look at what is being done: the
running and judging of a case is an activity with a name, and the note is shown when a directive
on that activity asks for its level.
-/

namespace GoldenSuite.Journal

/-- What decides which notes are shown. -/
structure Filter where
  directives : List Directive
deriving Repr

namespace Filter

/-- The filter that shows the notes a threshold admits. -/
def ofThreshold (threshold : Threshold) : Filter :=
  ⟨[{ threshold }]⟩

/-- Reads directives with commas between them. -/
def ofText? (text : String) : Option Filter := do
  let pieces := (text.splitOn ",").filter (· ≠ "")
  pure ⟨← pieces.mapM Directive.ofText?⟩

/-- The directives without those that a later one with the same key replaces. -/
def effective : List Directive → List Directive
  | [] => []
  | d :: rest =>
    if rest.any fun later => later.key == d.key then effective rest else d :: effective rest

/-! ### Directives on notes -/

/-- Whether a directive that looks at a note alone is about it. -/
def concerns (note : Note) (d : Directive) : Bool :=
  d.isStatic && d.concernsPart note.part.name && d.fields.all fun field => note.carries field.name

/-- How specific a directive is: first the length of the name, then the number of fields. -/
def specificity (d : Directive) : Nat × Nat × String :=
  (d.part.elim 0 (·.length + 1), d.fields.length, ",".intercalate (d.fields.map (·.name)))

/-- Whether the second of two directives goes before the first. -/
def yields (a b : Directive) : Bool :=
  let first := specificity a
  let second := specificity b
  first.1 < second.1 ||
    (first.1 == second.1 &&
      (first.2.1 < second.2.1 || (first.2.1 == second.2.1 && decide (first.2.2 ≤ second.2.2))))

/-- The most specific directive on a note. -/
def decisive? (filter : Filter) (note : Note) : Option Directive :=
  (filter.directives.filter (concerns note)).foldl
    (fun best d =>
      match best with
      | none => some d
      | some b => if yields b d then some d else some b)
    none

/-! ### Directives on activities -/

/-- The name of the activity that the running and judging of a case is. -/
def caseActivity : String := "case"

/-- The name of its only field, the value of which is the name of the case. -/
def caseField : String := "name"

/-- Whether a directive is about the running and judging of cases. -/
def concernsCases (d : Directive) : Bool :=
  d.isDynamic && d.concernsPart Part.suite.name &&
    (d.activity.isNone || d.activity == some caseActivity) &&
    d.fields.all fun field => field.name == caseField

/-- Whether the last value that a directive asks for is the name of a case. -/
def acceptsCase (case : String) (d : Directive) : Bool :=
  let wanted : List Wanted := d.fields.filterMap FieldTest.wanted
  match wanted.getLast? with
  | none => true
  | some .plainValue => false
  | some (.text pattern) => pattern.accepts case

/-- Whether the activity is followed at all: it is an activity of the level `info`, and goes
unseen when no directive admits that level, unless some directive asks for a value. -/
def followsCases (filter : Filter) : Bool :=
  filter.directives.any fun d =>
    decide (d.threshold.Admits .info) || d.fields.any (·.written.isSome)

/-- Whether some directive asks for the notes of a level while a case is run and judged. -/
def admitsDuring (filter : Filter) (case : String) (level : Level) : Bool :=
  filter.followsCases &&
    (effective filter.directives).any fun d =>
      concernsCases d && acceptsCase case d && decide (d.threshold.Admits level)

/-! ### Notes that are shown -/

def Shows (filter : Filter) (note : Note) : Prop :=
  (∃ d ∈ filter.decisive? note, d.threshold.Admits note.level) ∨
    ∃ case ∈ note.case, filter.admitsDuring case note.level = true

instance (filter : Filter) (note : Note) : Decidable (filter.Shows note) :=
  inferInstanceAs (Decidable (_ ∨ _))

/-- The notes that are shown, in their order. -/
def shown (filter : Filter) (notes : List Note) : List Note :=
  notes.filter fun note => decide (filter.Shows note)

end Filter

end GoldenSuite.Journal
