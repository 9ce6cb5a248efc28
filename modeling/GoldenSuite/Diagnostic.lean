/-!
# Diagnostics

What ends a run: a category, which fixes the exit code, a stable code that scripts can match
on, and a message for the reader. A step that comes to no value stops with an error, or it panics
and nothing that waits for its answer ever goes on.
-/

namespace GoldenSuite

/-- Whose fault it is that a run could not be carried out. -/
inductive Category where
  /-- The inputs that were given. -/
  | input
  /-- The file system. -/
  | system
  /-- A program that was to be run. -/
  | execution
  /-- This library. -/
  | internal
deriving DecidableEq, Repr

namespace Category

/-- The exit code of a run that ends with a diagnostic of this category. -/
def exitCode : Category → Nat
  | .input => 2
  | .system => 3
  | .execution => 4
  | .internal => 5

/-- The name of the category in a diagnostic. -/
def name : Category → String
  | .input => "InputValidationError"
  | .system => "IoSystemError"
  | .execution => "ExecutionError"
  | .internal => "InternalError"

end Category

/-- What ends a run before its summary. -/
structure Diagnostic where
  category : Category
  code : String
  message : String
deriving DecidableEq, Repr

namespace Diagnostic

/-- The exit code is the one of the category. -/
def exitCode (d : Diagnostic) : Nat :=
  d.category.exitCode

/-- The diagnostic in one text, with its category. -/
def text (d : Diagnostic) : String :=
  s!"{d.category.name} [{d.code}] {d.message}"

/-- The line that is printed for the reader. -/
def line (d : Diagnostic) : String :=
  s!"ERROR: [{d.code}] {d.message}"

/-- The line that is printed last, with the exit code. -/
def exitLine (d : Diagnostic) : String :=
  s!"FATAL EXIT CODE: {d.exitCode}"

end Diagnostic

/-! ### Halting -/

@[simp]
theorem mapError_ok {α ε δ : Type} (f : ε → δ) (a : α) :
    (Except.ok a : Except ε α).mapError f = .ok a := rfl

@[simp]
theorem mapError_error {α ε δ : Type} (f : ε → δ) (e : ε) :
    (Except.error e : Except ε α).mapError f = .error (f e) := rfl

/-- Why a step comes to no value. -/
inductive Halt (ε : Type) where
  /-- It stops with an error. -/
  | error (e : ε)
  | panic
deriving DecidableEq, Repr

instance {ε : Type} : Coe ε (Halt ε) := ⟨Halt.error⟩

namespace Halt

variable {ε δ : Type}

/-- A panic stays a panic whatever errors are turned into. -/
def map (f : ε → δ) : Halt ε → Halt δ
  | .error e => .error (f e)
  | .panic => .panic

/-- The exit code of a process that panics. -/
def panicCode : Nat := 101

def exitCode : Halt Diagnostic → Nat
  | .error d => d.exitCode
  | .panic => panicCode

/-- The diagnostic that is printed; there is none for a panic. -/
def diagnostic? : Halt Diagnostic → Option Diagnostic
  | .error d => some d
  | .panic => none

end Halt

end GoldenSuite
