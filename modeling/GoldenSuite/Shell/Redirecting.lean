import GoldenSuite.Shell.Access
import GoldenSuite.Shell.Expansion

/-!
# Redirections

A redirection lets a descriptor lead to a file, to a document of the script or to where another
descriptor leads. The words of all redirections of a command are expanded first; then they are
carried out one after the other, up to the first one that is not possible. Afterwards the
descriptors lead to where they led before.
-/

namespace GoldenSuite.Shell

/-- A redirection whose word has been expanded. -/
inductive Redirect where
  | file (descriptor : Nat) (opening : Opening) (path : String)
  /-- To where another descriptor leads; without one the descriptor is closed. -/
  | duplicate (descriptor : Nat) (source : Option Nat)
  | document (descriptor number : Nat)
deriving DecidableEq, Repr

namespace Redirect

def descriptor : Redirect → Nat
  | file descriptor _ _ => descriptor
  | duplicate descriptor _ => descriptor
  | document descriptor _ => descriptor

end Redirect

/-- Why a path cannot be opened; `creating` says whether it was to be made. -/
def openWording (creating : Bool) : Fault → String
  | .notFound => if creating then "Directory nonexistent" else "No such file"
  | .notADirectory => if creating then "Directory nonexistent" else "No such file"
  | fault => fault.plain

namespace Run

/-- Says that a path cannot be opened. -/
def cannotOpen {α : Type} (creating : Bool) (path : String) (fault : Fault) : Run α := do
  let verb := if creating then "create" else "open"
  giveUp s!"cannot {verb} {path}: {openWording creating fault}"

/-- Opens a path where no file must be overwritten. -/
def openCarefully (path : String) : Run (Except Fault Nat) := do
  match (← get).kindAt true path with
  | .error _ => openPath .making path
  | .ok (_, .regular) => pure (.error .alreadyExists)
  | .ok _ => do
    match ← openPath { writes := true } path with
    | .ok number => pure (.ok number)
    | .error fault => cannotOpen false path fault

def openRedirected (opening : Opening) (path : String) : Run Nat := do
  let careful := (← get).has .noclobber && opening = .output
  match ← if careful then openCarefully path else openPath (.ofOpening opening) path with
  | .ok number => pure number
  | .error fault => cannotOpen (opening ≠ .input) path fault

/-- Opens a stream from which a text can be read. -/
def openText (text : Bytes) : Run Nat := do
  let pipe ← openPipe { front := text }
  openStream { place := .pipe pipe, readable := true, writable := false }

/-- Expands the word of a redirection. -/
def expandRedirection (capture : Capture) : Redirection → Run Redirect
  | .file descriptor opening path => do
    return .file descriptor opening (← Word.text capture path)
  | .document descriptor number => pure (.document descriptor number)
  | .duplicate descriptor word => do
    match (← Word.text capture word).toList with
    | ['-'] => pure (.duplicate descriptor none)
    | [digit] =>
      if digit.isDigit then pure (.duplicate descriptor (some (digit.toNat - '0'.toNat)))
      else giveUp "Syntax error: Bad fd number"
    | _ => giveUp "Syntax error: Bad fd number"

/-- Carries out a redirection. -/
def redirect (capture : Capture) : Redirect → Run Unit
  | .file descriptor opening path => do
    connect descriptor (some (← openRedirected opening path))
  | .duplicate descriptor none => connect descriptor none
  | .duplicate descriptor (some source) => do
    if descriptor ≠ source then
      match (← process).descriptors.lookup source with
      | some stream => connect descriptor (some stream)
      | none => giveUp s!"{source}: {badDescriptor.plain}"
  | .document descriptor number => do
    let documents := (← process).documents
    let parts := match documents.find? fun document => document.number = number with
      | some document => document.parts
      | none => []
    let text ← Word.documentText capture parts
    connect descriptor (some (← openText (Octets.toBytes text)))

/-- Carries out redirections that are taken back later. A descriptor that is to lead to where
another one leads is put aside first, so that nothing can be said there about a bad one. -/
def redirectAll (capture : Capture) (seen : List Nat) : List Redirect → Run Unit
  | [] => pure ()
  | r :: others => do
    match r with
    | .duplicate descriptor (some source) =>
      if descriptor ≠ source && descriptor ∉ seen then connect descriptor none
    | _ => pure ()
    redirect capture r
    redirectAll capture (r.descriptor :: seen) others

end Run

end GoldenSuite.Shell
