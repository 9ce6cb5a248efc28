import GoldenSuite.Case.Basic
import GoldenSuite.Diagnostic
import GoldenSuite.Journal
import GoldenSuite.Workspace.Basic

/-!
# Discovering the cases

Every directory right below the directory of all cases is a case, also one that a link leads
to. A link that leads nowhere is passed over; one that cannot be followed for another reason is
an error. The cases come in the order of their names.
-/

namespace GoldenSuite

/-- Why the cases could not be listed. -/
structure DiscoveryError where
  path : Path
  fault : Fault
deriving DecidableEq, Repr

namespace DiscoveryError

/-- The wording of an error. -/
def message (e : DiscoveryError) : String :=
  s!"failed to read test root '{e.path.shown}': {e.fault.message}"

/-- The diagnostic that an error ends a run with. -/
def diagnostic (e : DiscoveryError) : Diagnostic :=
  ⟨.system, "IO.CASE_DISCOVERY", e.message⟩

end DiscoveryError

namespace Discovery

/-- The cases among the entries listed in the directory of all cases. An entry need not be a
text: a case is named by what is shown of it. -/
def casesAmong (c : Config) (ws : Workspace) :
    List String → Except DiscoveryError (List TestCase)
  | [] => .ok []
  | entry :: others =>
    let directory := c.testsRoot.join ⟨entry⟩
    match ws.find true directory with
    | .ok (_, .directory) => do
      let name := Octets.toText entry
      pure (TestCase.ofDirectory c name directory :: (← casesAmong c ws others))
    | .ok _ => casesAmong c ws others
    | .error .notFound => casesAmong c ws others
    | .error fault => .error ⟨directory, fault⟩

/-- The cases of a suite, in the order of their names; cases of the same name stay in the order in
which they were listed. -/
def cases (c : Config) (ws : Workspace) : Except DiscoveryError (List TestCase) := do
  match ws.list c.testsRoot with
  | .error fault => throw ⟨c.testsRoot, fault⟩
  | .ok (_, entries) =>
    let found ← casesAmong c ws entries
    pure (found.mergeSort fun a b => decide (a.name ≤ b.name))

/-! ### Notes -/

/-- The notes on the links among the entries that lead nowhere, up to the first entry that cannot
be followed. -/
def danglingRemarks (c : Config) (ws : Workspace) : List String → List Note
  | [] => []
  | entry :: others =>
    let directory := c.testsRoot.join ⟨entry⟩
    match ws.find true directory with
    | .ok _ => danglingRemarks c ws others
    | .error .notFound =>
      Part.discovery.debug ["path"] s!"skipping dangling symlink: {directory.shown}" ::
        danglingRemarks c ws others
    | .error _ => []

/-- The notes made while the cases are listed. -/
def remarks (c : Config) (ws : Workspace) : List Note :=
  match ws.list c.testsRoot with
  | .error _ => []
  | .ok (_, entries) =>
    danglingRemarks c ws entries ++
      match casesAmong c ws entries with
      | .error _ => []
      | .ok found => [Part.discovery.debug ["count", "root"]
          s!"discovered test cases: {found.length} in {c.testsRoot.shown}"]

end Discovery

end GoldenSuite
