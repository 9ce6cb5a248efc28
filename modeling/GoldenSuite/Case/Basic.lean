import GoldenSuite.Config.Basic

/-!
# Cases

A case is a directory with an input for the simulator, a place for its output and the golden
files that the output has to agree with.
-/

namespace GoldenSuite

/-- A case of a suite. -/
structure TestCase where
  name : String
  directory : Path
  input : Path
  output : Path
  expected : Path
deriving DecidableEq, Repr

namespace TestCase

def ofDirectory (c : Config) (name : String) (directory : Path) : TestCase where
  name := name
  directory := directory
  input := directory.join c.caseInputDir
  output := directory.join c.caseOutputDir
  expected := directory.join c.caseExpectedDir

/-- The case of an entry of the directory of all cases: its name is that of the entry as it is
shown. -/
def named (c : Config) (entry : String) : TestCase :=
  ofDirectory c (Octets.toText entry) (c.testsRoot.join ⟨entry⟩)

end TestCase

end GoldenSuite
