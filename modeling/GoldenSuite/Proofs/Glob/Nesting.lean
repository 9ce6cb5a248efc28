import GoldenSuite.Glob.Compiling

/-!
# Groups within groups

A letter in so many groups of one branch each is a pattern, since reading has no limit of its
own. Every group is a level of the regular expression, so from some depth on the pattern does not
compile.
-/

namespace GoldenSuite.Glob

/-- A letter in so many groups. -/
def nested (depth : Nat) : String :=
  String.ofList (List.replicate depth '\x7b' ++ 'a' :: List.replicate depth '\x7d')

/-- A level at which nothing has been read. -/
def Level.bare : Level := ⟨[], []⟩

end GoldenSuite.Glob
