import GoldenSuite.Glob.Matching

/-!
# Compiling glob patterns

Before anything is matched, a pattern is written as a regular expression, and that is compiled.
The compiler refuses an expression that is nested too deeply and one whose automaton would take
up too much memory. A sequence or a choice of several parts, a group, a repetition and a class
are one level of nesting each, and the members of a class are one more when there are several.
The automaton is reckoned state by state, as it is built before any parts of it are shared.
-/

namespace GoldenSuite.Glob

/-- The number of levels that a regular expression may have. -/
def mostLevels : Nat := 250

/-- The number of bytes that an automaton may take up. -/
def mostMemory : Nat := 10 * Nat.pow 2 20

/-! ### Levels -/

/-- Several parts are a level of their own. -/
def levelOf (parts : Nat) : Nat :=
  if 2 ≤ parts then 1 else 0

/-- The number of parts that a token is in a sequence: every byte of a character is one, and a
group in which no branch is left is none. -/
def partsOf : Token → Nat
  | .literal c => (Text.encode (String.singleton c)).length
  | .trailingDirectories => 2
  | .alternatives branches => if areVoid branches then 0 else 1
  | _ => 1

/-- The branches of a group that are left once the empty ones are dropped. -/
def remaining (branches : List (List Token)) : List (List Token) :=
  branches.filter fun branch => !isVoid branch

mutual

/-- The levels within a sequence of tokens, apart from its own. -/
def levelsIn : List Token → Nat
  | [] => 0
  | t :: rest => max (levelsOf t) (levelsIn rest)

/-- The levels of a token. -/
def levelsOf : Token → Nat
  | .literal _ | .any => 0
  | .gap | .trailingDirectories => 1
  | .leadingDirectories | .innerDirectories => 4
  | .oneOf _ ranges => 1 + levelOf (ranges.flatMap byteRanges).length
  | .alternatives branches =>
    if areVoid branches then 0
    else 1 + levelOf (remaining branches).length + branchLevels branches

/-- The levels of the deepest branch. -/
def branchLevels : List (List Token) → Nat
  | [] => 0
  | branch :: rest =>
    max (levelOf ((branch.map partsOf).foldr (· + ·) 0) + levelsIn branch) (branchLevels rest)

end

/-! ### Memory -/

/-- The number of bytes of a state. -/
def stateSize : Nat := 32

/-- A state with an edge for any byte, and the one that it leads to. -/
def anySize : Nat := 2 * stateSize + 8

/-- A loop over any bytes. -/
def gapSize : Nat := stateSize + 8 + anySize

/-- A state from which so many ways go, and the one where they meet again. -/
def forkSize (ways : Nat) : Nat := 2 * stateSize + 4 * ways

mutual

/-- The number of bytes that the states of a sequence of tokens take up. -/
def memoryIn : List Token → Nat
  | [] => 0
  | t :: rest => memoryOf t + memoryIn rest

/-- The number of bytes that the states of a token take up. -/
def memoryOf : Token → Nat
  | .literal c => stateSize * (Text.encode (String.singleton c)).length
  | .any => anySize
  | .gap => gapSize
  | .leadingDirectories => 2 * forkSize 2 + 2 * stateSize + gapSize
  | .trailingDirectories => stateSize + gapSize
  | .innerDirectories => forkSize 2 + 3 * stateSize + gapSize
  | .oneOf _ ranges => 2 * stateSize + 8 * (ranges.flatMap byteRanges).length
  | .alternatives branches =>
    (if 2 ≤ (remaining branches).length then forkSize (remaining branches).length else 0) +
      branchMemory branches

/-- The number of bytes that the states of all branches take up. -/
def branchMemory : List (List Token) → Nat
  | [] => 0
  | branch :: rest => memoryIn branch + branchMemory rest

end

/-! ### Patterns -/

/-- The levels of a pattern: it is a sequence with its two ends. -/
def Pattern.levels (p : Pattern) : Nat :=
  1 + levelsIn p.tokens

/-- The memory of a pattern: its tokens, its two ends, and where a match starts and ends. -/
def Pattern.memory (p : Pattern) : Nat :=
  6 * stateSize + memoryIn p.tokens

/-- Whether a pattern can be compiled. -/
def Pattern.Compiles (p : Pattern) : Prop :=
  p.levels ≤ mostLevels ∧ p.memory ≤ mostMemory

instance (p : Pattern) : Decidable p.Compiles :=
  inferInstanceAs (Decidable (_ ∧ _))

end GoldenSuite.Glob
