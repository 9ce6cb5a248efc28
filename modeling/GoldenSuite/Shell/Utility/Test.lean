import GoldenSuite.Shell.Condition
import GoldenSuite.Shell.Conversion
import GoldenSuite.Shell.Mention
import GoldenSuite.Shell.Speech

/-!
# The program for conditions

The program `test` answers conditions like the command of the shell, but reads them by a grammar
of its own: up to four words are read by their number, and more than that as a disjunction of
conjunctions.
-/

namespace GoldenSuite.Shell.Utility

namespace Test

/-- Why a condition has no answer. -/
inductive Problem where
  | missing (last : String)
  | noInteger (text : String)
  | noUnary (word : String)
  | noBinary (word : String)
  /-- A closing parenthesis is missing where there is another word, or none. -/
  | unclosed (found : Option String)
  | noLength (operator : String)
  | extra (word : String)
  | noBracket
deriving DecidableEq, Repr

/-- The wording of a problem. -/
def Problem.message : Problem → String
  | missing last => s!"missing argument after {Mention.quoted last}"
  | noInteger text => s!"invalid integer {Mention.quoted text}"
  | noUnary word => s!"{Mention.quoted word}: unary operator expected"
  | noBinary word => s!"{Mention.quoted word}: binary operator expected"
  | unclosed none => "')' expected"
  | unclosed (some found) => s!"')' expected, found {Mention.quoted found}"
  | noLength operator => s!"{operator} does not accept -l"
  | extra word => s!"extra argument {Mention.quoted word}"
  | noBracket => "missing ']'"

/-- What is known while a condition is read. -/
structure Surroundings where
  machine : Machine
  /-- The last word of the condition. -/
  last : String
  /-- What stands behind the condition. -/
  behind : Option String

/-- An answer and the words after those that it took. -/
abbrev Outcome := Except Problem (Bool × List String)

/-! ### Single conditions -/

/-- The integer that a text shows, with blanks around it. -/
def integer (text : String) : Except Problem Int :=
  let trimmed := text.toList.dropWhile Arithmetic.isSpace
  let trimmed := (trimmed.reverse.dropWhile Arithmetic.isSpace).reverse
  let (negative, digits) := Conversion.takeSign trimmed
  if !digits.isEmpty && digits.all Char.isDigit then
    let size : Int := Arithmetic.digitsValue digits
    .ok (if negative then -size else size)
  else .error (.noInteger text)

/-- Whether a word compares two texts. -/
def isBinary (word : String) : Bool :=
  word ∈ ["=", "!=", "==", "-nt", "-ot", "-ef"] ++ Condition.comparisons.map Prod.fst

/-- Answers a comparison. The length of a text can stand in the place of an integer, behind
`-l`; `long` says that this is so on the left. -/
def binary (s : Surroundings) (long : Bool) (words : List String) : Outcome :=
  let words := if long then words.tail else words
  let left := words.head?.getD ""
  let operator := (words.drop 1).head?.getD ""
  let right := (words.drop 2).head?.getD ""
  let longRight := right = "-l" && 4 ≤ words.length
  let shifted := if longRight then words.tail else words
  let rest := shifted.drop 3
  let size (text : String) : Int := (text.length : Nat)
  match Condition.comparisons.lookup operator with
  | some compare => do
    let a ← if long then pure (size left) else integer left
    let b ← if longRight then pure (size ((words.drop 3).head?.getD "")) else integer right
    pure (compare a b, rest)
  | none =>
    if operator ∈ ["-nt", "-ot", "-ef"] then
      if (long || longRight) && operator ≠ "-ot" then .error (.noLength operator)
      else match Condition.binary s.machine operator left right with
        | .ok answer => .ok (answer, rest)
        | .error _ => .ok (false, rest)
    else
      let same := shifted.head? = (shifted.drop 2).head?
      .ok (if operator = "!=" then !same else same, rest)

/-- Whether a word is a hyphen with a letter. -/
def isUnary (word : String) : Bool :=
  word.length = 2 && word.toList.head? == some '-'

/-- The operators on one text. -/
def unaryOperators : List String :=
  "-N" :: Condition.unaryOperators

/-- Answers a condition on one text. -/
def unary (s : Surroundings) : List String → Outcome
  | operator :: operand :: rest =>
    if operator ∉ unaryOperators then .error (.noUnary operator)
    else if operator = "-t" then (integer operand).map fun _ => (false, rest)
    else match Condition.unary s.machine operator operand with
      | .ok answer => .ok (answer, rest)
      | .error _ => .ok (false, rest)
  | words =>
    let operator := words.head?.getD ""
    if operator ∈ unaryOperators then .error (.missing s.last) else .error (.noUnary operator)

/-- Answers whether a text is not empty. -/
def one : List String → Outcome
  | word :: rest => .ok (word ≠ "", rest)
  | [] => .ok (false, [])

/-- Turns an answer around. -/
def turned : Outcome → Outcome :=
  Except.map fun (answer, rest) => (!answer, rest)

/-- Answers a condition of two words. -/
def two (s : Surroundings) (words : List String) : Outcome :=
  let first := words.head?.getD ""
  if first = "!" then turned (one words.tail)
  else if isUnary first then unary s words
  else .error (.missing s.last)

/-! ### Combinations -/

mutual

/-- Answers a condition that is part of no conjunction. At most `fuel` steps are taken. -/
def term (s : Surroundings) : Nat → List String → Outcome
  | 0, words => .ok (false, words)
  | _, [] => .error (.missing s.last)
  | fuel + 1, "!" :: rest =>
    if rest.isEmpty then .error (.missing s.last) else turned (term s fuel rest)
  | fuel + 1, "(" :: rest =>
    if rest.isEmpty then .error (.missing s.last)
    else
      let inner := 1 + (rest.tail.takeWhile (· ≠ ")")).length
      let count := if 4 < inner then rest.length else inner
      match counted s fuel count rest with
      | .error problem => .error problem
      | .ok (answer, ")" :: rest) => .ok (answer, rest)
      | .ok (_, found :: _) => .error (.unclosed (some found))
      | .ok (_, []) => .error (.unclosed s.behind)
  | _, first :: rest =>
    let words := first :: rest
    if 4 ≤ words.length && first = "-l" && (rest.drop 1).head?.any isBinary then
      binary s true words
    else if 3 ≤ words.length && rest.head?.any isBinary then binary s false words
    else if isUnary first then unary s words
    else .ok (first ≠ "", rest)

/-- Answers a conjunction. -/
def conjunction (s : Surroundings) : Nat → List String → Outcome
  | 0, words => .ok (false, words)
  | fuel + 1, words => do
    let (left, rest) ← term s fuel words
    match rest with
    | "-a" :: rest => do
      let (right, rest) ← conjunction s fuel rest
      pure (left && right, rest)
    | _ => pure (left, rest)

/-- Answers a disjunction. -/
def disjunction (s : Surroundings) : Nat → List String → Outcome
  | 0, words => .ok (false, words)
  | fuel + 1, words => do
    let (left, rest) ← conjunction s fuel words
    match rest with
    | "-o" :: rest => do
      let (right, rest) ← disjunction s fuel rest
      pure (left || right, rest)
    | _ => pure (left, rest)

/-- Answers a condition of three words. -/
def three (s : Surroundings) : Nat → List String → Outcome
  | 0, words => .ok (false, words)
  | fuel + 1, words =>
    let first := words.head?.getD ""
    let second := (words.drop 1).head?.getD ""
    if isBinary second then binary s false words
    else if first = "!" then turned (two s words.tail)
    else if first = "(" && (words.drop 2).head? = some ")" then
      (one words.tail).map fun (answer, rest) => (answer, rest.tail)
    else if second = "-a" || second = "-o" then disjunction s fuel words
    else .error (.noBinary second)

/-- Answers a condition of so many words. -/
def counted (s : Surroundings) : Nat → Nat → List String → Outcome
  | 0, _, words => .ok (false, words)
  | fuel + 1, count, words =>
    let first := words.head?.getD ""
    if count = 1 then one words
    else if count = 2 then two s words
    else if count = 3 then three s fuel words
    else if count = 4 && first = "!" then turned (three s fuel words.tail)
    else if count = 4 && first = "(" && (words.drop 3).head? = some ")" then
      (two s words.tail).map fun (answer, rest) => (answer, rest.tail)
    else disjunction s fuel words

end

/-- Answers the condition in words; `behind` is what stands after them. -/
def answer (m : Machine) (behind : Option String) (words : List String) : Except Problem Bool :=
  let s : Surroundings := { machine := m, last := words.getLast?.getD "", behind }
  if words.isEmpty then .ok false
  else match counted s (8 * words.length + 8) words.length words with
    | .ok (_, word :: _) => .error (.extra word)
    | .ok (answer, []) => .ok answer
    | .error problem => .error problem

/-- Yields the status that belongs to an answer. -/
def status (name : String) : Except Problem Bool → Run Nat
  | .ok true => pure 0
  | .ok false => pure 1
  | .error problem => Run.objectWith 2 name problem.message

end Test

/-- Answers a condition by its status. -/
def test (name : String) (arguments : List String) : Run Nat := do
  Test.status name (Test.answer (← get) none arguments)

/-- Answers a condition between brackets. -/
def bracket (name : String) (arguments : List String) : Run Nat := do
  if arguments = ["--help"] || arguments = ["--version"] then pure 0
  else if arguments.getLast? = some "]" then
    Test.status name (Test.answer (← get) (some "]") arguments.dropLast)
  else Test.status name (.error .noBracket)

end GoldenSuite.Shell.Utility
