/-!
# Regular expressions

The expressions with which the value of a field can be asked for. A value is accepted when the
first match in it, among the matches that start earliest, ends where the value ends; of the
matches that start at one place the first is the one that the order of the alternatives and the
greed of the repetitions prefer.
-/

namespace GoldenSuite.Journal

/-- A regular expression. -/
inductive Expression where
  /-- The empty text. -/
  | empty
  /-- One character of the ranges, or one of the others when negated. -/
  | one (negated : Bool) (ranges : List (Char × Char))
  /-- The start of the value. -/
  | start
  /-- The end of the value. -/
  | finish
  | both (first second : Expression)
  | either (first second : Expression)
  /-- At least so many times the expression, at most once or without a bound. -/
  | several (greedy atLeastOnce atMostOnce : Bool) (inner : Expression)
deriving Repr

namespace Expression

/-! ### Matching -/

/-- Whether a character is one of a set. -/
def has (negated : Bool) (ranges : List (Char × Char)) (c : Char) : Bool :=
  (ranges.any fun range => range.1 ≤ c && c ≤ range.2) != negated

/-- What can be left after a step has been taken any number of times, at most `fuel` times; each
time it has to take something away. -/
def repeated (greedy : Bool) (step : List Char → List (List Char)) :
    Nat → List Char → List (List Char)
  | 0, text => [text]
  | fuel + 1, text =>
    let more := (step text).flatMap fun rest =>
      if rest.length < text.length then repeated greedy step fuel rest else []
    if greedy then more ++ [text] else text :: more

/-- What can be left of a text after a match at its start, the preferred rest first; the value
that the text is the end of has `size` characters. -/
def rests (size : Nat) : Expression → List Char → List (List Char)
  | .empty, text => [text]
  | .one negated ranges, text =>
    match text with
    | c :: rest => if has negated ranges c then [rest] else []
    | [] => []
  | .start, text => if text.length = size then [text] else []
  | .finish, text => if text.isEmpty then [text] else []
  | .both first second, text => (rests size first text).flatMap (rests size second)
  | .either first second, text => rests size first text ++ rests size second text
  | .several greedy atLeastOnce atMostOnce inner, text =>
    let step := rests size inner
    let again := if atMostOnce then 1 else text.length + 1
    if atLeastOnce then (step text).flatMap (repeated greedy step again)
    else repeated greedy step again text

/-- Whether the first match in a text that is the end of a value ends with it. -/
def acceptsFrom (e : Expression) (size : Nat) : List Char → Bool
  | [] => !(e.rests size []).isEmpty
  | c :: rest =>
    match e.rests size (c :: rest) with
    | left :: _ => left.isEmpty
    | [] => acceptsFrom e size rest

def accepts (e : Expression) (value : String) : Bool :=
  e.acceptsFrom value.length value.toList

/-! ### Reading -/

/-- The characters that an escaped letter stands for. -/
def escaped? (c : Char) : Option (Bool × List (Char × Char)) :=
  let word := [('0', '9'), ('A', 'Z'), ('_', '_'), ('a', 'z')]
  let blank := [('\t', '\r'), (' ', ' ')]
  match c with
  | 'd' => some (false, [('0', '9')])
  | 'D' => some (true, [('0', '9')])
  | 'w' => some (false, word)
  | 'W' => some (true, word)
  | 's' => some (false, blank)
  | 'S' => some (true, blank)
  | 'n' => some (false, [('\n', '\n')])
  | 't' => some (false, [('\t', '\t')])
  | c => if c.isAlphanum then none else some (false, [(c, c)])

/-- Reads the members of a class up to the bracket that closes it. -/
def readMembers (first : Bool) (ranges : List (Char × Char)) :
    List Char → Option (List (Char × Char) × List Char)
  | ']' :: rest => if first then readMembers false [(']', ']')] rest else some (ranges, rest)
  | '\\' :: c :: rest =>
    match escaped? c with
    | some (false, members) => readMembers false (ranges ++ members) rest
    | _ => none
  | low :: '-' :: high :: rest =>
    if high = ']' then some (ranges ++ [(low, low), ('-', '-')], rest)
    else if low ≤ high then readMembers false (ranges ++ [(low, high)]) rest
    else none
  | c :: rest => readMembers false (ranges ++ [(c, c)]) rest
  | [] => none

/-- Takes the marks of a repetition that follow an expression. -/
def readRepetition (e : Expression) : List Char → Expression × List Char
  | '*' :: '?' :: rest => (.several false false false e, rest)
  | '+' :: '?' :: rest => (.several false true false e, rest)
  | '?' :: '?' :: rest => (.several false false true e, rest)
  | '*' :: rest => (.several true false false e, rest)
  | '+' :: rest => (.several true true false e, rest)
  | '?' :: rest => (.several true false true e, rest)
  | rest => (e, rest)

mutual

/-- Reads alternatives; at most `fuel` steps are taken. -/
def readAlternatives : Nat → List Char → Option (Expression × List Char)
  | 0, _ => none
  | fuel + 1, text => do
    let (first, rest) ← readSequence fuel text
    match rest with
    | '|' :: rest =>
      let (others, rest) ← readAlternatives fuel rest
      pure (.either first others, rest)
    | rest => pure (first, rest)

/-- Reads what stands before the next alternative or the end of the group. -/
def readSequence : Nat → List Char → Option (Expression × List Char)
  | 0, _ => none
  | fuel + 1, text =>
    match text with
    | [] => some (.empty, [])
    | '|' :: rest => some (.empty, '|' :: rest)
    | ')' :: rest => some (.empty, ')' :: rest)
    | text => do
      let (e, rest) ← readOne fuel text
      let (e, rest) := readRepetition e rest
      let (others, rest) ← readSequence fuel rest
      pure (.both e others, rest)

/-- Reads a character, a class or a group. -/
def readOne : Nat → List Char → Option (Expression × List Char)
  | 0, _ => none
  | fuel + 1, text =>
    let group (text : List Char) : Option (Expression × List Char) := do
      match ← readAlternatives fuel text with
      | (e, ')' :: rest) => pure (e, rest)
      | _ => none
    match text with
    | '(' :: '?' :: ':' :: rest => group rest
    | '(' :: '?' :: _ => none
    | '(' :: rest => group rest
    | '[' :: '^' :: rest => (readMembers true [] rest).map fun r => (.one true r.1, r.2)
    | '[' :: rest => (readMembers true [] rest).map fun r => (.one false r.1, r.2)
    | '.' :: rest => some (.one true [('\n', '\n')], rest)
    | '^' :: rest => some (.start, rest)
    | '$' :: rest => some (.finish, rest)
    | '\\' :: c :: rest => (escaped? c).map fun set => (.one set.1 set.2, rest)
    | '\\' :: [] => none
    | '*' :: _ => none
    | '+' :: _ => none
    | '?' :: _ => none
    | '\x7b' :: _ => none
    | c :: rest => some (.one false [(c, c)], rest)
    | [] => none

end

/-- The expression that a text writes. -/
def ofText? (text : String) : Option Expression :=
  match readAlternatives (3 * text.length + 4) text.toList with
  | some (e, []) => some e
  | _ => none

/-- The expression that a text writes accepts a value. -/
def textAccepts (text value : String) : Bool :=
  ((ofText? text).map (·.accepts value)).getD false

example : textAccepts "b" "ab" = true ∧ textAccepts "a" "ab" = false ∧
    textAccepts "a|ab" "ab" = false := by decide +kernel

example : textAccepts "^c(as)?e[0-9]+$" "case17" = true ∧ textAccepts "c.*" "abc" = true ∧
    textAccepts "x*?" "x" = false := by decide +kernel

end Expression

end GoldenSuite.Journal
