import GoldenSuite.Shell.Script

/-!
# Arithmetic in scripts

Expressions over integers of 64 bits with variables, the usual operators and their precedence,
conditions and assignments. An expression is read into a tree and then evaluated; what a
condition rules out is not evaluated. A variable that has no value counts as zero. An expression
that cannot be read to its end is evaluated up to there.
-/

namespace GoldenSuite.Shell.Arithmetic

/-- Why an expression has no value. -/
inductive Mistake where
  /-- A value is missing. -/
  | noValue
  /-- Something follows the expression. -/
  | noEnd
  | noParenthesis
  | noColon
  | divisionByZero
  /-- A quotient is too large. -/
  | overflow
  /-- The value of a variable is no number. -/
  | noNumber (text : String)
deriving DecidableEq, Repr

/-- The wording of a mistake in an expression. -/
def Mistake.message (expression : List Char) (mistake : Mistake) : String :=
  let about (problem : String) : String :=
    s!"arithmetic expression: {problem}: \"" ++ String.ofList expression ++ "\""
  match mistake with
  | .noValue => about "expecting primary"
  | .noEnd => about "expecting EOF"
  | .noParenthesis => about "expecting ')'"
  | .noColon => about "expecting ':'"
  | .divisionByZero => about "division by zero"
  | .overflow => about "overflow"
  | .noNumber text => s!"Illegal number: {text}"

/-! ### Numbers -/

/-- Whether a character is white space around a number. -/
def isSpace (c : Char) : Bool :=
  c = ' ' || ('\t' ≤ c && c ≤ '\r')

/-- The value of a digit in a base up to sixteen. -/
def digitOf? (base : Nat) (c : Char) : Option Nat :=
  let value :=
    if c.isDigit then c.toNat - '0'.toNat
    else if 'a' ≤ c ∧ c ≤ 'f' then c.toNat - 'a'.toNat + 10
    else if 'A' ≤ c ∧ c ≤ 'F' then c.toNat - 'A'.toNat + 10
    else 16
  if value < base then some value else none

/-- The value of the digits at the start of a text, and what comes after them. -/
def takeDigits (base : Nat) (value : Nat) : List Char → Nat × List Char
  | [] => (value, [])
  | c :: rest =>
    match digitOf? base c with
    | some digit => takeDigits base (value * base + digit) rest
    | none => (value, c :: rest)

/-- The value of the number at the start of a text, and what comes after it. A number that
starts with `0x` is hexadecimal, one that starts with `0` octal. -/
def takeNumber (text : List Char) : Nat × List Char :=
  match text with
  | '0' :: x :: c :: rest =>
    if (x = 'x' ∨ x = 'X') ∧ (digitOf? 16 c).isSome then takeDigits 16 0 (c :: rest)
    else takeDigits 8 0 (x :: c :: rest)
  | '0' :: rest => takeDigits 8 0 rest
  | _ => takeDigits 10 0 text

/-- The value of decimal digits. -/
def digitsValue (digits : List Char) : Nat :=
  (takeDigits 10 0 digits).1

/-- The integer that a text shows, with spaces around it and a sign before it when there are
any. `take` reads the number itself. -/
def integerBy? (take : List Char → Nat × List Char) (text : List Char) : Option Int :=
  let trimmed := ((text.dropWhile isSpace).reverse.dropWhile isSpace).reverse
  let digits := match trimmed with
    | '-' :: rest => rest
    | '+' :: rest => rest
    | rest => rest
  match digits.head?, take digits with
  | some first, (value, []) =>
    if first.isDigit then some (if trimmed.head? == some '-' then -(value : Int) else value)
    else none
  | _, _ => none

/-- The integer that a text shows in decimal digits. -/
def decimal? : List Char → Option Int :=
  integerBy? (takeDigits 10 0)

/-- The integer that a text shows in any of the ways to write one. -/
def integer? : List Char → Option Int :=
  integerBy? takeNumber

/-! ### Symbols -/

/-- A part of an expression. -/
inductive Symbol where
  | number (value : Int)
  | name (text : String)
  | operator (text : String)
deriving DecidableEq, Repr

/-- The operators of more than one character, the longest first. -/
def longOperators : List String :=
  ["<<=", ">>=", "<=", ">=", "==", "!=", "&&", "||", "<<", ">>", "+=", "-=", "*=", "/=", "%=",
   "&=", "^=", "|="]

/-- The operator at the start of a text. -/
def operatorAt (c : Char) (rest : List Char) : String :=
  match longOperators.find? fun operator => operator.toList.isPrefixOf (c :: rest) with
  | some operator => operator
  | none => String.singleton c

/-- The symbols of an expression; at most `fuel` of them. -/
def symbols : Nat → List Char → List Symbol
  | 0, _ => []
  | _, [] => []
  | fuel + 1, c :: rest =>
    if c = ' ' || c = '\t' || c = '\n' then symbols fuel rest
    else if c.isDigit then
      let (value, after) := takeNumber (c :: rest)
      .number value :: symbols fuel after
    else if startsName c then
      .name (String.ofList ((c :: rest).takeWhile inName)) ::
        symbols fuel ((c :: rest).dropWhile inName)
    else
      let operator := operatorAt c rest
      .operator operator :: symbols fuel (rest.drop (operator.length - 1))

/-! ### Expressions -/

inductive Expression where
  | constant (value : Int)
  | read (name : String)
  | unary (operator : String) (operand : Expression)
  | binary (operator : String) (left right : Expression)
  | choice (test yes no : Expression)
  /-- Gives a variable a value; with an operator, the one that it makes of the old value. -/
  | assign (name : String) (operator : Option String) (value : Expression)
  /-- Nothing more can be read. -/
  | broken (mistake : Mistake)
  /-- Nothing more can be read after an expression. -/
  | brokenAfter (before : Expression) (mistake : Mistake)
deriving Repr

namespace Expression

/-- Why an expression cannot be read to its end. -/
def mistake? : Expression → Option Mistake
  | constant _ => none
  | read _ => none
  | unary _ operand => operand.mistake?
  | binary _ left right => left.mistake? <|> right.mistake?
  | choice test yes no => test.mistake? <|> yes.mistake? <|> no.mistake?
  | assign _ _ value => value.mistake?
  | broken mistake => some mistake
  | brokenAfter before mistake => before.mistake? <|> some mistake

end Expression

/-- The precedence of an operator between two values. -/
def precedence? : String → Option Nat
  | "||" => some 1
  | "&&" => some 2
  | "|" => some 3
  | "^" => some 4
  | "&" => some 5
  | "==" | "!=" => some 6
  | "<" | "<=" | ">" | ">=" => some 7
  | "<<" | ">>" => some 8
  | "+" | "-" => some 9
  | "*" | "/" | "%" => some 10
  | _ => none

/-- The operator with which an assignment makes a new value of the old one. -/
def assignment? : String → Option (Option String)
  | "=" => some none
  | "+=" => some (some "+")
  | "-=" => some (some "-")
  | "*=" => some (some "*")
  | "/=" => some (some "/")
  | "%=" => some (some "%")
  | "&=" => some (some "&")
  | "^=" => some (some "^")
  | "|=" => some (some "|")
  | "<<=" => some (some "<<")
  | ">>=" => some (some ">>")
  | _ => none

/-- An expression that was read, and the symbols after it, unless nothing more can be read. -/
abbrev Parsed := Expression × Option (List Symbol)

mutual

/-- Reads a value with the operators before it. -/
def operand : Nat → List Symbol → Parsed
  | 0, _ => (.broken .noValue, none)
  | fuel + 1, found =>
    match found with
    | .number value :: rest => (.constant value, some rest)
    | .name text :: rest => (.read text, some rest)
    | .operator "(" :: rest =>
      match assignment fuel rest with
      | (value, some (.operator ")" :: after)) => (value, some after)
      | (value, some _) => (.brokenAfter value .noParenthesis, none)
      | (value, none) => (value, none)
    | .operator operator :: rest =>
      if operator ∈ ["-", "+", "!", "~"] then
        let (value, after) := operand fuel rest
        (.unary operator value, after)
      else (.broken .noValue, none)
    | [] => (.broken .noValue, none)

/-- Reads an expression up to the first operator that binds no more than the given
precedence. -/
def operation (least : Nat) : Nat → List Symbol → Parsed
  | 0, _ => (.broken .noValue, none)
  | fuel + 1, found =>
    match operand fuel found with
    | (left, some rest) => operations least left fuel rest
    | (left, none) => (left, none)

/-- Goes on reading after a first value. -/
def operations (least : Nat) (left : Expression) : Nat → List Symbol → Parsed
  | 0, _ => (.broken .noValue, none)
  | fuel + 1, found =>
    match found with
    | .operator operator :: rest =>
      match precedence? operator with
      | some precedence =>
        if precedence ≤ least then (left, some found)
        else match operation precedence fuel rest with
          | (right, some after) => operations least (.binary operator left right) fuel after
          | (right, none) => (.binary operator left right, none)
      | none => (left, some found)
    | _ => (left, some found)

/-- Reads an expression that may be a condition. -/
def condition : Nat → List Symbol → Parsed
  | 0, _ => (.broken .noValue, none)
  | fuel + 1, found =>
    match operation 0 fuel found with
    | (test, some (.operator "?" :: rest)) =>
      match assignment fuel rest with
      | (yes, some (.operator ":" :: rest)) =>
        let (no, after) := condition fuel rest
        (.choice test yes no, after)
      | (yes, some _) => (.choice test yes (.broken .noColon), none)
      | (yes, none) => (.choice test yes (.constant 0), none)
    | other => other

/-- Reads an expression that may be an assignment. -/
def assignment : Nat → List Symbol → Parsed
  | 0, _ => (.broken .noValue, none)
  | fuel + 1, found =>
    match found with
    | .name text :: .operator operator :: rest =>
      match assignment? operator with
      | some change =>
        let (value, after) := assignment fuel rest
        (.assign text change value, after)
      | none => condition fuel found
    | _ => condition fuel found

end

/-- Reads the text of an expression. -/
def Expression.ofText (text : List Char) : Expression :=
  let found := symbols (text.length + 1) text
  match assignment (6 * found.length + 12) found with
  | (value, some (_ :: _)) => .brokenAfter value .noEnd
  | (value, _) => value

/-! ### Values -/

/-- The integer of 64 bits that stands for a value. -/
def wrap (value : Int) : Int :=
  Int.bmod value (Nat.pow 2 64)

/-- The integer of 64 bits that is nearest to a number. -/
def limit (value : Int) : Int :=
  max (-Int.pow 2 63) (min value (Int.pow 2 63 - 1))

/-- The value of a condition. -/
def truth (p : Bool) : Int :=
  if p then 1 else 0

/-- Combines the bits of two integers. -/
def bitwise (combine : BitVec 64 → BitVec 64 → BitVec 64) (a b : Int) : Int :=
  (combine (BitVec.ofInt 64 a) (BitVec.ofInt 64 b)).toInt

/-- Refuses a division that has no quotient among the integers of 64 bits. -/
def checkDivision (a b : Int) : Except Mistake Unit :=
  if b = 0 then .error .divisionByZero
  else if a = -Int.pow 2 63 ∧ b = -1 then .error .overflow
  else .ok ()

/-- The value of an operator between two values. -/
def apply (operator : String) (a b : Int) : Except Mistake Int :=
  match operator with
  | "==" => .ok (truth (a = b))
  | "!=" => .ok (truth (a ≠ b))
  | "<" => .ok (truth (a < b))
  | "<=" => .ok (truth (a ≤ b))
  | ">" => .ok (truth (a > b))
  | ">=" => .ok (truth (a ≥ b))
  | "|" => .ok (bitwise (· ||| ·) a b)
  | "^" => .ok (bitwise (· ^^^ ·) a b)
  | "&" => .ok (bitwise (· &&& ·) a b)
  | "<<" => .ok (wrap (a * Int.pow 2 (b % 64).toNat))
  | ">>" => .ok (Int.fdiv a (Int.pow 2 (b % 64).toNat))
  | "+" => .ok (wrap (a + b))
  | "-" => .ok (wrap (a - b))
  | "*" => .ok (wrap (a * b))
  | "/" => do
    checkDivision a b
    pure (Int.tdiv a b)
  | "%" => do
    checkDivision a b
    pure (Int.tmod a b)
  | _ => .ok 0

/-- Evaluates with the variables that have been assigned so far, the last one first. -/
abbrev Evaluation (α : Type) := ExceptT Mistake (StateM (List (String × Int))) α

/-- The value of a variable; `lookup` gives the text of those that are not assigned here. -/
def valueOf (lookup : String → Option String) (name : String) : Evaluation Int := do
  match (← get).lookup name with
  | some value => pure value
  | none =>
    match lookup name with
    | none => pure 0
    | some text =>
      if text.toList.all isSpace then pure 0
      else match integer? text.toList with
      | some value => if limit value = value then pure value else throw (.noNumber text)
      | none => throw (.noNumber text)

/-- Passes over an expression that is not evaluated. -/
def Expression.pass (e : Expression) : Evaluation Unit :=
  match e.mistake? with
  | some mistake => throw mistake
  | none => pure ()

def Expression.evaluate (lookup : String → Option String) : Expression → Evaluation Int
  | .constant value => pure (limit value)
  | .read name => valueOf lookup name
  | .unary operator operand => do
    let value ← operand.evaluate lookup
    match operator with
    | "-" => pure (wrap (-value))
    | "!" => pure (truth (value = 0))
    | "~" => pure (-value - 1)
    | _ => pure value
  | .binary "&&" left right => do
    if (← left.evaluate lookup) = 0 then
      right.pass
      pure 0
    else pure (truth ((← right.evaluate lookup) ≠ 0))
  | .binary "||" left right => do
    if (← left.evaluate lookup) ≠ 0 then
      right.pass
      pure 1
    else pure (truth ((← right.evaluate lookup) ≠ 0))
  | .binary operator left right => do
    let a ← left.evaluate lookup
    let b ← right.evaluate lookup
    liftExcept (apply operator a b)
  | .choice test yes no => do
    if (← test.evaluate lookup) ≠ 0 then
      let value ← yes.evaluate lookup
      no.pass
      pure value
    else
      yes.pass
      no.evaluate lookup
  | .assign name operator value => do
    let new ← value.evaluate lookup
    let result ← match operator with
      | none => pure new
      | some operator => do
        let old ← valueOf lookup name
        liftExcept (apply operator old new)
    modify ((name, result) :: ·)
    pure result
  | .broken mistake => throw mistake
  | .brokenAfter before mistake => do
    discard (before.evaluate lookup)
    throw mistake
where
  /-- Takes over a value unless there is a mistake. -/
  liftExcept (value : Except Mistake Int) : Evaluation Int :=
    ExceptT.mk (pure value)

/-- The value of an expression, unless there is a mistake in it, and the variables that it assigns,
the last one first. -/
def evaluate (lookup : String → Option String) (text : List Char) :
    Except Mistake Int × List (String × Int) :=
  ((Expression.ofText text).evaluate lookup).run.run []

example :
    (evaluate (fun _ => some "4") ['i', '+', '2', '*', '(', '3', '-', '1', ')']).1.toOption =
      some 8 := by
  decide +kernel

end GoldenSuite.Shell.Arithmetic
