import GoldenSuite.Shell.Arithmetic
import GoldenSuite.Shell.Program

/-!
# Conditions in scripts

The conditions of `test`: on texts, on integers and on what stands at a path, combined by
negations, conjunctions and disjunctions. Whether a word is an operator depends on the words
after it, and on how many there are.
-/

namespace GoldenSuite.Shell.Condition

/-- Why a condition has no answer. -/
inductive Problem where
  | noNumber (text : String)
  | unexpected (text : String)
  | noArgument (operator : String)
  | noParenthesis
  | noBracket
deriving DecidableEq, Repr

/-- The wording of a problem. -/
def Problem.message : Problem → String
  | .noNumber text => s!"Illegal number: {text}"
  | .unexpected "" => "unexpected operator"
  | .unexpected text => s!"{text}: unexpected operator"
  | .noArgument operator => s!"{operator}: argument expected"
  | .noParenthesis => "closing paren expected"
  | .noBracket => "missing ]"

/-! ### Single conditions -/

/-- The operators of conditions on one text. -/
def unaryOperators : List String :=
  ["-b", "-c", "-d", "-e", "-f", "-G", "-g", "-h", "-k", "-L", "-n", "-O", "-p", "-r", "-S",
   "-s", "-t", "-u", "-w", "-x", "-z"]

/-- The integer of 64 bits that a text shows. -/
def integer (text : String) : Except Problem Int :=
  match Arithmetic.decimal? text.toList with
  | some value =>
    if -Int.pow 2 63 ≤ value ∧ value < Int.pow 2 63 then .ok value else .error (.noNumber text)
  | none => .error (.noNumber text)

/-- A condition on what stands at a path. -/
def onPath (m : Machine) (operator path : String) : Bool :=
  let kind := (m.kindAt true path).toOption.map Prod.snd
  match operator with
  | "-f" => kind = some .regular
  | "-d" => kind = some .directory
  | "-c" => kind = some .device
  | "-p" => kind = some .pipe
  | "-e" | "-r" | "-w" | "-O" | "-G" => kind.isSome
  | "-x" =>
    (match m.kindAt true path with
    | .ok (_, .directory) => true
    | .ok (loc, _) => (programAt? loc).isSome
    | .error _ => false)
  | "-s" => m.sizeAt path ≠ 0
  | "-h" | "-L" => (m.kindAt false path).toOption.map Prod.snd = some .link
  | _ => false

/-- A condition on one text. -/
def unary (m : Machine) (operator operand : String) : Except Problem Bool :=
  match operator with
  | "-z" => .ok (operand = "")
  | "-n" => .ok (operand ≠ "")
  | "-t" => (integer operand).map fun _ => false
  | _ => .ok (onPath m operator operand)

/-- The comparisons of integers. -/
def comparisons : List (String × (Int → Int → Bool)) :=
  [("-eq", fun a b => a = b), ("-ne", fun a b => a ≠ b), ("-lt", fun a b => a < b),
   ("-le", fun a b => a ≤ b), ("-gt", fun a b => a > b), ("-ge", fun a b => a ≥ b)]

/-- The operators of conditions on two texts. -/
def binaryOperators : List String :=
  ["=", "!=", "<", ">", "-nt", "-ot", "-ef"] ++ comparisons.map Prod.fst

/-- Whether what stands at one path stands at another one as well. -/
def samePlace (m : Machine) (left right : String) : Bool :=
  match m.kindAt true left, m.kindAt true right with
  | .ok (a, _), .ok (b, _) => b ∈ m.world.scene.namesOf a
  | _, _ => false

/-- Whether the file at one path was written after the file at another one. -/
def isNewer (m : Machine) (left right : String) : Bool :=
  let time (loc : Location) : Nat := (m.world.scene.written.lookup loc).getD 0
  match m.kindAt true left, m.kindAt true right with
  | .ok (a, _), .ok (b, _) => time b < time a
  | _, _ => false

/-- A condition on two texts. -/
def binary (m : Machine) (operator left right : String) : Except Problem Bool :=
  match comparisons.lookup operator with
  | some compare => do pure (compare (← integer left) (← integer right))
  | none =>
    match operator with
    | "=" => .ok (left = right)
    | "!=" => .ok (left ≠ right)
    | "<" => .ok (left < right)
    | ">" => .ok (right < left)
    | "-ef" => .ok (samePlace m left right)
    | "-nt" => .ok (isNewer m left right)
    | "-ot" => .ok (isNewer m right left)
    | _ => .ok false

/-! ### Combinations -/

/-- What a word is where a condition goes on. -/
inductive Role where
  | ending
  | text
  | unary
  | binary
  | negation
  | conjunction
  | disjunction
  | opening
  | closing
deriving DecidableEq, Repr

/-- The role of the first of these words. An operator on one text is none when there is nothing
after it, or when it is itself compared. -/
def roleOf : List String → Role
  | [] => .ending
  | word :: rest =>
    if word ∈ unaryOperators then
      match rest with
      | [] => .text
      | [_] => .unary
      | second :: _ => if second ∈ binaryOperators then .text else .unary
    else if word ∈ binaryOperators then .binary
    else match word with
      | "!" => .negation
      | "-a" => .conjunction
      | "-o" => .disjunction
      | "(" => if rest.isEmpty then .text else .opening
      | ")" => .closing
      | _ => .text

/-- An answer, and the words from the last one on that was used. -/
abbrev Outcome := Except Problem (Bool × List String)

mutual

/-- The answer of a condition that is no combination, when its first word has a role. -/
def single (m : Machine) : Nat → Role → List String → Outcome
  | 0, _, words => .ok (false, words)
  | _, .ending, words => .ok (false, words)
  | fuel + 1, .opening, words =>
    let inner := words.tail
    if roleOf inner = .closing then .ok (false, inner)
    else match disjunction m fuel (roleOf inner) inner with
      | .ok (answer, last) =>
        if roleOf last.tail = .closing then .ok (answer, last.tail) else .error .noParenthesis
      | .error problem => .error problem
  | _, .unary, words =>
    match words with
    | operator :: operand :: rest =>
      (unary m operator operand).map fun answer => (answer, operand :: rest)
    | _ => .error (.noArgument (words.head?.getD ""))
  | _, _, words =>
    if roleOf words.tail = .binary then
      match words with
      | left :: operator :: right :: rest =>
        (binary m operator left right).map fun answer => (answer, right :: rest)
      | _ => .error (.noArgument (words.tail.head?.getD ""))
    else .ok (words.head?.any (· ≠ ""), words)

/-- The answer of a condition that may be negated. -/
def negation (m : Machine) : Nat → Role → List String → Outcome
  | 0, _, words => .ok (false, words)
  | fuel + 1, .negation, words =>
    let role := roleOf words.tail
    match negation m fuel role (if role = .ending then words else words.tail) with
    | .ok (answer, last) => .ok (!answer, last)
    | .error problem => .error problem
  | fuel + 1, role, words => single m fuel role words

/-- The answer of conditions that all have to hold. -/
def conjunction (m : Machine) : Nat → Role → List String → Outcome
  | 0, _, words => .ok (false, words)
  | fuel + 1, role, words =>
    match negation m fuel role words with
    | .error problem => .error problem
    | .ok (left, last) =>
      if roleOf last.tail = .conjunction then
        let rest := last.drop 2
        (conjunction m fuel (roleOf rest) rest).map fun (right, last) => (left && right, last)
      else .ok (left, last)

/-- The answer of conditions of which one has to hold. -/
def disjunction (m : Machine) : Nat → Role → List String → Outcome
  | 0, _, words => .ok (false, words)
  | fuel + 1, role, words =>
    match conjunction m fuel role words with
    | .error problem => .error problem
    | .ok (left, last) =>
      if roleOf last.tail = .disjunction then
        let rest := last.drop 2
        (disjunction m fuel (roleOf rest) rest).map fun (right, last) => (left || right, last)
      else .ok (left, last)

end

/-- Whether the condition in all of these words holds. -/
def whole (m : Machine) (role : Role) (words : List String) : Except Problem Bool :=
  match disjunction m (6 * words.length + 6) role words with
  | .ok (_, word :: _ :: _) => .error (.unexpected word)
  | .ok (answer, _) => .ok answer
  | .error problem => .error problem

/-- Whether the condition in these words holds. Three and four words are read by their number: of
two negations at the start of four words one counts. -/
def evaluate (m : Machine) : List String → Except Problem Bool
  | [] => .ok false
  | [a, operator, b] =>
    if operator ∈ binaryOperators then whole m .text [a, operator, b]
    else if a = "(" ∧ b = ")" then whole m (roleOf [operator]) [operator]
    else if a = "!" then (whole m (roleOf [operator, b]) [operator, b]).map not
    else whole m (roleOf [a, operator, b]) [a, operator, b]
  | ["(", a, b, ")"] => whole m (roleOf [a, b]) [a, b]
  | ["!", a, operator, b] =>
    if operator ∈ binaryOperators then (whole m .text [a, operator, b]).map not
    else if a = "(" ∧ b = ")" then (whole m (roleOf [operator]) [operator]).map not
    else if a = "!" then (whole m (roleOf [operator, b]) [operator, b]).map not
    else (whole m (roleOf [a, operator, b]) [a, operator, b]).map not
  | words => whole m (roleOf words) words

end GoldenSuite.Shell.Condition
