import GoldenSuite.Glob.Token

/-!
# Lexemes of a glob pattern

The text of a pattern is cut into lexemes before it is read: a class with its members is one
lexeme, an escaped character another. A mistake inside a lexeme is a lexeme of its own, the
last one, so that whoever reads the lexemes from left to right meets the mistakes in the order
of the text.
-/

namespace GoldenSuite.Glob

/-- A piece of the text of a pattern. -/
inductive Lexeme where
  | plain (c : Char)
  | escaped (c : Char)
  | question
  | star
  | opening
  | closing
  | comma
  | oneOf (negated : Bool) (ranges : List (Char × Char))
  | mistake (m : Mistake)
deriving DecidableEq, Repr

/-- The last character of the text of a lexeme. -/
def Lexeme.lastChar : Lexeme → Char
  | .plain c | .escaped c => c
  | .question => '?'
  | .star => '*'
  | .opening => '\x7b'
  | .closing => '\x7d'
  | .comma => ','
  | .oneOf _ _ | .mistake _ => ']'

/-- Where the reading of a class stands: its ranges so far, the last one first, whether its
first member is still to come, and whether a `-` waits for the end of a range. -/
structure ClassState where
  negated : Bool
  ranges : List (Char × Char)
  first : Bool
  inRange : Bool
deriving DecidableEq, Repr

/-- Gives the last range this end. -/
def ClassState.endRange (s : ClassState) (high : Char) : Except Mistake ClassState :=
  match s.ranges with
  | [] => .ok { s with ranges := [(high, high)], first := false, inRange := false }
  | (low, _) :: rest =>
    if high < low then .error (.reversedRange low high)
    else .ok { s with ranges := (low, high) :: rest, first := false, inRange := false }

/-- Reads one member of a class. -/
def ClassState.member (s : ClassState) (c : Char) : Except Mistake ClassState :=
  if c = '-' ∧ s.first then .ok { s with ranges := ('-', '-') :: s.ranges, first := false }
  else if s.inRange then s.endRange c
  else if c = '-' then .ok { s with inRange := true, first := false }
  else .ok { s with ranges := (c, c) :: s.ranges, first := false }

/-- The lexeme of a class that has been read to its end; a `-` that still waits for the end of
a range stands for itself. -/
def ClassState.lexeme (s : ClassState) : Lexeme :=
  .oneOf s.negated ((if s.inRange then ('-', '-') :: s.ranges else s.ranges).reverse)

mutual

/-- Cuts a text into lexemes. -/
def lexemes : List Char → List Lexeme
  | [] => []
  | ['\\'] => [.mistake .danglingEscape]
  | '\\' :: c :: rest => .escaped c :: lexemes rest
  | '[' :: '!' :: rest => classLexemes ⟨true, [], true, false⟩ rest
  | '[' :: '^' :: rest => classLexemes ⟨true, [], true, false⟩ rest
  | '[' :: rest => classLexemes ⟨false, [], true, false⟩ rest
  | '?' :: rest => .question :: lexemes rest
  | '*' :: rest => .star :: lexemes rest
  | '\x7b' :: rest => .opening :: lexemes rest
  | '\x7d' :: rest => .closing :: lexemes rest
  | ',' :: rest => .comma :: lexemes rest
  | c :: rest => .plain c :: lexemes rest

/-- Cuts a text into lexemes that begins within a class. -/
def classLexemes (s : ClassState) : List Char → List Lexeme
  | [] => [.mistake .unclosedClass]
  | c :: rest =>
    if c = ']' ∧ !s.first then s.lexeme :: lexemes rest
    else match s.member c with
      | .error m => [.mistake m]
      | .ok s => classLexemes s rest

end

end GoldenSuite.Glob
