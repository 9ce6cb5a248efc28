/-!
# Glob patterns

A pattern is a sequence of tokens, each of which stands for some of the byte strings. This
module holds the tokens and the ways in which the text of a pattern can be wrong.
-/

namespace GoldenSuite.Glob

/-- A part of a pattern. -/
inductive Token where
  | literal (c : Char)
  /-- Any one byte. -/
  | any
  /-- Any bytes. -/
  | gap
  /-- Nothing, a separator, or anything that ends in a separator. -/
  | leadingDirectories
  /-- A separator and anything after it. -/
  | trailingDirectories
  /-- A separator, or anything that starts and ends with one. -/
  | innerDirectories
  /-- One byte of the characters in the ranges, or one of the others when negated. -/
  | oneOf (negated : Bool) (ranges : List (Char × Char))
  | alternatives (branches : List (List Token))
deriving Repr

/-- A pattern that was read from a text. -/
structure Pattern where
  tokens : List Token
deriving Repr

/-- What is wrong with the text of a pattern. -/
inductive Mistake where
  /-- A class of characters is not closed. -/
  | unclosedClass
  /-- A range of characters ends before it starts. -/
  | reversedRange (low high : Char)
  /-- A group of alternatives is closed that was not opened. -/
  | unopenedGroup
  /-- A group of alternatives is not closed. -/
  | unclosedGroup
  /-- Nothing follows an escape. -/
  | danglingEscape
deriving DecidableEq, Repr

/-- The wording of a mistake. -/
def Mistake.message : Mistake → String
  | .unclosedClass => "unclosed character class; missing ']'"
  | .reversedRange low high => s!"invalid range; '{low}' > '{high}'"
  | .unopenedGroup =>
    "unopened alternate group; missing '\x7b' (maybe escape '\x7d' with '[\x7d]'?)"
  | .unclosedGroup =>
    "unclosed alternate group; missing '\x7d' (maybe escape '\x7b' with '[\x7b]'?)"
  | .danglingEscape => "dangling '\\'"

end GoldenSuite.Glob
