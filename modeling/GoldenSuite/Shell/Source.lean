import GoldenSuite.Shell.Script

/-!
# The characters of a script

A script is read character by character. Where the name of an alias has been read, its text is
read next, and only then what follows the name; texts of aliases can lie one in the other. An
alias stays busy as long as its text is read and up to the character after it, so that it is not
replaced within itself.
-/

namespace GoldenSuite.Shell

/-- The text of an alias that is being read. -/
structure Layer where
  name : String
  rest : List Char
  /-- Whether the text ends in a blank, after which another alias may stand. -/
  endsBlank : Bool

/-- The characters that are still to be read, and the line that they are on. -/
structure Source where
  /-- The texts of aliases, the innermost one first. -/
  layers : List Layer := []
  base : List Char
  line : Nat := 1

namespace Source

/-- What is drawn from a source: a character, unless nothing is left, and what is left. -/
structure Drawn where
  char : Option Char
  source : Source
  /-- The aliases whose texts have come to their end on the way. -/
  ended : List String := []
  /-- Whether one of these texts ends in a blank. -/
  blank : Bool := false

/-- Draws a character from a text with the texts of aliases before it. -/
def drawFrom (line : Nat) (base : List Char) : List Layer → Drawn
  | [] =>
    match base with
    | [] => { char := none, source := { base := [], line } }
    | c :: rest => { char := some c, source := { base := rest, line } }
  | layer :: outer =>
    match layer.rest with
    | c :: rest =>
      { char := some c, source := { layers := { layer with rest } :: outer, base, line } }
    | [] =>
      let drawn := drawFrom line base outer
      { drawn with ended := layer.name :: drawn.ended, blank := layer.endsBlank || drawn.blank }

/-- Draws the next character. -/
def draw (source : Source) : Drawn :=
  drawFrom source.line source.base source.layers

/-- Puts a character back. -/
def putBack (source : Source) (c : Char) : Source :=
  match source.layers with
  | layer :: outer => { source with layers := { layer with rest := c :: layer.rest } :: outer }
  | [] => { source with base := c :: source.base }

/-- Puts the text of an alias before everything else. -/
def push (source : Source) (name : String) (text : List Char) : Source :=
  let endsBlank := text.getLast? == some ' ' || text.getLast? == some '\t'
  { source with layers := { name, rest := text, endsBlank } :: source.layers }

end Source

end GoldenSuite.Shell
