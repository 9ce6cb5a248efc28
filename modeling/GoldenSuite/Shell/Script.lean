/-!
# Scripts

What a script asks for: commands with their words and redirections, combined by sequences,
conditions, loops and pipelines. A word is a list of parts; some of them stand for themselves,
others for the value of a parameter, the output of a command or the value of an expression.
-/

namespace GoldenSuite.Shell

/-! ### Names -/

/-- Whether a name can start with a character. -/
def startsName (c : Char) : Bool :=
  c.isAlpha || c = '_'

/-- Whether a name can go on with a character. -/
def inName (c : Char) : Bool :=
  startsName c || c.isDigit

/-- Whether a text is a name. -/
def isName : List Char → Bool
  | [] => false
  | c :: rest => startsName c && rest.all inName

/-- The words that are part of the grammar where a command can start. -/
inductive Keyword where
  | not | case | do_ | done | elif | else_ | esac | fi | for_ | if_ | in_ | then_ | until_ | while_
  | openBrace | closeBrace
deriving DecidableEq, Repr

namespace Keyword

/-- How a keyword is written. -/
def text : Keyword → String
  | not => "!"
  | case => "case"
  | do_ => "do"
  | done => "done"
  | elif => "elif"
  | else_ => "else"
  | esac => "esac"
  | fi => "fi"
  | for_ => "for"
  | if_ => "if"
  | in_ => "in"
  | then_ => "then"
  | until_ => "until"
  | while_ => "while"
  | openBrace => "\x7b"
  | closeBrace => "\x7d"

def all : List Keyword :=
  [not, case, do_, done, elif, else_, esac, fi, for_, if_, in_, then_, until_, while_, openBrace,
   closeBrace]

def ofText? (text : String) : Option Keyword :=
  all.find? fun keyword => keyword.text = text

end Keyword

/-! ### Words and commands -/

/-- What is done with the value of a parameter. -/
inductive Use where
  | value
  | size
  /-- The word stands in when there is no value. -/
  | otherwise
  /-- The word takes the place of a value. -/
  | instead
  /-- The word says what is wrong when there is no value. -/
  | required
  /-- The word becomes the value when there is none. -/
  | assigned
  | withoutStart (longest : Bool)
  | withoutEnd (longest : Bool)
  /-- The parameter is written in a way that makes no sense. -/
  | senseless
deriving DecidableEq, Repr

/-- How a file is opened. -/
inductive Opening where
  | input
  | output
  /-- As an output, even where files must not be overwritten. -/
  | overwriting
  | appending
  | both
deriving DecidableEq, Repr

mutual

/-- A part of a word. -/
inductive Part where
  | plain (c : Char)
  /-- A character that stands for itself, whatever it could mean. -/
  | quoted (c : Char)
  /-- Here a quotation starts or ends. -/
  | mark
  /-- A parameter; `orEmpty` says whether an empty value counts as none. -/
  | parameter (name : String) (use : Use) (orEmpty : Bool) (word : List Part)
  | output (command : Command)
  | arithmetic (expression : List Part)

/-- A redirection of a descriptor. -/
inductive Redirection where
  | file (descriptor : Nat) (opening : Opening) (path : List Part)
  /-- To where the descriptor in the word leads; a hyphen closes the descriptor. -/
  | duplicate (descriptor : Nat) (word : List Part)
  /-- From a document in the script itself. -/
  | document (descriptor number : Nat)

/-- A command of a script. Where a command comes with a line, messages about it name that. -/
inductive Command where
  | nothing
  | simple (line : Nat) (assignments words : List (List Part)) (redirections : List Redirection)
  | sequence (first second : Command)
  /-- The second one is run when the first one succeeds, or fails. -/
  | either (onSuccess : Bool) (first second : Command)
  | negated (inner : Command)
  | pipeline (commands : List Command)
  | branch (test yes no : Command)
  | loop (whileTrue : Bool) (test body : Command)
  | each (line : Nat) (name : String) (words : List (List Part)) (body : Command)
  /-- The command of the first case with a pattern that matches the subject is run. -/
  | choice (line : Nat) (subject : List Part) (cases : List (List (List Part) × Command))
  | subshell (line : Nat) (inner : Command) (redirections : List Redirection)
  /-- The script goes on while the command is run. -/
  | background (inner : Command)
  | redirected (line : Nat) (inner : Command) (redirections : List Redirection)
  | definition (line : Nat) (name : String) (body : Command)

end

instance : Inhabited Command := ⟨.nothing⟩

/-- A word of a script. -/
abbrev Word := List Part

namespace Word

/-- The text of a word in which every character is plain. -/
def plainText? : Word → Option (List Char)
  | [] => some []
  | .plain c :: rest => (plainText? rest).map (c :: ·)
  | _ :: _ => none

/-- Whether a word goes on with the rest of a name and an equals sign. -/
def assigns : Word → Bool
  | .plain '=' :: _ => true
  | .plain c :: rest => inName c && assigns rest
  | _ => false

/-- Whether a word has the form of an assignment. -/
def isAssignment : Word → Bool
  | .plain c :: rest => startsName c && assigns rest
  | _ => false

/-- The text of a word without its quotation marks. -/
def unquoted : Word → List Char
  | [] => []
  | .plain c :: rest => c :: unquoted rest
  | .quoted c :: rest => c :: unquoted rest
  | _ :: rest => unquoted rest

/-- The word that stands for all arguments, each one on its own. -/
def allArguments : Word :=
  [.mark, .parameter "@" .value false [], .mark]

end Word

namespace Command

/-- The second command after the first one, where there is a first one. -/
def after : Option Command → Command → Command
  | none, second => second
  | some first, second => .sequence first second

end Command

/-- The text of a document in a script. -/
structure Document where
  number : Nat
  parts : Word

end GoldenSuite.Shell
