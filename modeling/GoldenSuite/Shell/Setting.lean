/-!
# Settings

The settings of a shell that a script or a call can switch on and off, each by its name and most
of them by a letter.
-/

namespace GoldenSuite.Shell

/-- A setting of a shell. -/
inductive Setting where
  /-- A command that fails ends the script. -/
  | errexit
  /-- Patterns do not stand for paths. -/
  | noglob
  | ignoreeof
  | interactive
  | monitor
  /-- Commands are read and not run. -/
  | noexec
  /-- The script is read from the input. -/
  | stdin
  /-- Each command is shown before it is run. -/
  | xtrace
  /-- Each line of the script is shown as it is read. -/
  | verbose
  | vi
  | emacs
  /-- Files are not overwritten. -/
  | noclobber
  /-- Every variable that gets a value is exported. -/
  | allexport
  | notify
  /-- The use of a variable without a value ends the script. -/
  | nounset
  | privileged
  | nolog
  | debug
deriving DecidableEq, Repr

namespace Setting

/-- All settings, with their names and letters. -/
def all : List (Setting × String × Option Char) :=
  [(errexit, "errexit", 'e'), (noglob, "noglob", 'f'), (ignoreeof, "ignoreeof", 'I'),
   (interactive, "interactive", 'i'), (monitor, "monitor", 'm'), (noexec, "noexec", 'n'),
   (stdin, "stdin", 's'), (xtrace, "xtrace", 'x'), (verbose, "verbose", 'v'), (vi, "vi", 'V'),
   (emacs, "emacs", 'E'), (noclobber, "noclobber", 'C'), (allexport, "allexport", 'a'),
   (notify, "notify", 'b'), (nounset, "nounset", 'u'), (privileged, "privileged", 'p'),
   (nolog, "nolog", none), (debug, "debug", none)]

def ofLetter? (letter : Char) : Option Setting :=
  (all.find? fun entry => entry.2.2 = some letter).map Prod.fst

def ofName? (name : String) : Option Setting :=
  (all.find? fun entry => entry.2.1 = name).map Prod.fst

def letters (active : List Setting) : List Char :=
  all.reverse.filterMap fun entry => if entry.1 ∈ active then entry.2.2 else none

/-- Switches a setting on or off. -/
def switch (on : Bool) (setting : Setting) (active : List Setting) : List Setting :=
  let others := active.filter (· ≠ setting)
  if on then setting :: others else others

end Setting

end GoldenSuite.Shell
