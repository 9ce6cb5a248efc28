/-!
# Signals

The signals that scripts send and trap, with their numbers, their names and what they mean. A
name can be written in capital or in small letters.
-/

namespace GoldenSuite.Shell.Signal

/-- One more than the largest number of a signal. -/
def count : Nat := 65

/-- The signals with names of their own, with their numbers and their meaning. -/
def all : List (Nat × String × String) :=
  [(1, "HUP", "Hangup"), (2, "INT", "Interrupt"), (3, "QUIT", "Quit"),
   (4, "ILL", "Illegal instruction"), (5, "TRAP", "Trace/breakpoint trap"),
   (6, "ABRT", "Aborted"), (7, "BUS", "Bus error"), (8, "FPE", "Floating point exception"),
   (9, "KILL", "Killed"), (10, "USR1", "User defined signal 1"),
   (11, "SEGV", "Segmentation fault"), (12, "USR2", "User defined signal 2"),
   (13, "PIPE", "Broken pipe"), (14, "ALRM", "Alarm clock"), (15, "TERM", "Terminated"),
   (17, "CHLD", "Child exited"), (18, "CONT", "Continued"), (19, "STOP", "Stopped (signal)"),
   (20, "TSTP", "Stopped"), (21, "TTIN", "Stopped (tty input)"),
   (22, "TTOU", "Stopped (tty output)"), (23, "URG", "Urgent I/O condition"),
   (24, "XCPU", "CPU time limit exceeded"), (25, "XFSZ", "File size limit exceeded"),
   (26, "VTALRM", "Virtual timer expired"), (27, "PROF", "Profiling timer expired"),
   (28, "WINCH", "Window changed"), (29, "IO", "I/O possible"), (30, "PWR", "Power failure"),
   (31, "SYS", "Bad system call")]

/-- The first and the last of the signals that are free for any use. -/
def firstFree : Nat := 34

@[inherit_doc firstFree]
def lastFree : Nat := 64

/-- The signals that do not end a process. -/
def harmless : List Nat :=
  [0, 17, 18, 23, 28]

/-- The signals that stop a process. -/
def stopping : List Nat :=
  [19, 20, 21, 22]

/-- The signals against which nothing can be done. -/
def unstoppable : List Nat :=
  [9, 19]

/-- The name of a signal. The free ones are counted from the nearer end; one without a name has
its number instead. -/
def name (number : Nat) : String :=
  if number = 0 then "EXIT"
  else if number = firstFree then "RTMIN"
  else if number = lastFree then "RTMAX"
  else if firstFree < number && number < 50 then s!"RTMIN+{number - firstFree}"
  else if 50 ≤ number && number < lastFree then s!"RTMAX-{lastFree - number}"
  else match all.lookup number with
    | some (name, _) => name
    | none => toString number

/-- The signal with a number that is written out. -/
def ofNumber? (text : String) : Option Nat :=
  let digits := text.toList
  if digits.isEmpty || !digits.all Char.isDigit then none
  else
    let value := digits.foldl (fun value c => 10 * value + (c.toNat - '0'.toNat)) 0
    if value < count then some value else none

/-- The signal that a text names by its number or its name, from a number on. -/
def ofTextFrom? (first : Nat) (text : String) : Option Nat :=
  match ofNumber? text with
  | some number => some number
  | none =>
    (List.range count).find? fun number => first ≤ number && name number = text.toUpper

/-- The signal that a text names. -/
def ofName? (text : String) : Option Nat :=
  ofTextFrom? 1 text

/-- The signal that a text names, or zero for the end of a script. -/
def ofText? (text : String) : Option Nat :=
  ofTextFrom? 0 text

/-- What a signal means. -/
def description (number : Nat) : String :=
  match all.lookup number with
  | some (_, meaning) => meaning
  | none =>
    if firstFree ≤ number && number ≤ lastFree then s!"Real-time signal {number - firstFree}"
    else s!"Unknown signal {number}"

/-- What is said of a process that a signal has ended. An interruption or a broken pipe is not
worth a word. -/
def obituary? (number : Nat) : Option String :=
  if number = 2 || number = 13 then none else some (description number)

/-- The status of a process that a signal has ended. -/
def status (number : Nat) : Nat :=
  128 + number

example : ofText? "sigint" = none ∧ ofText? "int" = some 2 ∧ ofText? "exit" = some 0 := by
  decide +kernel

example : name 36 = "RTMIN+2" ∧ name 63 = "RTMAX-1" ∧ name 16 = "16" := by decide +kernel

end GoldenSuite.Shell.Signal
