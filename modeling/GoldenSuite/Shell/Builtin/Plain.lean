import GoldenSuite.Shell.Builtin.Basic
import GoldenSuite.Shell.Condition
import GoldenSuite.Shell.Printing

/-!
# Simple commands of the shell

The commands that leave loops, functions and scripts, write a text, answer a condition, or tell
and set limits.
-/

namespace GoldenSuite.Shell.Builtin

/-! ### Leaving -/

/-- Leaves loops, as many as there are at most; `stop` says how. -/
def leaveLoops (stop : Nat → Stop) : Builtin := fun arguments => do
  let count ← match arguments with
    | [] => pure 1
    | argument :: _ => do
      let count ← Run.argumentNumber argument
      if count = 0 then Run.giveUp s!"Illegal number: {argument}" else pure count
  let loops := (← Run.process).loops
  if loops = 0 then pure 0 else throw (stop (min count loops - 1))

/-- The status with which something is left: the one that is given, or else the last one. -/
def leavingStatus (arguments : List String) : Run Nat := do
  match arguments with
  | [] => do
    let p ← Run.process
    pure (p.leaving.getD p.status)
  | argument :: _ => Run.argumentNumber argument

/-- Ends the script. -/
def exit : Builtin := fun arguments => do
  throw (.exited (← leavingStatus arguments))

/-- Leaves a function or a script that is read in. -/
def return_ : Builtin := fun arguments => do
  throw (.returned (← leavingStatus arguments))

/-! ### Texts and conditions -/

/-- Writes its arguments. -/
def echo : Builtin := fun arguments => do
  Run.say (Printing.echo arguments)
  pure 0

/-- What is said about an argument that should be a number. -/
def doubtWording (argument : String) : Doubt → String
  | .noNumber => s!"{argument}: expected numeric value"
  | .incomplete => s!"{argument}: not completely converted"
  | .outOfRange => s!"{argument}: {(Fault.system 34).plain}"

/-- Writes its arguments in a format. -/
def printf : Builtin := fun arguments => do
  match ← takeOperands arguments with
  | [] => Run.giveUp "usage: printf format [arg ...]"
  | format :: values =>
    let pass := Printing.printf format values
    Run.say pass.written
    for (argument, doubt) in pass.doubts.reverse do
      Run.complainHere (doubtWording argument doubt)
    match pass.misfit with
    | some misfit => Run.giveUp misfit.message
    | none => pure (if pass.doubts.isEmpty then 0 else 1)

/-- Answers a condition by its status. -/
def test : Builtin := fun arguments => do
  match Condition.evaluate (← get) arguments with
  | .ok true => pure 0
  | .ok false => pure 1
  | .error problem => Run.giveUp problem.message

/-- Answers a condition between brackets. Of the closing one only the first character counts. -/
def bracket : Builtin := fun arguments =>
  if (arguments.getLast?.getD "").startsWith "]" then test arguments.dropLast
  else Run.giveUp (Condition.Problem.message .noBracket)

/-! ### Limits -/

/-- The permissions that a mask leaves to one kind of user. -/
def permissions (mask shift : Nat) : String :=
  String.ofList (([('r', 4), ('w', 2), ('x', 1)].filter fun entry =>
    (mask >>> shift) &&& entry.2 = 0).map Prod.fst)

/-- The kinds of users that letters name, as bits of a mask. -/
def userBits (letters : List Char) : Nat :=
  let bits (c : Char) : Nat :=
    if c = 'u' then 0o700 else if c = 'g' then 0o70 else if c = 'o' then 0o7
    else if c = 'a' then 0o777 else 0
  let all := letters.foldl (fun sum c => sum ||| bits c) 0
  if letters.isEmpty then 0o777 else all

/-- The permissions that letters name, for all users. -/
def permissionBits (letters : List Char) : Option Nat :=
  letters.foldl (fun sum c => do
    let sum ← sum
    let bits ← [('r', 0o444), ('w', 0o222), ('x', 0o111), ('X', 0), ('s', 0), ('t', 0)].lookup c
    pure (sum ||| bits)) (some 0)

/-- The mask after one change such as `g+w`. -/
def changedMask (mask : Nat) (change : List Char) : Option Nat := do
  let users := userBits (change.takeWhile (· ∈ ['u', 'g', 'o', 'a']))
  match change.dropWhile (· ∈ ['u', 'g', 'o', 'a']) with
  | sign :: letters =>
    let bits ← permissionBits letters
    let chosen := users &&& bits
    match sign with
    | '+' => some (mask &&& (0o777 ^^^ chosen))
    | '-' => some (mask ||| chosen)
    | '=' => some ((mask &&& (0o777 ^^^ users)) ||| (users &&& (0o777 ^^^ bits)))
    | _ => none
  | [] => none

/-- The mask after several changes. -/
def changedMasks (mask : Nat) (text : String) : Option Nat :=
  (text.splitOn ",").foldl (fun mask change => do changedMask (← mask) change.toList) (some mask)

/-- The number that octal digits show. -/
def octal? (digits : List Char) : Option Nat :=
  if digits.all Printing.isOctal then
    some (digits.foldl (fun value c => 8 * value + (c.toNat - '0'.toNat)) 0)
  else none

/-- Tells or sets the permissions that new files do not get. -/
def umask : Builtin := fun arguments => do
  let (options, operands) ← takeOptions [('S', false)] arguments
  let mask := (← Run.process).mask
  match operands with
  | [] =>
    if options.isEmpty then
      let digits := Nat.toDigits 8 mask
      Run.sayLine (String.ofList (List.replicate (4 - digits.length) '0' ++ digits))
    else
      Run.sayLine
        s!"u={permissions mask 6},g={permissions mask 3},o={permissions mask 0}"
    pure 0
  | text :: _ =>
    let value ← if text.toList.head?.any Char.isDigit then
        match octal? text.toList with
        | some value => pure (value &&& 0o777)
        | none => Run.giveUp s!"Illegal number: {text}"
      else
        match changedMasks mask text with
        | some value => pure value
        | none => Run.giveUp s!"Illegal mode: {text}"
    Run.change fun p => { p with mask := value }
    pure 0

/-- Tells how much time has been used: next to none. -/
def times : Builtin := fun _ => do
  Run.sayLine "0m0.000000s 0m0.000000s"
  Run.sayLine "0m0.000000s 0m0.000000s"
  pure 0

/-- Tells limits, of which there are none. -/
def ulimit : Builtin := fun arguments => do
  let letters := "HSatfdscmlpnvwr".toList.map fun letter => (letter, false)
  let (_, operands) ← takeOptions letters arguments
  if operands.isEmpty then Run.sayLine "unlimited"
  pure 0

end GoldenSuite.Shell.Builtin
