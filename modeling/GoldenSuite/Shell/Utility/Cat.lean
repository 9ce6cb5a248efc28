import GoldenSuite.Shell.Access
import GoldenSuite.Shell.Flags

/-!
# Writing out files

The program that writes the contents of files one after the other. On demand lines are numbered,
blank lines taken together, and what cannot be seen is made visible.
-/

namespace GoldenSuite.Shell.Utility

namespace Cat

/-- Which lines get a number. -/
inductive Numbering where
  | nothing
  | all
  | notBlank
deriving DecidableEq, Repr

/-- How contents are shown. -/
structure Style where
  numbering : Numbering := .nothing
  /-- Only one of several blank lines is shown. -/
  squeeze : Bool := false
  /-- The ends of lines are marked. -/
  ends : Bool := false
  tabs : Bool := false
  /-- Bytes that cannot be printed are shown. -/
  unprintable : Bool := false
deriving DecidableEq, Repr

/-- Where in its lines the output is. -/
inductive Position where
  | inside
  /-- At the start of a line, after so many blank ones. -/
  | start (blank : Nat)
deriving DecidableEq, Repr

/-- What is known while contents are shown. -/
structure Progress where
  lines : Nat := 0
  position : Position := .start 0
  /-- Whether a carriage return is held back. -/
  returned : Bool := false
  /-- What has been written, the last byte first. -/
  output : Bytes := []

def ascii (chars : List Char) : Bytes :=
  chars.map Octets.toByte

/-- A byte below 128 so that it can be seen. -/
def visibleLow (byte : UInt8) : Bytes :=
  if byte = 0x7F then ascii ['^', '?']
  else if byte < 0x20 then [0x5E, byte + 0x40]
  else [byte]

/-- A byte so that it can be seen. -/
def visible (byte : UInt8) : Bytes :=
  if byte < 0x80 then visibleLow byte else ascii ['M', '-'] ++ visibleLow (byte - 0x80)

namespace Progress

/-- Writes bytes. -/
def put (p : Progress) (bytes : Bytes) : Progress :=
  { p with output := bytes.reverse ++ p.output }

/-- Writes the number of the next line. -/
def number (p : Progress) : Progress :=
  let digits := Nat.toDigits 10 (p.lines + 1)
  let padded := List.replicate (6 - digits.length) ' ' ++ digits ++ ['\t']
  { p.put (ascii padded) with lines := p.lines + 1 }

/-- Takes in the end of a line. -/
def newline (style : Style) (p : Progress) : Progress :=
  match p.position with
  | .inside =>
    let p := if p.returned then p.put (ascii ['^', 'M']) else p
    { p.put (if style.ends then [0x24, 0x0A] else [0x0A]) with
      position := .start 0, returned := false }
  | .start blank =>
    if style.squeeze && 1 ≤ blank then p
    else
      let p := if style.numbering = .all then p.number else p
      { p.put (if style.ends then [0x24, 0x0A] else [0x0A]) with position := .start (blank + 1) }

def take (style : Style) (p : Progress) (byte : UInt8) : Progress :=
  if byte = 0x0A then p.newline style
  else
    let numbered := p.position ≠ .inside && style.numbering ≠ .nothing
    let p := if p.returned then { p.put [0x0D] with returned := false } else p
    let p := { (if numbered then p.number else p) with position := .inside }
    if byte = 0x09 then p.put (if style.tabs then ascii ['^', 'I'] else [byte])
    else if style.unprintable then p.put (visible byte)
    else if style.ends && byte = 0x0D then { p with returned := true }
    else p.put [byte]

/-- Takes in bytes; also what is written for them. -/
def takeAll (style : Style) (p : Progress) (bytes : Bytes) : Bytes × Progress :=
  if style = {} then (bytes, p)
  else
    let p := bytes.foldl (take style) { p with output := [] }
    (p.output.reverse, { p with output := [] })

end Progress

/-- The options. -/
def flags : List Flag :=
  [{ key := "b", letters := ['b'], names := ["number-nonblank"] },
   { key := "n", letters := ['n'], names := ["number"] },
   { key := "s", letters := ['s'], names := ["squeeze-blank"] },
   { key := "v", letters := ['v'], names := ["show-nonprinting"] },
   { key := "E", letters := ['E'], names := ["show-ends"] },
   { key := "T", letters := ['T'], names := ["show-tabs"] },
   { key := "A", letters := ['A'], names := ["show-all"] },
   { key := "e", letters := ['e'] }, { key := "t", letters := ['t'] },
   { key := "u", letters := ['u'] }]

/-- How a call wants contents to be shown. -/
def Style.ofCall (call : Call) : Style where
  numbering := if call.has "b" then .notBlank else if call.has "n" then .all else .nothing
  squeeze := call.has "s"
  ends := call.has "E" || call.has "A" || call.has "e"
  tabs := call.has "T" || call.has "A" || call.has "t"
  unprintable := call.has "v" || call.has "A" || call.has "e" || call.has "t"

/-- Shows what a stream still holds. There is nothing to go on with when it cannot be written. -/
def showStream (name : String) (style : Style) (number : Nat) :
    Nat → Progress → Run (Option Progress)
  | 0, p => pure (some p)
  | fuel + 1, p => do
    match (← get).world.scene.stream? number with
    | none => pure (some p)
    | some stream =>
      if ← Run.waitFor stream.place then
        let bytes := (← get).world.scene.contents stream
        if bytes.isEmpty then pure (some p)
        else
          Run.act (·.consume number bytes.length)
          let (output, p) := p.takeAll style bytes
          let failure ← if output.isEmpty then pure none else Run.write 1 output
          match failure with
          | none => showStream name style number fuel p
          | some fault => do
            Run.complain s!"{name}: write error: {fault.plain}"
            pure none
      else pure (some p)

/-- Whether a stream would be copied to itself by writing it to the output. -/
def isOutput (m : Machine) (number : Nat) : Bool :=
  match m.world.scene.stream? number, m.placeOf? 1 with
  | some stream, some place =>
    let regular := place.kind = .regular
    let same := match stream.place, place with
      | .file a, .file b => b ∈ m.world.scene.namesOf a
      | a, b => a = b
    regular && same && !(m.world.scene.contents stream).isEmpty
  | _, _ => false

/-- Opens the file that an operand names. -/
def openOperand (operand : String) : Run (Except Fault Nat) := do
  let opened ← if operand = "-" then Run.source 0 else Run.openPath .reading operand
  match opened with
  | .error fault => pure (.error fault)
  | .ok number =>
    match (← get).world.scene.stream? number with
    | some { place := .directory _, .. } => pure (.error .isADirectory)
    | _ => pure (.ok number)

/-- Shows the files that operands name; `status` is the status so far. -/
def showAll (name : String) (style : Style) : List String → Nat → Progress → Run Nat
  | [], status, p => do
    if p.returned then
      discard (Run.write 1 [0x0D])
    pure status
  | operand :: others, status, p => do
    let blame (problem : String) : Run Nat := do
      Run.complain s!"{name}: {Mention.needed operand}: {problem}"
      showAll name style others 1 p
    match ← openOperand operand with
    | .error fault => blame fault.plain
    | .ok number =>
      if isOutput (← get) number then blame "input file is output file"
      else match ← showStream name style number Run.plenty p with
        | some p => showAll name style others status p
        | none => pure 1

end Cat

/-- Writes the contents of files to the output. -/
def cat (name : String) (arguments : List String) : Run Nat :=
  Run.withCall name Cat.flags arguments fun call => do
    let operands := if call.operands.isEmpty then ["-"] else call.operands
    if ((← get).placeOf? 1).isNone then
      Run.refuse 1 s!"{name}: standard output: {Run.badDescriptor.plain}"
    else
      let status ← Cat.showAll name (.ofCall call) operands 0 {}
      if "-" ∈ operands && ((← get).placeOf? 0).isNone then
        Run.refuse 1 s!"{name}: closing standard input: {Run.badDescriptor.plain}"
      else pure status

end GoldenSuite.Shell.Utility
