import GoldenSuite.Shell.Waiting

/-!
# Reading and writing

Bytes are read from and written to the streams to which the descriptors of a process lead.
Messages about a script go to its error stream, behind the name of the script and the number of
the line.
-/

namespace GoldenSuite.Shell.Run

/-! ### Streams -/

/-- Opens a stream and yields its number. -/
def openStream (stream : Stream) : Run Nat := do
  let m ← get
  let number := m.world.nextStream
  set { m with world := { m.world with nextStream := number + 1 } }
  act (·.addStream number stream)
  pure number

/-- Opens a pipe and yields its number. -/
def openPipe (pipe : Pipe) : Run Nat := do
  let m ← get
  let number := m.world.nextPipe
  set { m with world := { m.world with nextPipe := number + 1 } }
  act (·.addPipe number pipe)
  pure number

/-- Lets a descriptor lead to a stream, or nowhere at all. -/
def connect (descriptor : Nat) (stream : Option Nat) : Run Unit :=
  change fun p =>
    let others := p.descriptors.filter fun pair => pair.1 ≠ descriptor
    { p with
      descriptors := (stream.map fun number => (descriptor, number)).toList ++ others }

/-- The fault of a descriptor that leads nowhere. -/
def badDescriptor : Fault := .system 9

/-- The fault of a device without space. -/
def noSpace : Fault := .system 28

/-! ### Writing -/

/-- Has a pipe that nobody reads from: the process is told by a signal. -/
def breakPipe : Run (Option Fault) := do
  let number := (← process).number
  act (·.send number 13)
  heed
  pure (some .brokenPipe)

/-- Writes bytes into a pipe. What there is no room for has to wait. -/
def writePipe (number pipe : Nat) : Nat → Bytes → Run (Option Fault)
  | 0, _ => throw .endless
  | fuel + 1, bytes => do
    let found := (← get).world.scene.pipe pipe
    if found.readers = 0 then breakPipe
    else match found.room.filter (· < bytes.length) with
      | none => do
        act (·.write number bytes)
        pure none
      | some room => do
        if 0 < room then act (·.write number (bytes.take room))
        waitForRoom pipe
        writePipe number pipe fuel (bytes.drop room)

/-- Writes bytes to the stream with a number; what is wrong with it, if anything. -/
def writeTo (number : Nat) (stream : Stream) (bytes : Bytes) : Run (Option Fault) := do
  if !stream.writable then pure (some badDescriptor)
  else if bytes.isEmpty then pure none
  else
    match stream.place with
    | .full => pure (some noSpace)
    | .pipe pipe => writePipe number pipe plenty bytes
    | _ => do
      act (·.write number bytes)
      pure none

/-- Writes bytes to a descriptor; what is wrong with it, if anything. -/
def write (descriptor : Nat) (bytes : Bytes) : Run (Option Fault) := do
  match (← get).streamOf? descriptor with
  | some (number, stream) => writeTo number stream bytes
  | none => pure (some badDescriptor)

/-! ### Reading -/

/-- Reads bytes from a stream as far as `enough` says, and whether that was reached; `fuel` bounds
how often more is waited for. -/
def readWhile (number : Nat) (enough : Bytes → Option Nat) :
    Nat → Bytes → Run (Bytes × Bool)
  | 0, found => pure (found, false)
  | fuel + 1, found => do
    match (← get).world.scene.stream? number with
    | none => pure (found, false)
    | some stream =>
      if ← waitFor stream.place then
        let bytes := (← get).world.scene.contents stream
        match enough bytes with
        | some count => do
          act (·.consume number count)
          pure (found ++ bytes.take count, true)
        | none =>
          if bytes.isEmpty then pure (found, false)
          else do
            act (·.consume number bytes.length)
            readWhile number enough fuel (found ++ bytes)
      else pure (found, false)

/-- Reads all that is left of a stream. -/
def readRest (number : Nat) : Run Bytes := do
  let (bytes, _) ← readWhile number (fun _ => none) plenty []
  pure bytes

/-- The stream from which a descriptor lets bytes be read. -/
def source (descriptor : Nat) : Run (Except Fault Nat) := do
  match (← get).streamOf? descriptor with
  | some (number, stream) =>
    match stream.place with
    | .directory _ => pure (.error .isADirectory)
    | _ => pure (if stream.readable then .ok number else .error badDescriptor)
  | none => pure (.error badDescriptor)

/-- Reads all that is left. -/
def readAll (descriptor : Nat) : Run (Except Fault Bytes) := do
  match ← source descriptor with
  | .ok number => do return .ok (← readRest number)
  | .error fault => pure (.error fault)

/-- How many bytes a line takes up with its end, when that is there. -/
def lineLength? (bytes : Bytes) : Option Nat :=
  (bytes.findIdx? (· = 0x0A)).map (· + 1)

/-- Reads a line; whether its end was there. -/
def readLine (descriptor : Nat) : Run (Except Fault (Bytes × Bool)) := do
  match ← source descriptor with
  | .ok number => do
    let (bytes, whole) ← readWhile number lineLength? plenty []
    pure (.ok (if whole then bytes.dropLast else bytes, whole))
  | .error fault => pure (.error fault)

/-! ### Messages -/

/-- Writes a text to a descriptor and does not mind when that cannot be done. -/
def print (descriptor : Nat) (text : String) : Run Unit := do
  discard (write descriptor (Octets.toBytes text))

/-- Writes a line to the error stream. -/
def complain (line : String) : Run Unit :=
  print 2 (line ++ "\n")

/-- Writes a line to the error stream and yields a status. -/
def refuse (status : Nat) (line : String) : Run Nat := do
  complain line
  pure status

/-- Writes a line about the script to the error stream: the name of the script, the number of
its line and the command of the shell that is being run come first. -/
def complainHere (text : String) : Run Unit := do
  let p ← process
  let command := match p.command with
    | some command => s!"{command}: "
    | none => ""
  complain s!"{p.name}: {p.line}: {command}{text}"

/-- Writes a line about the script to the error stream and stops because of it. -/
def giveUp {α : Type} (text : String) : Run α := do
  complainHere text
  change fun p => { p with status := 2 }
  throw .failed

end GoldenSuite.Shell.Run
