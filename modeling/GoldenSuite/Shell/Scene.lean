import GoldenSuite.Workspace.Change

/-!
# What processes share

Processes share the files, the error stream that is kept of the whole run, the streams that they
have opened, the pipes between them and the signals on their way. A stream leads to a place and has a
position there, at which it goes on reading or writing; whoever uses the stream moves it. A file
can have several names; whatever is written to it under one of them is found under all. A pipe
knows how many processes may still write into it, and how many may read from it.
-/

namespace GoldenSuite.Shell

/-- Where a stream leads. -/
inductive Place where
  /-- What is written is gone, and nothing can be read. -/
  | nowhere
  /-- A device without any space left. -/
  | full
  /-- The error stream that is kept. -/
  | report
  | file (loc : Location)
  | directory (loc : Location)
  | pipe (number : Nat)
deriving DecidableEq, Repr

/-- A stream that has been opened. -/
structure Stream where
  place : Place
  readable : Bool
  writable : Bool
  /-- Whether everything is written at the end. -/
  appending : Bool := false
  /-- The position at which it goes on. -/
  position : Nat := 0
deriving DecidableEq, Repr

structure Pipe where
  /-- What is read next. -/
  front : Bytes := []
  /-- What was written after that, the last piece first. -/
  back : List Bytes := []
  /-- How many bytes may still be written, when there is a limit. -/
  room : Option Nat := none
  /-- How many processes may write into it. -/
  writers : Nat := 0
  /-- How many processes may read from it. -/
  readers : Nat := 0

namespace Pipe

/-- All that can be read. -/
def contents (pipe : Pipe) : Bytes :=
  if pipe.back.isEmpty then pipe.front else pipe.front ++ pipe.back.reverse.flatten

/-- Whether nothing can be read. -/
def isEmpty (pipe : Pipe) : Bool :=
  pipe.front.isEmpty && pipe.back.all List.isEmpty

/-- Writes bytes into a pipe. -/
def write (pipe : Pipe) (bytes : Bytes) : Pipe :=
  { pipe with back := bytes :: pipe.back, room := pipe.room.map (· - bytes.length) }

/-- Takes bytes out of a pipe. -/
def drop (pipe : Pipe) (count : Nat) : Pipe :=
  { pipe with front := pipe.contents.drop count, back := [], room := pipe.room.map (· + count) }

/-- Takes in that a process starts to use one end of a pipe. -/
def hold (pipe : Pipe) (writing : Bool) : Pipe :=
  if writing then { pipe with writers := pipe.writers + 1 }
  else { pipe with readers := pipe.readers + 1 }

/-- Takes in that a process no longer uses one end of a pipe. -/
def letGo (pipe : Pipe) (writing : Bool) : Pipe :=
  if writing then { pipe with writers := pipe.writers - 1 }
  else { pipe with readers := pipe.readers - 1 }

end Pipe

/-- A signal that has been sent to a process. -/
structure Sent where
  process : Nat
  signal : Nat
deriving DecidableEq, Repr

/-- What processes share. -/
structure Scene where
  tree : FileTree
  /-- The error stream that is kept. -/
  report : ByteArray := ByteArray.empty
  /-- The present time. -/
  now : Nat := 0
  /-- When files were last written, as far as that has happened since the start. -/
  written : List (Location × Nat) := []
  /-- The locations at which the same file stands, for files with several names. -/
  twins : List (List Location) := []
  streams : List (Nat × Stream) := []
  pipes : List (Nat × Pipe) := []
  /-- The signals of which nobody has taken notice yet, the first one first. -/
  sent : List Sent := []

namespace Scene

/-- Writes bytes over others from a position on; a gap before it is filled with zeros. -/
def splice (old : Bytes) (position : Nat) (bytes : Bytes) : Bytes :=
  old.take position ++ List.replicate (position - old.length) 0 ++ bytes ++
    old.drop (position + bytes.length)

/-- Writes bytes into an array from a position on. -/
def spliceArray (old : ByteArray) (position : Nat) (bytes : Bytes) : ByteArray :=
  if position = old.size then bytes.foldl ByteArray.push old
  else ⟨(splice old.data.toList position bytes).toArray⟩

def stream? (scene : Scene) (number : Nat) : Option Stream :=
  scene.streams.lookup number

def adjust (scene : Scene) (number : Nat) (change : Stream → Stream) : Scene :=
  { scene with
    streams := scene.streams.map fun pair =>
      if pair.1 = number then (pair.1, change pair.2) else pair }

/-- Adds a stream. -/
def addStream (scene : Scene) (number : Nat) (stream : Stream) : Scene :=
  { scene with streams := (number, stream) :: scene.streams }

/-- Adds a pipe. -/
def addPipe (scene : Scene) (number : Nat) (pipe : Pipe) : Scene :=
  { scene with pipes := (number, pipe) :: scene.pipes }

/-- The pipe with a number; one that is not there is empty. -/
def pipe (scene : Scene) (number : Nat) : Pipe :=
  (scene.pipes.lookup number).getD {}

def adjustPipe (scene : Scene) (number : Nat) (change : Pipe → Pipe) : Scene :=
  { scene with
    pipes := scene.pipes.map fun pair =>
      if pair.1 = number then (pair.1, change pair.2) else pair }

/-- The contents of the file at a location; of anything else there are none. -/
def contentsAt (scene : Scene) (loc : Location) : Bytes :=
  match scene.tree.get? loc with
  | some (.file contents) => contents
  | _ => []

/-- All locations of the file at a location. -/
def namesOf (scene : Scene) (loc : Location) : List Location :=
  (scene.twins.find? (loc ∈ ·)).getD [loc]

/-- Gives a file new contents. -/
def fill (scene : Scene) (loc : Location) (contents : Bytes) : Scene :=
  let names := scene.namesOf loc
  { scene with
    tree := names.foldl (fun tree name => tree.overwrite name contents) scene.tree
    written := names.map (fun name => (name, scene.now)) ++
      scene.written.filter fun pair => pair.1 ∉ names }

/-- Puts a new file into a directory. -/
def addFile (scene : Scene) (directory : Location) (name : String) : Scene :=
  { scene with
    tree := scene.tree.add directory name (.file [])
    written := (directory ++ [name], scene.now) :: scene.written }

/-- Gives a file another name in a directory. -/
def addName (scene : Scene) (loc directory : Location) (name : String) : Scene :=
  let names := scene.namesOf loc
  { scene with
    tree := scene.tree.add directory name (.file (scene.contentsAt loc))
    twins := ((directory ++ [name]) :: names) :: scene.twins.filter fun group => loc ∉ group }

/-- Takes what stands at a location out of its directory. -/
def removeEntry (scene : Scene) (loc : Location) : Scene :=
  { scene with
    tree := scene.tree.prune loc
    twins := scene.twins.map fun group => group.filter (· ≠ loc) }

/-- Writes bytes to a stream. -/
def write (scene : Scene) (number : Nat) (bytes : Bytes) : Scene :=
  match scene.stream? number with
  | none => scene
  | some stream =>
    let start (size : Nat) : Nat := if stream.appending then size else stream.position
    let moved (start : Nat) (scene : Scene) : Scene :=
      scene.adjust number fun s => { s with position := start + bytes.length }
    match stream.place with
    | .report =>
      let start := start scene.report.size
      moved start { scene with report := spliceArray scene.report start bytes }
    | .file loc =>
      let old := scene.contentsAt loc
      let start := start old.length
      moved start (scene.fill loc (splice old start bytes))
    | .pipe pipe => scene.adjustPipe pipe (·.write bytes)
    | _ => scene

/-- What can be read from a stream at once. -/
def contents (scene : Scene) (stream : Stream) : Bytes :=
  match stream.place with
  | .report => scene.report.data.toList.drop stream.position
  | .file loc => (scene.contentsAt loc).drop stream.position
  | .pipe pipe => (scene.pipe pipe).contents
  | _ => []

/-- Moves a stream past bytes that have been read. -/
def consume (scene : Scene) (number count : Nat) : Scene :=
  match scene.stream? number with
  | some { place := .pipe pipe, .. } => scene.adjustPipe pipe (·.drop count)
  | some _ => scene.adjust number fun s => { s with position := s.position + count }
  | none => scene

/-- Empties the file to which a place leads. -/
def truncate (scene : Scene) (place : Place) : Scene :=
  match place with
  | .report => { scene with report := ByteArray.empty }
  | .file loc => scene.fill loc []
  | _ => scene

/-- Lets a process start to use ends of pipes. -/
def hold (scene : Scene) (ends : List (Nat × Bool)) : Scene :=
  ends.foldl (fun scene pair => scene.adjustPipe pair.1 (·.hold pair.2)) scene

/-- Lets a process use ends of pipes no longer. -/
def letGo (scene : Scene) (ends : List (Nat × Bool)) : Scene :=
  ends.foldl (fun scene pair => scene.adjustPipe pair.1 (·.letGo pair.2)) scene

def send (scene : Scene) (process signal : Nat) : Scene :=
  { scene with sent := scene.sent ++ [{ process, signal }] }

/-- Takes away the signals that have been sent to a process. -/
def collect (scene : Scene) (process : Nat) : Scene :=
  { scene with sent := scene.sent.filter fun sent => sent.process ≠ process }

/-- Forgets the streams in a range of numbers that are not in use, and the pipes in another range
to which no stream leads any more. -/
def release (scene : Scene) (streamRange pipeRange : Nat × Nat) (used : List Nat) : Scene :=
  let within (range : Nat × Nat) (number : Nat) : Bool := range.1 ≤ number && number < range.2
  let streams := scene.streams.filter fun pair =>
    !within streamRange pair.1 || pair.1 ∈ used
  let leadsTo (number : Nat) : Bool := streams.any fun pair => pair.2.place = .pipe number
  { scene with
    streams
    pipes := scene.pipes.filter fun pair => !within pipeRange pair.1 || leadsTo pair.1 }

end Scene

end GoldenSuite.Shell
