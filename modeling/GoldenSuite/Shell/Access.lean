import GoldenSuite.Shell.Transfer
import GoldenSuite.Shell.Script

/-!
# Files and devices

What a path leads to when it is looked at or opened: a directory, a regular file, one of the few
devices, or whatever a descriptor of the process leads to. To open a path yields a new stream.
-/

namespace GoldenSuite.Shell

/-- A location with a meaning of its own. -/
inductive Device where
  /-- What is written is gone, and nothing can be read. -/
  | null
  /-- There is never any space left. -/
  | full
  | terminal
  /-- Whatever a descriptor of the process leads to. -/
  | descriptor (number : Nat)
deriving DecidableEq, Repr

/-- Where the descriptors of a process have their names. -/
def descriptorDirectory : Location := ["proc", "self", "fd"]

/-- The descriptors that have names. -/
def namedDescriptors : List Nat :=
  List.range 10

/-- The devices with their locations. -/
def devices : List (Location × Device) :=
  [(["dev", "null"], .null), (["dev", "full"], .full), (["dev", "tty"], .terminal)] ++
    namedDescriptors.map fun number =>
      (descriptorDirectory ++ [toString number], .descriptor number)

def Device.at? (loc : Location) : Option Device :=
  devices.lookup loc

/-- What kind of thing stands somewhere. -/
inductive Kind where
  | directory
  | regular
  | link
  | device
  | pipe
deriving DecidableEq, Repr

/-- The kind of thing to which a place belongs. -/
def Place.kind : Place → Kind
  | .nowhere => .device
  | .full => .device
  | .report => .regular
  | .file _ => .regular
  | .directory _ => .directory
  | .pipe _ => .pipe

def noDevice : Fault := .system 6

namespace Machine

/-- The place to which a descriptor leads. -/
def placeOf? (m : Machine) (descriptor : Nat) : Option Place :=
  (m.streamOf? descriptor).map fun found => found.2.place

/-- The place at a location where something stands. -/
def placeAt (m : Machine) (loc : Location) (entry : Entry) : Except Fault Place :=
  match Device.at? loc, entry with
  | some .null, _ => .ok .nowhere
  | some .full, _ => .ok .full
  | some .terminal, _ => .error noDevice
  | some (.descriptor number), _ =>
    match m.placeOf? number with
    | some place => .ok place
    | none => .error .notFound
  | none, .directory => .ok (.directory loc)
  | none, .file _ => .ok (.file loc)
  | none, .link _ => .error .tooManyLinks

/-- What kind of thing a path leads to, and where it is. -/
def kindAt (m : Machine) (follow : Bool) (path : String) : Except Fault (Location × Kind) :=
  match m.workspace.find follow ⟨path⟩ with
  | .error fault => .error fault
  | .ok (loc, .link _) => .ok (loc, .link)
  | .ok (loc, entry) =>
    match Device.at? loc, m.placeAt loc entry with
    | some .terminal, _ => .ok (loc, .device)
    | _, .ok (.file loc) => .ok (loc, .regular)
    | _, .ok (.directory loc) => .ok (loc, .directory)
    | _, .ok place => .ok (loc, place.kind)
    | _, .error fault => .error fault

/-- How many bytes can be read at a path. -/
def sizeAt (m : Machine) (path : String) : Nat :=
  match m.workspace.find true ⟨path⟩ with
  | .error _ => 0
  | .ok (loc, entry) =>
    match m.placeAt loc entry with
    | .ok .report => m.world.scene.report.size
    | .ok (.file loc) => (m.world.scene.contentsAt loc).length
    | .ok (.directory _) => 4096
    | _ => 0

end Machine

/-- How a path is opened. -/
structure Access where
  reads : Bool := false
  writes : Bool := false
  appends : Bool := false
  /-- A file that is not there is made. -/
  creates : Bool := false
  /-- A file that is there loses its contents. -/
  empties : Bool := false
  /-- A file must not be there already. -/
  fresh : Bool := false

namespace Access

def reading : Access := { reads := true }

/-- To write something new. -/
def writing : Access := { writes := true, creates := true, empties := true }

/-- To write something where nothing is yet. -/
def making : Access := { writes := true, creates := true, fresh := true }

/-- How a redirection opens a path. -/
def ofOpening : Opening → Access
  | .input => reading
  | .output => writing
  | .overwriting => writing
  | .appending => { writes := true, creates := true, appends := true }
  | .both => { reads := true, writes := true, creates := true }

end Access

namespace Run

/-- Opens a stream to a place. -/
def openPlace (access : Access) (place : Place) : Run (Except Fault Nat) := do
  match place with
  | .directory _ =>
    if access.writes then pure (.error .isADirectory)
    else return .ok (← openStream { place, readable := true, writable := false })
  | _ =>
    if access.empties then act (·.truncate place)
    return .ok (← openStream
      { place, readable := access.reads, writable := access.writes, appending := access.appends })

/-- Opens a path and yields the number of the stream. -/
def openPath (access : Access) (path : String) : Run (Except Fault Nat) := do
  let m ← get
  let path : Path := ⟨path⟩
  let resolved (follow : Bool) := m.world.scene.tree.resolve m.process.here follow path
  if access.fresh && (resolved false matches .ok (.existing _)) then
    pure (.error .alreadyExists)
  else match resolved true with
    | .error .notFound =>
      let trimmed := m.world.scene.tree.resolve m.process.here true (Workspace.trimmed path)
      if access.creates && path.endsInSeparator && (trimmed matches .ok (.vacant _ _)) then
        pure (.error .isADirectory)
      else pure (.error .notFound)
    | .error .notADirectory =>
      let trimmed := m.workspace.isFile (Workspace.trimmed path)
      if access.creates && path.endsInSeparator && trimmed then pure (.error .isADirectory)
      else pure (.error .notADirectory)
    | .error fault => pure (.error fault)
    | .ok (.vacant directory name) =>
      if !access.creates then pure (.error .notFound)
      else do
        act fun scene => scene.addFile directory name
        openPlace access (.file (directory ++ [name]))
    | .ok (.existing loc) =>
      match m.world.scene.tree.get? loc with
      | none => pure (.error .notFound)
      | some entry =>
        match m.placeAt loc entry with
        | .error fault => pure (.error fault)
        | .ok place => openPlace access place

def readPath (path : String) : Run (Except Fault Bytes) := do
  match ← openPath .reading path with
  | .error fault => pure (.error fault)
  | .ok number =>
    match (← get).world.scene.stream? number with
    | some { place := .directory _, .. } => pure (.error .isADirectory)
    | _ => do
      let bytes ← readRest number
      pure (.ok bytes)

end Run

end GoldenSuite.Shell
