import GoldenSuite.Shell.Utility.Mkdir

/-!
# Copying files

The program that copies files and, on demand, directories with all that is in them. A directory
that is there already is added to. Links are copied as such, or what they lead to is copied;
instead of being copied a file can also be given another name. What one call has made it does
not overwrite.
-/

namespace GoldenSuite.Shell.Utility

namespace Cp

/-- The options. -/
def flags : List Flag :=
  [{ key := "a", letters := ['a'], names := ["archive"] },
   { key := "attributes", names := ["attributes-only"] },
   { key := "b", letters := ['b'], names := ["backup"], value := .optional },
   { key := "contents", names := ["copy-contents"] },
   { key := "L", letters := ['L'], names := ["dereference"] },
   { key := "f", letters := ['f'], names := ["force"] },
   { key := "H", letters := ['H'] },
   { key := "i", letters := ['i'], names := ["interactive"] },
   { key := "l", letters := ['l'], names := ["link"] },
   { key := "n", letters := ['n'], names := ["no-clobber"] },
   { key := "P", letters := ['P'], names := ["no-dereference"] },
   { key := "d", letters := ['d'] },
   { key := "no-preserve", names := ["no-preserve"], value := .always },
   { key := "T", letters := ['T'], names := ["no-target-directory"] },
   { key := "x", letters := ['x'], names := ["one-file-system"] },
   { key := "parents", names := ["parents"] },
   { key := "p", letters := ['p'] },
   { key := "preserve", names := ["preserve"], value := .optional },
   { key := "r", letters := ['r', 'R'], names := ["recursive"] },
   { key := "remove", names := ["remove-destination"] },
   { key := "sparse", names := ["sparse"], value := .always },
   { key := "reflink", names := ["reflink"], value := .optional },
   { key := "strip", names := ["strip-trailing-slashes"] },
   { key := "S", letters := ['S'], names := ["suffix"], value := .always },
   { key := "s", letters := ['s'], names := ["symbolic-link"] },
   { key := "t", letters := ['t'], names := ["target-directory"], value := .always },
   { key := "u", letters := ['u'], names := ["update"] },
   { key := "v", letters := ['v'], names := ["verbose"] },
   { key := "Z", letters := ['Z'], names := ["context"], value := .optional }]

/-- Which links are followed. -/
inductive Following where
  | every
  | none
  /-- Those that are operands. -/
  | operands
deriving DecidableEq, Repr

/-- What is done about a file that is there already. -/
inductive Overwriting where
  | yes
  | no
  | ask
deriving DecidableEq, Repr

/-- How files are copied. -/
structure Manner where
  name : String
  recursive : Bool
  following : Following
  overwriting : Overwriting
  force : Bool
  link : Bool
  symbolic : Bool
  update : Bool
  removeFirst : Bool
  verbose : Bool
  /-- Whether there are several sources, which could be in each other's way. -/
  several : Bool := false
  /-- The operand that is being copied, and to where. -/
  source : String := ""
  target : String := ""

/-- The manner that a call asks for. -/
def Manner.ofCall (name : String) (call : Call) : Manner :=
  let recursive := call.has "r" || call.has "a"
  let following := match call.last? ["L", "P", "d", "a", "H"] with
    | some "L" => .every
    | some "H" => .operands
    | some _ => .none
    | none => if recursive && !call.has "l" then .none else .every
  { name, recursive, following
    overwriting := match call.last? ["n", "i", "f"] with
      | some "n" => .no
      | some "i" => .ask
      | _ => if call.has "n" then .no else .yes
    force := call.has "f", link := call.has "l", symbolic := call.has "s"
    update := call.has "u", removeFirst := call.has "remove", verbose := call.has "v" }

/-- What has been done so far. -/
structure Progress where
  status : Nat := 0
  /-- Where the sources stand that have been copied. -/
  sources : List Location := []
  /-- What has been made for sources. -/
  made : List Location := []
  /-- Directories that have been copied or made, and where their copies are. -/
  directories : List (Location × Location) := []
  /-- Whether a directory has been made for the present operand. -/
  begun : Bool := false
  /-- Whether a directory is being copied into itself. -/
  intoItself : Bool := false

/-- Says, when that is wanted, what is copied to where. -/
def announce (manner : Manner) (source target : String) : Run Unit :=
  if manner.verbose then Run.sayLine s!"{source} -> {target}" else pure ()

/-- Says that something cannot be done. -/
def blame (manner : Manner) (p : Progress) (problem : String) : Run Progress := do
  Run.object manner.name problem
  pure { p with status := 1 }

/-- What stands at a path. -/
def look (follow : Bool) (path : String) : Run (Except Fault (Location × Entry)) := do
  pure ((← Run.workspace).find follow ⟨path⟩)

/-- Whether what stands somewhere is a link. -/
def isLink : Except Fault (Location × Entry) → Bool
  | .ok (_, .link _) => true
  | _ => false

/-- A path within a directory. -/
def inside (directory name : String) : String :=
  if directory.toList.getLast? == some '/' then directory ++ name else s!"{directory}/{name}"

/-! ### Single files -/

/-- Puts a new entry at a path; `replace` says whether one that is there makes way. -/
def putEntry (replace : Bool) (path : String) (put : Location → String → Scene → Scene) :
    Run (Except Fault Unit) := do
  let ws ← Run.workspace
  match ws.tree.resolve ws.here false ⟨path⟩ with
  | .error fault => pure (.error fault)
  | .ok (.vacant directory name) => do
    Run.act (put directory name)
    pure (.ok ())
  | .ok (.existing loc) =>
    if replace && !ws.tree.IsDirectory loc then do
      Run.act fun scene => put loc.dropLast (loc.getLast?.getD "") (scene.removeEntry loc)
      pure (.ok ())
    else pure (.error .alreadyExists)

/-- Removes the entry at a path. -/
def remove (path : String) : Run Unit := do
  match ← look false path with
  | .ok (loc, _) => Run.act (·.removeEntry loc)
  | .error _ => pure ()

/-- Opens the file to which contents are copied. -/
def openTarget (manner : Manner) (path : String) (isNew : Bool) : Run (Except Fault Nat) := do
  let make : Run (Except Fault Nat) := do
    match ← Run.openPath .making path with
    | .error .isADirectory => pure (.error .notADirectory)
    | opened => pure opened
  if isNew then make
  else match ← Run.openPath { writes := true, empties := true } path with
    | .ok number => pure (.ok number)
    | .error .notFound => make
    | .error fault =>
      if manner.force then
        remove path
        make
      else pure (.error fault)

/-- Copies the contents of a file. -/
def copyContents (manner : Manner) (source target : String) (isNew : Bool) (p : Progress) :
    Run Progress := do
  match ← Run.openPath .reading source with
  | .error fault =>
    blame manner p s!"cannot open {Mention.always source} for reading: {fault.plain}"
  | .ok origin =>
    match ← openTarget manner target isNew with
    | .error fault =>
      if fault = .alreadyExists && isLink (← look false target) then
        blame manner p s!"not writing through dangling symlink {Mention.always target}"
      else
        blame manner p s!"cannot create regular file {Mention.always target}: {fault.plain}"
    | .ok number =>
      let bytes ← Run.readRest origin
      match (← get).world.scene.stream? number with
      | none => pure p
      | some stream =>
        match ← Run.writeTo number stream bytes with
        | none => pure p
        | some fault => blame manner p s!"error writing {Mention.always target}: {fault.plain}"

/-- Makes a symbolic link to a source. -/
def linkTo (manner : Manner) (source target : String) (p : Progress) : Run Progress := do
  let ws ← Run.workspace
  let chars := target.toList
  let above := (chars.reverse.dropWhile (· ≠ '/')).reverse
  let here :=
    above.isEmpty ||
      ((ws.find true ⟨String.ofList above⟩).toOption.map Prod.fst).all (· = ws.here)
  if source.toList.head? != some '/' && !here then
    let problem := "can make relative symbolic links only in current directory"
    blame manner p s!"{Mention.needed target}: {problem}"
  else
    let put (directory : Location) (name : String) (scene : Scene) : Scene :=
      { scene with tree := scene.tree.add directory name (.link ⟨source⟩) }
    match ← putEntry manner.force target put with
    | .ok () => pure p
    | .error fault =>
      blame manner p (s!"cannot create symbolic link {Mention.always target} to " ++
        s!"{Mention.always source}: {fault.plain}")

/-- Gives a source another name. -/
def nameAlso (manner : Manner) (top : Bool) (source target : String) (p : Progress) :
    Run Progress := do
  let follow := manner.following = .every || (top && manner.following = .operands)
  match ← look follow source with
  | .error fault => blame manner p s!"cannot access {Mention.always source}: {fault.plain}"
  | .ok (loc, entry) =>
    let put (directory : Location) (name : String) (scene : Scene) : Scene :=
      match entry with
      | .file _ => scene.addName loc directory name
      | _ => { scene with tree := scene.tree.add directory name entry }
    match ← putEntry (manner.force || manner.overwriting = .ask) target put with
    | .ok () => pure p
    | .error fault =>
      blame manner p (s!"cannot create hard link {Mention.always target} to " ++
        s!"{Mention.always source}: {fault.plain}")

/-- Copies a link as such. -/
def copyLink (manner : Manner) (target : String) (link : Path) (p : Progress) : Run Progress := do
  let put (directory : Location) (name : String) (scene : Scene) : Scene :=
    { scene with tree := scene.tree.add directory name (.link link) }
  match ← putEntry manner.force target put with
  | .ok () => pure p
  | .error fault =>
    blame manner p s!"cannot create symbolic link {Mention.always target}: {fault.plain}"

/-! ### What is there already -/

/-- What becomes of a file that is there already. -/
inductive Verdict where
  /-- The copy goes on; the file may have been removed. -/
  | goOn (isNew : Bool)
  /-- Nothing has to be done. -/
  | enough
  | refused (problem : String)
deriving DecidableEq, Repr

/-- Whether a file can be copied to where another one is: the two must not be the same. Nothing
has to be done when they are to be the same. -/
def mayReplace (manner : Manner) (source target : String) (origin goal : Location × Entry) :
    Run (Option Bool) := do
  let scene := (← get).world.scene
  let same := goal.1 ∈ scene.namesOf origin.1
  let differ (a b : Location × Entry) : Bool := b.1 ∉ scene.namesOf a.1
  let sourceEntry := (← look false source).toOption.getD origin
  let targetEntry := (← look false target).toOption.getD goal
  let linked (entry : Location × Entry) : Bool := entry.2 matches .link _
  if same && manner.link then pure none
  else if manner.following = .none then
    if linked origin && linked goal then pure (some (origin.1 ≠ goal.1))
    else if !linked origin && !linked goal then pure (some (differ origin goal))
    else
      let real (entry : Location × Entry) (path : String) : Run (Option Location) := do
        if linked entry then pure ((← look true path).toOption.map Prod.fst)
        else pure (some entry.1)
      match ← real origin source, ← real goal target with
      | some a, some b => pure (some (b ∉ scene.namesOf a))
      | _, _ => pure (some true)
  else if !same then pure (some true)
  else if linked targetEntry && (manner.removeFirst || manner.symbolic) then pure (some true)
  else if !linked sourceEntry && !linked targetEntry then
    pure (some (differ sourceEntry targetEntry))
  else pure (some false)

/-- Whether somebody wants a file to be overwritten. -/
def asksFor (manner : Manner) (target : String) : Run Bool := do
  Run.print 2 s!"{manner.name}: overwrite {Mention.always target}? "
  match ← Run.readLine 0 with
  | .ok (line, _) => pure (line.head? == some 0x79 || line.head? == some 0x59)
  | .error _ => pure false

/-- What becomes of the target that is there already. -/
def meet (manner : Manner) (top : Bool) (source target : String) (origin goal : Location × Entry)
    (p : Progress) : Run Verdict := do
  let isDirectory (entry : Location × Entry) : Bool := entry.2 matches .directory
  let written := (← get).world.scene.written
  let time (loc : Location) : Nat := (written.lookup loc).getD 0
  let allowed ←
    if manner.overwriting = .no then pure (some true)
    else mayReplace manner source target origin goal
  if allowed = some false then
    pure (.refused s!"{Mention.always source} and {Mention.always target} are the same file")
  else if manner.update && !isDirectory origin && time origin.1 ≤ time goal.1 then pure .enough
  else if !isDirectory origin && manner.overwriting = .no then pure .enough
  else
    let wanted ←
      if !isDirectory origin && manner.overwriting = .ask then asksFor manner target else pure true
    if !wanted || allowed.isNone then pure .enough
    else if !isDirectory goal && isDirectory origin then
      pure (.refused (s!"cannot overwrite non-directory {Mention.always target} with directory " ++
        s!"{Mention.always source}"))
    else if !isDirectory goal && top && manner.several && goal.1 ∈ p.made then
      pure (.refused (s!"will not overwrite just-created {Mention.always target} with " ++
        s!"{Mention.always source}"))
    else if isDirectory goal && !isDirectory origin then
      pure (.refused s!"cannot overwrite directory {Mention.always target} with non-directory")
    else
      let makesWay := manner.removeFirst || (manner.following = .none && origin.2 matches .link _)
      if !isDirectory goal && makesWay then
        remove target
        pure (.goOn true)
      else pure (.goOn false)

/-! ### Everything -/

/-- Notes what has been made at a path for an operand. -/
def record (manner : Manner) (top : Bool) (target : String) (p : Progress) : Run Progress := do
  match top && manner.several, ← look false target with
  | true, .ok (loc, _) => pure { p with made := loc :: p.made }
  | _, _ => pure p

/-- Copies what stands at a path to another path. `isNew` says that nothing is there yet; `above`
are the directories that are being copied. At most `fuel` directories lie in each other. -/
def copy (manner : Manner) :
    Nat → Bool → Bool → List Location → String → String → Progress → Run Progress
  | 0, _, _, _, _, _, p => pure p
  | fuel + 1, top, isNew, above, source, target, p => do
    let follow := manner.following = .every || (top && manner.following = .operands)
    match ← look follow source with
    | .error fault => blame manner p s!"cannot stat {Mention.always source}: {fault.plain}"
    | .ok origin =>
      let isDirectory := origin.2 matches .directory
      if isDirectory && !manner.recursive then
        blame manner p s!"-r not specified; omitting directory {Mention.always source}"
      else
        let entry := ((← look false source).toOption.map Prod.fst).getD origin.1
        let again := top && manner.several && !isDirectory && entry ∈ p.sources
        let p := if top && manner.several then { p with sources := entry :: p.sources } else p
        if again then
          Run.object manner.name
            s!"warning: source file {Mention.always source} specified more than once"
          pure p
        else
          let asLink := !(origin.2 matches .file _) || manner.symbolic || manner.link ||
            manner.removeFirst
          let verdict ←
            if isNew then pure (.goOn true)
            else match ← look (!asLink) target with
              | .ok goal => meet manner top source target origin goal p
              | .error .notFound => pure (.goOn true)
              | .error fault =>
                pure (.refused s!"cannot stat {Mention.always target}: {fault.plain}")
          match verdict with
          | .enough => pure p
          | .refused problem => blame manner p problem
          | .goOn isNew =>
            let there ← look false target
            let through := top && manner.several && isLink there &&
              (there.toOption.map Prod.fst).any (· ∈ p.made)
            if !isDirectory && !through then
              announce manner (Mention.always source) (Mention.always target)
            if through then
              blame manner p (s!"will not copy {Mention.always source} through just-created " ++
                s!"symlink {Mention.always target}")
            else match origin.2 with
              | .directory =>
                let earlier := p.directories.lookup origin.1
                let there := (← look false target).toOption.map Prod.fst
                if earlier.isSome && !top && earlier = some origin.1 then
                  let p ← blame manner p (s!"cannot copy a directory, " ++
                    s!"{Mention.always manner.source}, into itself, {Mention.always manner.target}")
                  pure { p with intoItself := true }
                else if earlier.isSome && top && there = earlier then
                  Run.object manner.name
                    s!"warning: source directory {Mention.always source} specified more than once"
                  pure p
                else if origin.1 ∈ above then
                  blame manner p s!"cannot copy cyclic symbolic link {Mention.always source}"
                else
                  let made ← if isNew then Run.makeDirectory target else pure (.ok ())
                  match made with
                  | .error fault =>
                    blame manner p
                      s!"cannot create directory {Mention.always target}: {fault.plain}"
                  | .ok () =>
                    let place := ((← look true target).toOption.map Prod.fst).getD []
                    let known := if isNew && !p.begun then [(place, place)] else []
                    let own := if top then [(origin.1, place)] else []
                    let p := { p with
                      directories := known ++ own ++ p.directories
                      begun := p.begun || isNew }
                    if isNew then
                      announce manner (Mention.always source) (Mention.always target)
                    let names := ((← Run.workspace).tree.children origin.1).reverse
                    let p ← names.foldlM (fun p name =>
                      if p.intoItself then pure p
                      else
                        copy manner fuel false isNew (origin.1 :: above) (inside source name)
                          (inside target name) p) p
                    record manner top target p
              | .link link => do
                let p ← if manner.symbolic then linkTo manner source target p
                  else if manner.link then nameAlso manner top source target p
                  else copyLink manner target link p
                record manner top target p
              | .file _ => do
                let p ← if manner.symbolic then linkTo manner source target p
                  else if manner.link then nameAlso manner top source target p
                  else copyContents manner source target isNew p
                record manner top target p

/-- Copies what an operand names. -/
def copyOperand (manner : Manner) (isNew : Bool) (source target : String) (p : Progress) :
    Run Progress := do
  let fuel := (← Run.workspace).tree.entries.length + 2
  let p := { p with begun := false, intoItself := false }
  copy { manner with source, target } fuel true isNew [] source target p

/-- The last name in a path, with nothing after it. -/
def lastName (path : String) : String :=
  let trimmed := path.toList.reverse.dropWhile (· = '/')
  let name := String.ofList (trimmed.takeWhile (· ≠ '/')).reverse
  if name = ".." then "." else name

/-- A path without the slashes at its end. -/
def withoutSlashes (path : String) : String :=
  String.ofList (path.toList.reverse.dropWhile (· = '/')).reverse

/-- Makes the directories within a directory that are on the way to the copy of an operand;
whether that was possible. -/
def makeParents (manner : Manner) (directory : String) :
    List String → Progress → Run (Bool × Progress)
  | [], p => pure (true, p)
  | start :: others, p => do
    let path := inside directory start
    match ← look true path with
    | .ok (_, .directory) => makeParents manner directory others p
    | .ok _ => do
      pure (false, ← blame manner p s!"{Mention.always path} exists but is not a directory")
    | .error _ =>
      let fault := match ← look true start with
        | .ok (_, .directory) => none
        | .ok _ => some Fault.notADirectory
        | .error fault => some fault
      match fault with
      | some fault => do
        let problem := s!"failed to get attributes of {Mention.always start}: {fault.plain}"
        pure (false, ← blame manner p problem)
      | none =>
        match ← Run.makeDirectory path with
        | .error fault => do
          let problem := s!"cannot make directory {Mention.always path}: {fault.plain}"
          pure (false, ← blame manner p problem)
        | .ok () => do
          announce manner start path
          makeParents manner directory others p

/-- Copies operands into a directory. -/
def copyInto (manner : Manner) (parents strip : Bool) (directory : String) :
    List String → Progress → Run Progress
  | [], p => pure p
  | operand :: others, p => do
    let operand := if strip then withoutSlashes operand else operand
    if parents then
      let trimmed := withoutSlashes operand
      let (possible, p) ← makeParents manner directory (Mkdir.starts [] trimmed.toList) p
      let p ← if possible then copyOperand manner false operand (inside directory trimmed) p
        else pure p
      copyInto manner parents strip directory others p
    else
      let p ← copyOperand manner false operand (inside directory (lastName operand)) p
      copyInto manner parents strip directory others p

/-- What is wrong with a directory to which operands should be copied. -/
def directoryFault (path : String) : Run (Option Fault) := do
  match ← look true path with
  | .ok (_, .directory) => pure none
  | .ok _ => pure (some .notADirectory)
  | .error fault => pure (some fault)

/-- Copies one operand to another one. -/
def copyOnto (manner : Manner) (parents strip : Bool) (source target : String) : Run Nat := do
  if parents then
    Run.misused manner.name "with --parents, the destination must be a directory"
  else
    let source := if strip then withoutSlashes source else source
    let p ← copyOperand manner false source target {}
    Run.closeSpeech manner.name p.status

end Cp

/-- Copies files. -/
def cp (name : String) (arguments : List String) : Run Nat :=
  Run.withCall name Cp.flags arguments fun call => do
    let manner := Cp.Manner.ofCall name call
    let parents := call.has "parents"
    let strip := call.has "strip"
    let into (directory : String) (sources : List String) : Run Nat := do
      let manner := { manner with several := 2 ≤ sources.length }
      let p ← Cp.copyInto manner parents strip directory sources {}
      Run.closeSpeech name p.status
    match call.operands, call.value? "t" with
    | [], _ => Run.misused name "missing file operand"
    | [only], none =>
      Run.misused name s!"missing destination file operand after {Mention.always only}"
    | sources, some directory =>
      if call.has "T" then
        Run.objectWith 1 name
          "cannot combine --target-directory (-t) and --no-target-directory (-T)"
      else match ← Cp.directoryFault directory with
        | none => into directory sources
        | some fault =>
          Run.objectWith 1 name s!"target directory {Mention.always directory}: {fault.plain}"
    | first :: second :: others, none =>
      if call.has "T" then
        match others with
        | [] => Cp.copyOnto manner parents strip first second
        | extra :: _ => Run.misused name s!"extra operand {Mention.always extra}"
      else
        let sources := (first :: second :: others).dropLast
        let target := (second :: others).getLast?.getD second
        match ← Cp.directoryFault target with
        | none => into target sources
        | some fault =>
          if others.isEmpty then Cp.copyOnto manner parents strip first target
          else Run.objectWith 1 name s!"target {Mention.always target}: {fault.plain}"

end GoldenSuite.Shell.Utility
