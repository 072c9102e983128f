import WireSchema.Failure
import WireSchema.Workspace.Location

namespace WireSchema

/-!
The workspace of a run.

A run reads and writes files below its working directory.  The workspace is the state of these
files as a value: a list of entries by their names from the working directory.  An operation walks
a location name by name, so that every name but the last must be that of a directory.  A run is a
job on a workspace; when it fails, what it has done to the workspace before stays done.
-/

/-- The content of a file.  Generated files are texts, but a file that was there
before may be anything. -/
inductive Content where
  | text (value : String)
  /-- Bytes that are no text. -/
  | bytes (values : List UInt8)
deriving DecidableEq, Repr, Inhabited

/-- What has a location. -/
inductive Entry where
  | file (content : Content)
  | directory
deriving DecidableEq, Repr, Inhabited

/-- The files below a working directory, whose full path is `root`.  A run sees
no others: a path that leads out of the directory is the path of nothing. -/
structure Workspace where
  root : String
  entries : List (List String × Entry)
deriving Repr, Inhabited

namespace Workspace

/-! ## Entries by names -/

/-- The entry of names; the working directory itself is a directory. -/
def entry? (workspace : Workspace) (names : List String) : Option Entry :=
  if names.isEmpty then some .directory
  else (workspace.entries.find? (·.1 == names)).map (·.2)

def remove (workspace : Workspace) (names : List String) : Workspace :=
  { workspace with entries := workspace.entries.filter (·.1 != names) }

def put (workspace : Workspace) (names : List String) (entry : Entry) : Workspace :=
  let others := workspace.remove names
  { others with entries := others.entries ++ [(names, entry)] }

def isDirectory (workspace : Workspace) (names : List String) : Bool :=
  workspace.entry? names == some .directory

/-! ## Locations -/

/-- Why the names of a location are those of no file, whatever files there are.
It is found before the file system is looked at. -/
def pathFault? (location : Location) : Option FileFault :=
  if location.names.any Location.holdsPathEnd then some .noPath
  else if location.isLongPath then some .tooLong
  else none

/-- Walks from a directory along names.  Every name but the last must be that of
a directory, also when the next one leads up again. -/
def walk (workspace : Workspace) (done : List String) :
    List String → Except FileFault (List String)
  | [] => .ok done
  | name :: names =>
      match workspace.entry? done with
      | none => .error .notFound
      | some (.file _) => .error .notDirectory
      | some .directory =>
          if Location.isLongName name then .error .tooLong
          else if name = Location.parentMark then
            if done.isEmpty then .error .notFound else workspace.walk done.dropLast names
          else workspace.walk (done ++ [name]) names

/-- The names of a location from the working directory.  Nothing outside of it
can be reached, so that a location at the top of the file system, or above the
working directory, is refused as not found. -/
def locate (workspace : Workspace) (location : Location) : Except FileFault (List String) :=
  match pathFault? location with
  | some fault => .error fault
  | none =>
      if location.anchor = .top then .error .notFound else workspace.walk [] location.names

def locationOf (workspace : Workspace) (path : String) : Location :=
  Location.ofTextIn workspace.root path

def lookup? (workspace : Workspace) (location : Location) : Option Entry :=
  match workspace.locate location with
  | .ok names => workspace.entry? names
  | .error _ => none

/-- Whether a location is that of a directory around the working directory that is known without
looking: the top of the file system, or one that is reached by double points alone. -/
def isOuter (location : Location) : Bool :=
  location.names.all (· == Location.parentMark)
    && (location.anchor == .top || !location.names.isEmpty)

/-- What has a location, asked in a way in which a path that is too long is a
fault.  Any other fault on the way means that nothing is there. -/
def find (workspace : Workspace) (location : Location) : Except FileFault (Option Entry) :=
  if isOuter location then .ok (some .directory)
  else
    match workspace.locate location with
    | .ok names => .ok (workspace.entry? names)
    | .error .tooLong => .error .tooLong
    | .error _ => .ok none

def holds (workspace : Workspace) (location : Location) : Except FileFault Bool :=
  (workspace.find location).map Option.isSome

def holdsDirectory (workspace : Workspace) (location : Location) : Except FileFault Bool :=
  (workspace.find location).map (· == some .directory)

def read (workspace : Workspace) (location : Location) : Except FileFault Content := do
  if isOuter location then throw FileFault.isDirectory
  let names ← workspace.locate location
  match workspace.entry? names with
  | some (.file content) => return content
  | some .directory => throw FileFault.isDirectory
  | none => throw FileFault.notFound

/-! ## Directories -/

/-- Makes the directories of names, starting in a directory.  Those that were made stay when a later
one cannot be made. -/
def makeFrom (workspace : Workspace) (done : List String) :
    List String → Workspace × Except FileFault (List String)
  | [] => (workspace, .ok done)
  | name :: names =>
      if Location.isLongName name then (workspace, .error .tooLong)
      else if name = Location.parentMark then
        if done.isEmpty then (workspace, .error .notFound)
        else workspace.makeFrom done.dropLast names
      else
        let next := done ++ [name]
        match workspace.entry? next with
        | some .directory => workspace.makeFrom next names
        | some (.file _) =>
            (workspace, .error (if names.isEmpty then .exists else .notDirectory))
        | none => (workspace.put next .directory).makeFrom next names

/-- Makes a directory and those that hold it, and gives its names.  Like every
location, one outside the working directory is refused as not found, and nothing
is made for it. -/
def makeDirectory (workspace : Workspace) (location : Location) :
    Workspace × Except FileFault (List String) :=
  match pathFault? location with
  | some fault => (workspace, .error fault)
  | none =>
      if location.anchor = .top then (workspace, .error .notFound)
      else workspace.makeFrom [] location.names

/-! ## Listings -/

/-- Whether names come before other names: name by name in the order of texts. -/
def namesLe : List String → List String → Bool
  | [], _ => true
  | _ :: _, [] => false
  | first :: firsts, second :: seconds =>
      if first = second then namesLe firsts seconds else decide (first < second)

def listing (workspace : Workspace) : List (List String × Entry) :=
  workspace.entries.mergeSort fun first second => namesLe first.1 second.1

def namesBelow? : List String → List String → Option (List String)
  | [], names => some names
  | _ :: _, [] => none
  | first :: firsts, second :: seconds =>
      if first = second then namesBelow? firsts seconds else none

def below (workspace : Workspace) (names : List String) : List (List String × Entry) :=
  workspace.entries.filterMap fun entry =>
    match namesBelow? names entry.1 with
    | some (first :: rest) => some (first :: rest, entry.2)
    | _ => none

end Workspace

/-! ## Jobs -/

/-- A step of a run on a workspace. -/
abbrev Job := ExceptT Failure (StateM Workspace)

namespace Job

/-- A step that does not look at the workspace. -/
def lift {α : Type} (step : Outcome α) : Job α :=
  match step with
  | .ok value => pure value
  | .error failure => throw failure

def reading {α : Type} (step : Workspace → Outcome α) : Job α := do
  lift (step (← get))

/-- Makes a directory and those that hold it. -/
def makeDirectory (location : Location) : Job (List String) := do
  let (workspace, made) := (← get).makeDirectory location
  set workspace
  lift (made.mapError Failure.ofFile)

end Job

end WireSchema
