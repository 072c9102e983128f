import WireSchema.Document.Json.Reader
import WireSchema.FilePlan.Output
import WireSchema.Text.ModuleForm
import WireSchema.Workspace.Basic

namespace WireSchema.Workspace

/-!
Writing files.

A file is staged beside its destination, its content is checked, and only then does it take the
place of the destination.  Whatever goes wrong after staging, the staged file is removed and the
destination is left as it was; directories that were made for it stay.  Of several files the first
ones stay written when a later one fails.
-/

/-! ## Checks -/

/-- A check of contents, with the suffix of the files to which it is applied.
What is checked is the staged file, so that a refused content never comes to its
destination. -/
structure ContentCheck where
  suffix : String
  check : String → Outcome Unit

/-- Accepts modules that are built by their rules. -/
def checkModule (content : String) : Outcome Unit :=
  if Text.isModuleForm content then .ok ()
  else .error (.generation (.malformedContent "Python code" .module))

/-- Accepts JSON documents. -/
def checkJson (content : String) : Outcome Unit :=
  match Json.read content with
  | .ok _ => .ok ()
  | .error .malformed => .error (.generation (.malformedContent "JSON" .json))
  | .error .longInteger => .error (.ofShape .badContent)

/-- The checks that are made unless there is another one for the suffix. -/
def standardChecks : List ContentCheck :=
  [{ suffix := ".py", check := checkModule }, { suffix := ".json", check := checkJson }]

/-- Checks a content for a location by the first check of its suffix. -/
def checkContent (checks : List ContentCheck) (location : Location) (content : String) :
    Outcome Unit :=
  match checks.find? (·.suffix == location.suffix) with
  | some check => check.check content
  | none => .ok ()

/-! ## One file -/

def longestName (entries : List (List String × Entry)) : Nat :=
  entries.foldl (fun longest entry => max longest (entry.1.getLast?.getD "").length) 0

/-- The names of a staged file.  Its name is longer than that of any entry, so
that no entry has it: staging replaces nothing that was there. -/
def stagedNames (workspace : Workspace) (directory : List String) (name : String) :
    List String :=
  let filler := String.ofList (List.replicate (longestName workspace.entries) '_')
  directory ++ ["." ++ name ++ "." ++ filler ++ ".tmp"]

/-- The number of characters that the name of a staged file has besides the name of its
destination. -/
def stagedExcess : Nat := 14

/-- Why no file can be staged for a name. -/
def stagingFault? (name : String) : Option FileFault :=
  if Location.holdsPathEnd name then some .noPath
  else if Location.maxNameLength < name.utf8ByteSize + stagedExcess then some .tooLong
  else none

/-- Why nothing can be put at a location, if it names a directory by its place. -/
def placeFault? (location : Location) : Option FileFault :=
  if location.name = Location.parentMark then some .busy
  else if location.name = "" then
    some (if location.anchor = .relative then .busy else .isDirectory)
  else none

/-- Moves a staged file to its destination, over the file that is there.  A
directory is not replaced, and a place without a name of its own takes no
file. -/
def install (workspace : Workspace) (staged directory : List String) (location : Location)
    (content : String) : Except FileFault Workspace :=
  let destination := directory ++ [location.name]
  match placeFault? location with
  | some fault => .error fault
  | none =>
      if workspace.isDirectory destination then .error .isDirectory
      else .ok ((workspace.remove staged).put destination (.file (.text content)))

/-- Checks the content of a staged file and moves it to its destination. -/
def accept (workspace : Workspace) (checks : List ContentCheck) (staged directory : List String)
    (location : Location) (content : String) : Outcome Workspace := do
  checkContent checks location content
  (workspace.install staged directory location content).mapError Failure.ofFile

def writeFile (checks : List ContentCheck) (location : Location) (content : String) : Job Unit := do
  let directory ← Job.makeDirectory location.parent
  if let some fault := stagingFault? location.name then throw (Failure.ofFile fault)
  let before ← get
  let staged := before.stagedNames directory location.name
  let during := before.put staged (.file (.text content))
  match during.accept checks staged directory location content with
  | .ok after => set after
  | .error failure =>
      set (during.remove staged)
      throw failure

/-! ## Several files -/

/-- Writes files below a base directory and gives their locations.  Files are
written one after the other, and those before a failure stay. -/
def writeFiles (checks : List ContentCheck) (base : Location)
    (files : List FilePlan.GeneratedFile) : Job (List Location) :=
  files.mapM fun file => do
    let location := base.joinText file.path
    writeFile checks location file.content
    return location

end WireSchema.Workspace
