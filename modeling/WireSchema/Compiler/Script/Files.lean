import WireSchema.Compiler.Script.Bytes
import WireSchema.Compiler.Script.Condition
import WireSchema.Workspace.Basic

namespace WireSchema.Script

/-!
Files as scripts see them.

A script works in a folder of the workspace, from which relative paths start.  The contents of files
are texts of bytes.  The empty file of the system takes everything and holds nothing.
-/

/-- The folder of a workspace in which a script works. -/
structure Folder where
  workspace : Workspace
  names : List String
deriving Inhabited

namespace Folder

/-- The path of the file that takes everything. -/
def emptyFile : String := "/dev/null"

def locationOf (folder : Folder) (path : String) : Location :=
  let location := folder.workspace.locationOf ((textOf? path).getD path)
  if location.anchor = .relative then { location with names := folder.names ++ location.names }
  else location

def namesOf (folder : Folder) (path : String) : Except FileFault (List String) :=
  if path = "" then .error .notFound else folder.workspace.locate (folder.locationOf path)

def entry? (folder : Folder) (path : String) : Option Entry :=
  ((folder.namesOf path).toOption).bind folder.workspace.entry?

def bytesIn : Content → String
  | .text value => spelled value
  | .bytes values => String.ofList (values.map fun byte => Char.ofNat byte.toNat)

def contentOf (bytes : String) : Content :=
  match textOf? bytes with
  | some value => .text value
  | none => .bytes (bytesOf bytes)

def kindOf (folder : Folder) (path : String) : FileKind :=
  match folder.entry? path with
  | some .directory => .directory
  | some (.file content) => .file (bytesIn content == "")
  | none =>
      if Workspace.isOuter (folder.locationOf path) && path != "" then .directory else .missing

def read (folder : Folder) (path : String) : Except FileFault String :=
  if path = emptyFile then .ok ""
  else do
    let names ← folder.namesOf path
    match folder.workspace.entry? names with
    | some (.file content) => return bytesIn content
    | some .directory => throw FileFault.isDirectory
    | none => throw FileFault.notFound

/-- A folder in whose workspace names are those of a file with bytes. -/
def store (folder : Folder) (names : List String) (bytes : String) : Folder :=
  { folder with workspace := folder.workspace.put names (.file (contentOf bytes)) }

/-- The names of a file that is written to, and the bytes that it holds. -/
def target (folder : Folder) (path : String) : Except FileFault (List String × String) := do
  let names ← folder.namesOf path
  match folder.workspace.entry? names with
  | some .directory => throw FileFault.isDirectory
  | some (.file content) => return (names, bytesIn content)
  | none =>
      if (folder.workspace.entry? names.dropLast) == some .directory then return (names, "")
      else throw FileFault.notFound

/-- The names of what a folder holds, in order. -/
def contents (folder : Folder) (names : List String) : List String :=
  let found := (folder.workspace.below names).filterMap fun entry =>
    match entry.1 with
    | [name] => some (spelled name)
    | _ => none
  found.mergeSort fun first second => decide (first ≤ second)

/-- How a fault of a file is told. -/
def faultText : FileFault → String
  | .isDirectory => "Is a directory"
  | .notDirectory => "Not a directory"
  | .exists => "File exists"
  | .busy => "Device or resource busy"
  | .tooLong => "File name too long"
  | .notAdmitted => "Permission denied"
  | _ => "No such file or directory"

end Folder

end WireSchema.Script
