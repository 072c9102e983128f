import WireSchema.CommandLine.Run
import WireSchema.Compiler.Script.Launcher

namespace WireSchema.Program

/-!
The command-line program.

The files below the working directory are read, the tool runs on them as on a value, and what it
has changed is written back.  Everything that is decided here is how outer faults are called.
-/

/-- How an outer fault is called. -/
def faultText : OuterFault → String
  | .shape .noOperation => "a value does not have what is asked of it"
  | .shape .wrongKind => "a value has the wrong kind"
  | .shape (.missing name) => "missing member " ++ Text.quoted name
  | .shape .badContent => "a value cannot be used"
  | .file .notFound => "no such file or directory"
  | .file .isDirectory => "is a directory"
  | .file .notDirectory => "not a directory"
  | .file .exists => "file exists"
  | .file .busy => "the place is in use"
  | .file .tooLong => "the name is too long"
  | .file .noPath => "not a path"
  | .file .notAdmitted => "not admitted"
  | .encoding => "not a text"
  | .json => "not a JSON document"
  | .yaml => "not a YAML document"
  | .module => "not a module"
  | .template => "not a template"
  | .undefined => "a name stands for nothing"
  | .commandLine => "not a command line"

def contentOf (bytes : ByteArray) : Content :=
  match String.fromUTF8? bytes with
  | some text => .text text
  | none => .bytes bytes.toList

/-- The entries of a directory and of those below it; `above` are the names of the directory. -/
partial def readEntries (above : List String) (found : Array IO.FS.DirEntry) :
    IO (List (List String × Entry)) := do
  let mut entries := []
  for entry in found do
    let names := above ++ [entry.fileName]
    if ← entry.path.isDir then
      entries := entries ++ (names, Entry.directory) :: (← readEntries names (← entry.path.readDir))
    else
      entries := entries ++ [(names, .file (contentOf (← IO.FS.readBinFile entry.path)))]
  return entries

def bytesOf : Content → ByteArray
  | .text text => text.toUTF8
  | .bytes bytes => ⟨bytes.toArray⟩

/-- Writes what differs from the workspace as it was read. -/
def writeChanges (before after : Workspace) : IO Unit :=
  after.listing.forM fun (names, entry) => do
    if before.entry? names != some entry then
      let path := String.intercalate "/" names
      match entry with
      | .directory => IO.FS.createDirAll path
      | .file content => IO.FS.writeBinFile path (bytesOf content)

/-- Tells how a run has ended. -/
def tellEnding : CommandLine.Ending → IO Unit
  | .done => return
  | .misused => IO.eprintln "Error: the command line cannot be used"
  | .failed failure => IO.eprintln ("Error: " ++ CommandLine.failureText faultText failure)

/-- Runs the tool on the files below the working directory. -/
def run (words : List String) : IO UInt32 := do
  let directory ← IO.currentDir
  let entries ← readEntries [] (← directory.readDir)
  let before : Workspace := { root := directory.toString, entries }
  let report := CommandLine.runTool plainLauncher before words
  writeChanges before report.workspace
  IO.print report.output
  tellEnding report.ending
  return report.ending.code.toUInt32

end WireSchema.Program

/-- The command-line program. -/
def main (words : List String) : IO UInt32 := WireSchema.Program.run words
