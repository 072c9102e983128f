import WireSchema.Document.Json.Reader
import WireSchema.Document.Yaml.Reader
import WireSchema.Text.Lowercase
import WireSchema.Workspace.Basic

namespace WireSchema.Workspace

/-!
Loading documents.

The suffix of a file decides the format in which it is read.  A document must be a mapping; one
that is null counts as an empty mapping.
-/

/-- The suffixes of YAML documents, in small letters. -/
def yamlSuffixes : List String := [".yaml", ".yml"]

/-- The value of a YAML document.  A value that does not exist is no fault of the document's
form. -/
def readYaml (path text : String) : Outcome Value :=
  (Yaml.read text).mapError fun
    | .malformed => .config (.malformed path .yaml)
    | .unusable => .ofShape .badContent

def readJson (path text : String) : Outcome Value :=
  (Json.read text).mapError fun
    | .malformed => .config (.malformed path .json)
    | .longInteger => .ofShape .badContent

/-- A fault on the way to a document.  A path that is none is not what is wrong with a document. -/
def unreadable (path : String) : FileFault → Failure
  | .noPath => .ofFile .noPath
  | fault => .config (.unreadable path fault)

/-- The value of a document at a location.  The suffix decides how it is read; a
text with another suffix is read as JSON. -/
def loadValue (workspace : Workspace) (location : Location) : Outcome Value := do
  let path := location.print workspace.root
  let content ← (workspace.read location).mapError (unreadable path)
  match content with
  | .bytes _ => throw (Failure.outer .encoding)
  | .text text =>
      if yamlSuffixes.contains (Text.lower location.suffix) then readYaml path text
      else readJson path text

def loadDocument (workspace : Workspace) (location : Location) : Outcome Value := do
  match ← workspace.loadValue location with
  | .null => return .map []
  | .map members => return .map members
  | _ => throw (Failure.config (.noMapping (location.print workspace.root)))

def loadOptions (workspace : Workspace) (location : Location) : Outcome Options := do
  Failure.readOptions (← workspace.loadDocument location)

def loadModel (workspace : Workspace) (location : Location) : Outcome Model := do
  Failure.readModel (← workspace.loadDocument location)

end WireSchema.Workspace
