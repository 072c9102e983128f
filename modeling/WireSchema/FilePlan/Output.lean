import WireSchema.FilePlan.Partition
import WireSchema.Format.Emitter

namespace WireSchema.FilePlan

/-!
Output files.

Every group of a model becomes a schema file and a file for each further format.  The groups share
the model, so that templates, functions and annotations are the same in each of them; only the
declarations and the place of other types differ.  A group that fails makes the whole run fail, and
so do two files of one path.
-/

/-- Where a generated file comes from.  It is recorded with the file and has no
influence on its content. -/
inductive Provenance where
  /-- From a group of declarations, in a format. -/
  | schema (strategy : Strategy) (group : String) (format : OutputFormat)
  /-- From a template of adapter stubs. -/
  | stub (template : Value)
deriving Repr, BEq

/-- The name under which the key of a group is recorded, besides `group`. -/
def Strategy.keyLabel? : Strategy → Option String
  | .single => none
  | .follow => some "source_file"
  | .package => some "package"
  | .namespaces => some "namespace"

/-- What is recorded of the provenance of a file.  The key of the group is
recorded a second time under the name that belongs to the strategy. -/
def Provenance.members : Provenance → List (String × Value)
  | schema strategy group format =>
      [("strategy", .text strategy.word), ("group", .text group)]
        ++ ((Strategy.keyLabel? strategy).map fun label => (label, Value.text group)).toList
        ++ [("format", .text format.word)]
  | stub template => [("artifact", .text "stub"), ("template", template)]

/-- A file that is to be written.  Its path starts from the directory of the
output, and what is there already is not known here. -/
structure GeneratedFile where
  path : String
  content : String
  provenance : Provenance
deriving Repr, BEq

/-- The places of types that the units of a run know.  A strategy that makes a single file has no
use for them. -/
def knownTypeFiles (options : Options) (groups : List FileGroup) :
    Asked (List (Value × String)) :=
  if options.isMultiFile then typeFiles groups else .ok []

/-- The unit of a group: the declarations of the group, or the whole model for a
single file.  In a unit of a group the model is whole all the same, since fields
may refer to any of its types. -/
def unitOf (options : Options) (model : Model) (typeFiles : List (Value × String))
    (group : FileGroup) : SchemaUnit :=
  if options.isMultiFile then
    { model
      composites := group.composites
      enums := group.enums
      services := group.services
      file := group.file
      typeFiles }
  else model.wholeUnit

/-- The further formats of a run.  Output formats that are kept unread can only be the schema text
itself: any other one is not a format when its file is named. -/
def furtherFormats (options : Options) : Outcome (List FurtherFormat) :=
  match options.outputFormats with
  | .read formats => .ok (formats.filterMap FurtherFormat.ofFormat?)
  | .lacking => .error (.ofShape .noOperation)
  | .kept value => do
      let items ← Failure.liftShape value.items
      match items.find? fun item => !(item == Value.text OutputFormat.proto.word) with
      | none => return []
      | some item =>
          let _ ← FurtherFormat.ofWord (← Failure.liftShape item.askText)
          throw (Failure.ofShape .noOperation)

def formatFile (context : SchemaContext) (strategy : Strategy) (group : FileGroup)
    (schema : SchemaUnit) (further : FurtherFormat) : Outcome GeneratedFile := do
  let format := further.format
  let path ← Failure.liftShape
    (formatFileName group.file context.options.outputFileName group.name format further.extension)
  let content ← (Failure.liftShape (further.emit context schema)).mapError (.inFormat format)
  return { path, content, provenance := .schema strategy group.key format }

/-- The files of a group: its schema file and then its further formats in the order of the
options. -/
def groupFiles (options : Options) (group : FileGroup) (schema : SchemaUnit) :
    Outcome (List GeneratedFile) := do
  let strategy ← Failure.liftShape options.strategy.content
  let context := SchemaContext.of schema.model options
  let content ← ProtoText.generate context schema
  let formats ← furtherFormats options
  let further ← formats.mapM (formatFile context strategy group schema)
  return { path := group.file, content
           provenance := .schema strategy group.key .proto } :: further

/-- A failure inside a group.  Findings are passed on as they are: they name the
message and the field themselves. -/
def inGroup (key : String) : Failure → Failure
  | .invalid findings => .invalid findings
  | cause => .inGroup key cause

abbrev KeyedOutput := String × GeneratedFile

/-- Adds a file of a group to those of earlier ones.  Its path must be a new one,
for a later file would overwrite the other without a trace. -/
def addFile (key : String) (known : List KeyedOutput) (file : GeneratedFile) :
    Outcome (List KeyedOutput) :=
  match known.find? (·.2.path == file.path) with
  | some owner => .error (.generation (.sharedFile owner.1 key file.path))
  | none => .ok (known ++ [(key, file)])

/-- Adds the files of a group to those of earlier ones.  A failure on the way is
reported for this group, by its key. -/
def addGroup (options : Options) (model : Model) (typeFiles : List (Value × String))
    (known : List KeyedOutput) (group : FileGroup) : Outcome (List KeyedOutput) := do
  let files ← (groupFiles options group (unitOf options model typeFiles group)).mapError
    (inGroup group.key)
  files.foldlM (addFile group.key) known

/-- All output files of a model, group by group.  The first failure ends the run,
and nothing has been written by then. -/
def generate (options : Options) (model : Model) : Outcome (List GeneratedFile) := do
  let groups ← partition options model
  let typeFiles ← Failure.liftShape (knownTypeFiles options groups)
  let files ← groups.foldlM (addGroup options model typeFiles) []
  return files.map (·.2)

end WireSchema.FilePlan
