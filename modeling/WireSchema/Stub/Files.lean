import WireSchema.FilePlan.Output
import WireSchema.Template.Store
import WireSchema.Text.Lines

namespace WireSchema.Stub

/-!
Files of adapter stubs.

The modules of stubs form a package.  A module that would hold nothing but comments and imports is
left out, and a package without modules is not written at all.  What the modules import must be
configured as soon as there is anything to convert or to serve.
-/

/-! ## Empty modules -/

/-- Whether a line defines nothing: it is blank, a comment or an import. -/
def isIdleLine (line : String) : Bool :=
  let content := Text.trim line
  content == "" || ["#", "import ", "from "].any (Text.startsWith content)

/-- Whether a module defines nothing.  Such a module is not written, so that a
package has no modules for what its model does not declare. -/
def isEffectivelyEmpty (content : String) : Bool :=
  (Text.linesOf content).all isIdleLine

/-! ## Required options -/

/-- Requires an option of stubs to be given, for a purpose. -/
def requireOption (value : Value) (option purpose : String) : Outcome Unit :=
  if value.isTruthy then .ok () else .error (.generation (.missingOption option purpose))

/-- Requires the modules that conversions and services import.  They are needed
only when there is something to convert or to serve. -/
def checkImports (data : StubData) : Outcome Unit := do
  if !(data.types.isEmpty && data.enums.isEmpty) then
    requireOption data.modulePath "module_path" "conversions"
    requireOption data.protobufPackage "protobuf_package" "conversions"
  if !data.services.isEmpty then
    requireOption data.grpcPackage "grpc_package" "service adapters"

/-! ## Files -/

def packageText : String :=
  "\"\"\"Conversions and gRPC adapters between domain types and protobuf messages.\"\"\"\n"

def moduleFileName (module : StubModule) : String := module.word ++ ".py"

def moduleTemplate (templates : TemplateOptions) : StubModule → Value
  | .types => templates.types
  | .adapter => templates.adapter
  | .client => templates.client
  | .bridge => templates.bridge
  | .registration => templates.registration

def writtenModules (stubs : StubOptions) : List StubModule :=
  StubModule.all.filter fun module => module != .registration || stubs.registrationHelpers.isTruthy

/-- A path below a directory; a name alone when the directory is empty. -/
def joinPath (directory name : String) : String :=
  if directory = "" || Text.endsWith directory "/" then directory ++ name
  else directory ++ "/" ++ name

def packageFile (stubs : StubOptions) (name content : String) (template : Value) :
    Outcome FilePlan.GeneratedFile :=
  match stubs.outputDirectory with
  | .text directory =>
      .ok { path := joinPath directory name, content, provenance := .stub template }
  | _ => .error (.ofShape .wrongKind)

/-- What has been made of a package so far. -/
structure PackageState where
  store : TemplateStore
  files : List FilePlan.GeneratedFile

/-- Makes one module, unless it would define nothing.  The store goes on to the
next module in any case, for a template is read once and kept. -/
def addModule (workspace : Workspace) (stubs : StubOptions) (templates : TemplateOptions)
    (data : StubData) (made : PackageState) (module : StubModule) : Outcome PackageState := do
  let template := moduleTemplate templates module
  let name ← TemplateStore.nameOf template
  let (store, found) ← made.store.get workspace name
  let content ← found.render name (.stubs data)
  if isEffectivelyEmpty content then return { made with store }
  let file ← packageFile stubs (moduleFileName module) content template
  return { store, files := made.files ++ [file] }

def moduleFiles (workspace : Workspace) (stubs : StubOptions) (store : TemplateStore)
    (data : StubData) : Outcome (List FilePlan.GeneratedFile) := do
  let templates ← Failure.liftShape stubs.templates.content
  let made ← (writtenModules stubs).foldlM (addModule workspace stubs templates data)
    { store, files := [] }
  return made.files

def packageFiles (workspace : Workspace) (stubs : StubOptions) (store : TemplateStore)
    (data : StubData) : Outcome (List FilePlan.GeneratedFile) := do
  checkImports data
  let files ← moduleFiles workspace stubs store data
  if files.isEmpty then return []
  return (← packageFile stubs "__init__.py" packageText (.text "")) :: files

/-- Everything that a package is made of. -/
structure PackageSource where
  stubs : StubOptions
  store : TemplateStore
  data : StubData

def PackageSource.of (workspace : Workspace) (model : Model) (options : Options)
    (commandLine : String) : Outcome PackageSource := do
  let stubs ← Failure.liftShape options.stubs.content
  let store ← TemplateStore.ofOptions workspace stubs.templates
  let context := SchemaContext.of model options
  let data ← Failure.liftShape (StubData.of context stubs commandLine)
  return { stubs, store, data }

def generate (workspace : Workspace) (model : Model) (options : Options) (commandLine : String) :
    Outcome (List FilePlan.GeneratedFile) := do
  let source ← PackageSource.of workspace model options commandLine
  packageFiles workspace source.stubs source.store source.data

end WireSchema.Stub
