import WireSchema.Stub.Document
import WireSchema.Template.Text
import WireSchema.Workspace.Basic

namespace WireSchema

/-!
The store of templates.

Templates are found by name: in the directory that the options give, when they give one, and then
among the templates of the tool.  A template that was found once is kept, so that a later change of
its file has no effect; a failure is not kept.
-/

inductive Template where
  /-- A module of the tool. -/
  | module (module : Stub.StubModule)
  /-- A text with places. -/
  | text (pieces : List Template.Piece)
deriving DecidableEq, Repr

inductive TemplateScope where
  | document (members : Members)
  | stubs (data : Stub.StubData)
deriving Repr

namespace TemplateScope

/-- The names that a text template reads. -/
def names : TemplateScope → Template.Scope
  | document members => Template.scopeOf members
  | stubs data => data.scope

def dataFor (module : Stub.StubModule) : TemplateScope → Except OuterFault Stub.StubData
  | document members => Stub.StubData.ofMembers module members
  | stubs data => .ok data

end TemplateScope

namespace Template

/-- A fault while a template is filled; the fault of a value is passed on as it is. -/
def runFailure (name : String) : OuterFault → Failure
  | .undefined => .generation (.templateRun name .undefined)
  | fault => .outer fault

def LookupFault.outer : LookupFault → OuterFault
  | undefined => .undefined
  | shape fault => .shape fault

/-- The text of a module of the tool. -/
def moduleContent (module : Stub.StubModule) (scope : TemplateScope) :
    Except OuterFault String := do
  if scope.names.any (·.1 == selfName) then throw (OuterFault.shape .wrongKind)
  let data ← scope.dataFor module
  let lines ← (module.lines data).mapError OuterFault.shape
  return Stub.moduleText lines

def render (name : String) (scope : TemplateScope) : Template → Outcome String
  | .module made => (moduleContent made scope).mapError (runFailure name)
  | .text pieces => (fill name scope.names pieces).mapError fun fault => runFailure name fault.outer

/-! ## Finding -/

/-- The parts of a template's name; none when it leaves the directory of templates. -/
def nameParts? (name : String) : Option (List String) :=
  let parts := Location.namesOf name
  if parts.contains Location.parentMark then none else some parts

/-- The name of a module's template. -/
def moduleFile (module : Stub.StubModule) : String := module.word ++ ".py.jinja2"

/-- The template of the tool with a name. -/
def embedded? (parts : List String) : Option Template :=
  (Stub.StubModule.all.find? fun module => parts == [moduleFile module]).map Template.module

def ofContent (name : String) : Content → Outcome Template
  | .bytes _ => .error (.outer .encoding)
  | .text content =>
      match parse content with
      | .ok pieces => .ok (.text pieces)
      | .error line => .error (.generation (.templateText name line .template))

end Template

structure TemplateStore where
  /-- The directory in which templates are looked for first. -/
  directory : Option Location
  kept : List (String × Template)
deriving Repr

namespace TemplateStore

/-- The directory of templates that options give; it must exist. -/
def directoryOf (workspace : Workspace) (options : TemplateOptions) : Outcome (Option Location) :=
  if options.source.alternative? TemplateSource.all TemplateSource.word == some .directory then do
    let path ← Failure.liftShape (options.basePath.orElse (.text ".")).admitText
    let location := workspace.locationOf path
    if ← (workspace.holdsDirectory location).mapError Failure.ofFile then return some location
    else throw (Failure.generation (.missingTemplateDirectory (location.print workspace.root)))
  else .ok none

def ofOptions (workspace : Workspace) (options : Section TemplateOptions) :
    Outcome TemplateStore := do
  let options ← Failure.liftShape options.content
  return { directory := ← directoryOf workspace options, kept := [] }

def fileContent? (store : TemplateStore) (workspace : Workspace) (parts : List String) :
    Option Content := do
  let directory ← store.directory
  match ← workspace.lookup? { directory with names := directory.names ++ parts } with
  | .file content => some content
  | .directory => none

def find (store : TemplateStore) (workspace : Workspace) (name : String) : Outcome Template :=
  let missing := Except.error (Failure.generation (.missingTemplate name))
  match Template.nameParts? name with
  | none => missing
  | some parts =>
      match store.fileContent? workspace parts with
      | some content => Template.ofContent name content
      | none =>
          match Template.embedded? parts with
          | some template => .ok template
          | none => missing

def nameOf : Value → Outcome String
  | .text name => .ok name
  | .list _ => .error (.ofShape .wrongKind)
  | .map _ => .error (.ofShape .wrongKind)
  | _ => .error (.ofShape .noOperation)

def get (store : TemplateStore) (workspace : Workspace) (name : String) :
    Outcome (TemplateStore × Template) :=
  match lookupKey? name store.kept with
  | some template => .ok (store, template)
  | none => do
      let template ← store.find workspace name
      return ({ store with kept := store.kept ++ [(name, template)] }, template)

end TemplateStore

end WireSchema
