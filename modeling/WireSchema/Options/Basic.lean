import WireSchema.Document.Fault

namespace WireSchema

/-!
Options of a run.

Options are read from a document and most of them are kept as the document gives them: a value of
an unexpected kind is no error until it is used.  Only what is read as a whole has a type of its
own: the strategy by which declarations are divided into files, the output formats, the source of
templates, the table of known types and the section on adapter stubs.  A document can also set all
options at once, unread; then collections that it does not give are lacking.
-/

/-- How the declarations of a model are divided into output files. -/
inductive Strategy where
  /-- One file for the whole model. -/
  | single
  /-- One file for each source file. -/
  | follow
  /-- One file for each package. -/
  | package
  /-- One file for each namespace. -/
  | namespaces
deriving DecidableEq, Repr, Inhabited

def Strategy.word : Strategy → String
  | single => "single"
  | follow => "follow"
  | package => "package"
  | namespaces => "namespace"

/-- All strategies, in the order in which messages list them. -/
def Strategy.all : List Strategy := [.single, .follow, .package, .namespaces]

/-- A format in which a model can be written. -/
inductive OutputFormat where
  | proto
  | jsonSchema
  | markdown
  | typeScript
deriving DecidableEq, Repr, Inhabited

def OutputFormat.word : OutputFormat → String
  | proto => "proto"
  | jsonSchema => "json-schema"
  | markdown => "markdown"
  | typeScript => "typescript"

def OutputFormat.all : List OutputFormat := [.proto, .jsonSchema, .markdown, .typeScript]

inductive TemplateSource where
  /-- Among the templates of the tool. -/
  | embedded
  /-- In a directory, and then among the templates of the tool. -/
  | directory
deriving DecidableEq, Repr, Inhabited

def TemplateSource.word : TemplateSource → String
  | embedded => "embedded"
  | directory => "filesystem"

/-- All template sources, in the order in which messages list them. -/
def TemplateSource.all : List TemplateSource := [.embedded, .directory]

/-- A section of the options: read into its own type, kept as the document gives it, or lacking
altogether. -/
inductive Section (α : Type) where
  | read (content : α)
  | kept (value : Value)
  | lacking
deriving Repr, BEq, Inhabited

namespace Section

variable {α : Type}

/-- The content of a section that was read; a kept value does not have what is
asked of it.  This is where a section of the wrong kind makes a run fail, and no
sooner. -/
def content : Section α → Asked α
  | read content => .ok content
  | _ => .error .noOperation

def isThere : Section α → Bool
  | lacking => false
  | _ => true

/-- The alternative that a section stands for, also when its word is kept as a
text.  A kept text has to be the word itself, without the liberties that a reader
allows. -/
def alternative? (alternatives : List α) (word : α → String) : Section α → Option α
  | read content => some content
  | kept value => alternatives.find? fun alternative => Value.text (word alternative) == value
  | lacking => none

end Section

def askGiven (value : Option Value) : Asked Value :=
  match value with
  | some value => .ok value
  | none => .error .noOperation

/-- A value that stands where a record lists its members for printing.  Only an empty mapping can
stand there; nothing is printed then. -/
def askNoMembers : Value → Asked Unit
  | .map [] => .ok ()
  | _ => .error .noOperation

/-- A type of the model with a fixed type in the schema and the import that
declares it.  An empty path stands for no import. -/
structure KnownType where
  type : Value
  importPath : Value := .text ""
deriving Repr, BEq, Inhabited

/-- Which templates make the modules of adapter stubs.  Names of templates are
kept as values, as they are looked up before anything is asked of them. -/
structure TemplateOptions where
  source : Section TemplateSource := .read .embedded
  basePath : Value := .text ""
  types : Value := .text "types.py.jinja2"
  adapter : Value := .text "adapter.py.jinja2"
  client : Value := .text "client.py.jinja2"
  bridge : Value := .text "bridge.py.jinja2"
  registration : Value := .text "registration.py.jinja2"
  /-- What stands in the place of the list of members. -/
  memberTable : Option Value := none
deriving Repr, BEq, Inhabited

structure StubOptions where
  enabled : Value := .bool false
  outputDirectory : Value := .text "generated/adapter"
  modulePath : Value := .text ""
  protobufPackage : Value := .text ""
  protobufAlias : Value := .text "pb"
  grpcPackage : Value := .text ""
  grpcAlias : Value := .text "pb_grpc"
  streamingSupport : Value := .bool true
  registrationHelpers : Value := .bool true
  compilerProgram : Value := .text "protoc"
  templates : Section TemplateOptions := .read {}
  /-- What stands in the place of the list of members. -/
  memberTable : Option Value := none
deriving Repr, BEq, Inhabited

/-- Options of a run.  Each of them has a default, so that an empty document
states complete options. -/
structure Options where
  output : Value := .text ""
  outputFileName : Value := .text "\x7bschema_name\x7d.proto"
  schemaName : Value := .text "schema"
  outputFormats : Section (List OutputFormat) := .read [.proto]
  strategy : Section Strategy := .read .single
  edition : Value := .text "proto3"
  package : Value := .text ""
  goPackage : Value := .text ""
  javaPackage : Value := .text ""
  javaOuterClassname : Value := .text ""
  optimizeFor : Value := .text ""
  fileOptions : Option Value := some (.map [])
  generateService : Value := .bool true
  startFieldNumber : Value := .int 1
  customImports : Option Value := some (.list [])
  typeMappings : Option Value := some (.map [])
  knownTypes : Section (List (Value × KnownType)) := .read []
  stubs : Section StubOptions := .read {}
  /-- What stands in the place of the list of members. -/
  memberTable : Option Value := none
  /-- Whether something stands in the place of the way to print the options. -/
  hidesPrinter : Bool := false
deriving Repr, BEq, Inhabited

namespace Options

/-- The number that a value counts as where an integer is required.  Truth values
count as zero and one, so that a numbering may start with `true`. -/
def integer? : Value → Option Int
  | .int value => some value
  | .bool value => some (if value then 1 else 0)
  | _ => none

/-- The first number that is given to a field without one of its own.  Options
that have been read always state it; the default is for those that are made in
another way. -/
def startNumber (options : Options) : Int :=
  (integer? options.startFieldNumber).getD 1

/-- Whether blocks for services are written. -/
def writesServices (options : Options) : Bool :=
  options.generateService.isTruthy

/-- The strategy, also when it is kept as a text.  Any other value in its place
is no strategy. -/
def strategy? (options : Options) : Option Strategy :=
  options.strategy.alternative? Strategy.all Strategy.word

/-- Whether declarations are divided into several schema files.  A strategy that
is no known one counts as dividing them. -/
def isMultiFile (options : Options) : Bool :=
  options.strategy? != some .single

end Options

end WireSchema
