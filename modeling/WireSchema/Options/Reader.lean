import WireSchema.Options.Basic
import WireSchema.Text.Cut
import WireSchema.Text.Lowercase

namespace WireSchema.Options

/-!
Reading options from a document.

The members of a document set options one after the other; unknown members are passed over, but a
member must have a text as its name.  The strategy has a second member name, which counts only when
the first is absent, and so has the class name of the Java options, where the later member counts.
After all members the start of the automatic numbering is checked.

A few names belong to a record itself and not to its options.  One of them stands for the whole
record: its members replace everything set before and are kept unread.  Two cannot be set, one
stands in the place of the list by which the record is printed, and the others have no effect.
-/

/-- Why a document holds no options.  A member of an unknown name is no fault; it
is passed over. -/
inductive ReadFault where
  /-- A value has the wrong kind, or a required member is missing. -/
  | shape (fault : ShapeFault)
  /-- An output format has no such word. -/
  | unknownFormat (word : String)
  /-- An option that takes one of several words has another value. -/
  | unknownWord (option : String) (value : Value) (words : List String)
  /-- The start of the automatic numbering is no positive integer. -/
  | startNumber (value : Value)
deriving Repr, BEq

/-- The text that reports a fault; a fault of shape has none of its own. -/
def ReadFault.message? : ReadFault → Option String
  | shape _ => none
  | unknownFormat word => some ("Unsupported output format: " ++ word)
  | unknownWord option value words =>
      some ("Invalid value for " ++ option ++ ": " ++ value.quoted ++ " (expected one of: "
        ++ String.intercalate ", " words ++ ")")
  | startNumber value =>
      some ("start_field_number must be a positive integer, got " ++ value.quoted)

/-- A text in small letters and without white space at its ends. -/
def plainWord (text : String) : String :=
  Text.lower (Text.trim text)

/-! ## Words -/

/-- Other words for output formats. -/
def formatAliases : List (String × OutputFormat) :=
  [("json_schema", .jsonSchema), ("jsonschema", .jsonSchema), ("md", .markdown),
   ("ts", .typeScript)]

/-- The output format of a word in small letters.  The other words are looked up
first, as none of them is the word of another format. -/
def formatOfWord? (word : String) : Option OutputFormat :=
  (lookupKey? word formatAliases).or (OutputFormat.all.find? (·.word == word))

def readFormat (text : String) : Except ReadFault OutputFormat :=
  match formatOfWord? (plainWord text) with
  | some format => .ok format
  | none => .error (.unknownFormat text)

/-- The output formats of a member: a list of words, or a single word. -/
def readFormats : Value → Except ReadFault (List OutputFormat)
  | .text word => do return [← readFormat word]
  | value => do
      let items ← value.itemsIfGiven.mapError .shape
      items.mapM fun item => readFormat item.display

/-- One of several alternatives that go by a word each.  Case and white space
around the word do not count, and a value that is no text is read by how it is
shown. -/
def readWord {α : Type} (option : String) (alternatives : List α) (word : α → String)
    (value : Value) : Except ReadFault α :=
  match alternatives.find? (word · == plainWord value.display) with
  | some alternative => .ok alternative
  | none => .error (.unknownWord option value (alternatives.map word))

/-! ## Sections -/

/-- An entry of the table of known types: a mapping with a type and an import,
or the type alone.  The import stands under either of two names. -/
def readKnownType : Value → Except ReadFault KnownType
  | .map members => do
      let type ← ((Value.map members).require "type").mapError .shape
      let otherPath := Members.getD members "import_path" (.text "")
      return { type, importPath := Members.getD members "import" otherPath }
  | value => .ok { type := .text value.display }

def readKnownTypes (members : Members) : Except ReadFault (List (Value × KnownType)) :=
  members.mapM fun member => do return (member.1, ← readKnownType member.2)

/-! ## Names of the record itself -/

/-- What a name of a record itself does when a value is set under it.  Members
are set by their names without a look at these, so that a document can reach
them. -/
inductive RecordName where
  /-- Stands for the members of the whole record. -/
  | members
  /-- Stands for the list by which the record is printed. -/
  | memberTable
  /-- Stands for the kind of the record, which cannot be set. -/
  | kind
  /-- Cannot be written. -/
  | readOnly
deriving DecidableEq, Repr

/-- The names of a record itself that have an effect. -/
def recordName? : String → Option RecordName
  | "__dict__" => some .members
  | "__dataclass_fields__" => some .memberTable
  | "__class__" => some .kind
  | "__weakref__" => some .readOnly
  | _ => none

/-- A step that fails by the shape of a value. -/
def shapeFault {α : Type} (fault : ShapeFault) : Except ReadFault α := .error (.shape fault)

/-- The members of a value that is set for the whole record. -/
def recordMembers : Value → Except ReadFault Members
  | .map members => .ok members
  | _ => shapeFault .wrongKind

def memberName : Value → Except ReadFault String
  | .text name => .ok name
  | _ => shapeFault .wrongKind

/-- Sets unread members, passing over those whose name is no text.  Nothing is
read of their values, which later have to be used as they are. -/
def setUnread {α : Type} (set : α → String → Value → α) (start : α) (members : Members) : α :=
  members.foldl
    (fun record member =>
      match member.1 with
      | .text name => set record name member.2
      | _ => record)
    start

/-! ## Templates -/

def setTemplateUnread (templates : TemplateOptions) (name : String) (value : Value) :
    TemplateOptions :=
  match name with
  | "template_source" => { templates with source := .kept value }
  | "template_base_path" => { templates with basePath := value }
  | "types_template" => { templates with types := value }
  | "adapter_template" => { templates with adapter := value }
  | "client_template" => { templates with client := value }
  | "bridge_template" => { templates with bridge := value }
  | "registration_template" => { templates with registration := value }
  | "__dataclass_fields__" => { templates with memberTable := some value }
  | _ => templates

def setTemplateMember (templates : TemplateOptions) (key value : Value) :
    Except ReadFault TemplateOptions := do
  let name ← memberName key
  match recordName? name with
  | some .members =>
      return setUnread setTemplateUnread {} (← recordMembers value)
  | some .kind => shapeFault .wrongKind
  | some .readOnly => shapeFault .noOperation
  | _ =>
      if name = "template_source" then
        let source ← readWord name TemplateSource.all (·.word) value
        return { templates with source := .read source }
      else return setTemplateUnread templates name value

def readTemplates (members : Members) : Except ReadFault TemplateOptions :=
  members.foldlM (fun templates member => setTemplateMember templates member.1 member.2) {}

/-! ## Stubs -/

/-- Sets a stub option to a value as it stands.  A section on templates that is lacking stays so. -/
def setStubUnread (stubs : StubOptions) (name : String) (value : Value) : StubOptions :=
  match name with
  | "enabled" => { stubs with enabled := value }
  | "output_dir" => { stubs with outputDirectory := value }
  | "module_path" => { stubs with modulePath := value }
  | "protobuf_package" => { stubs with protobufPackage := value }
  | "protobuf_alias" => { stubs with protobufAlias := value }
  | "grpc_package" => { stubs with grpcPackage := value }
  | "grpc_alias" => { stubs with grpcAlias := value }
  | "streaming_support" => { stubs with streamingSupport := value }
  | "registration_helpers" => { stubs with registrationHelpers := value }
  | "protoc_program" => { stubs with compilerProgram := value }
  | "templates" => { stubs with templates := .kept value }
  | "__dataclass_fields__" => { stubs with memberTable := some value }
  | _ => stubs

def setStubMember (stubs : StubOptions) (key value : Value) : Except ReadFault StubOptions := do
  let name ← memberName key
  match recordName? name, value with
  | some .members, _ =>
      return setUnread setStubUnread { templates := .lacking } (← recordMembers value)
  | some .kind, _ => shapeFault .wrongKind
  | some .readOnly, _ => shapeFault .noOperation
  | _, .map members =>
      if name = "templates" then return { stubs with templates := .read (← readTemplates members) }
      else return setStubUnread stubs name value
  | _, _ =>
      if name = "templates" && !stubs.templates.isThere then return stubs
      else return setStubUnread stubs name value

/-- The section on adapter stubs. -/
def readStubs (members : Members) : Except ReadFault StubOptions :=
  members.foldlM (fun stubs member => setStubMember stubs member.1 member.2) {}

/-! ## The whole document -/

def setUnreadOption (options : Options) (name : String) (value : Value) : Options :=
  match name with
  | "generation_strategy" => { options with strategy := .kept value }
  | "output_formats" => { options with outputFormats := .kept value }
  | "java_outer_classname" => { options with javaOuterClassname := value }
  | "known_types" => { options with knownTypes := .kept value }
  | "generate_stubs" => { options with stubs := .kept value }
  | "output" => { options with output := value }
  | "output_file_name" => { options with outputFileName := value }
  | "schema_name" => { options with schemaName := value }
  | "syntax" => { options with edition := value }
  | "package" => { options with package := value }
  | "go_package" => { options with goPackage := value }
  | "java_package" => { options with javaPackage := value }
  | "optimize_for" => { options with optimizeFor := value }
  | "options" => { options with fileOptions := some value }
  | "generate_service" => { options with generateService := value }
  | "start_field_number" => { options with startFieldNumber := value }
  | "custom_imports" => { options with customImports := some value }
  | "type_mappings" => { options with typeMappings := some value }
  | "__dataclass_fields__" => { options with memberTable := some value }
  | "to_dict" => { options with hidesPrinter := true }
  | _ => options

/-- Whether the collection of a name is lacking, so that the name is an unknown one. -/
def lacks (options : Options) (name : String) : Bool :=
  match name with
  | "known_types" => !options.knownTypes.isThere
  | "generate_stubs" => !options.stubs.isThere
  | "options" => options.fileOptions.isNone
  | "custom_imports" => options.customImports.isNone
  | "type_mappings" => options.typeMappings.isNone
  | _ => false

/-- Options without collections, as they are before all are set at once. -/
def bare : Options :=
  { outputFormats := .lacking, fileOptions := none, customImports := none, typeMappings := none
    knownTypes := .lacking, stubs := .lacking }

/-- Sets an option that is kept as it stands, unless it is an unknown one. -/
def setKept (options : Options) (name : String) (value : Value) : Options :=
  if options.lacks name then options else setUnreadOption options name value

/-- Sets the option of a name.  `strategyGiven` tells that the document has the first member name
of the strategy, so that the second one does not count. -/
def setNamed (strategyGiven : Bool) (options : Options) (name : String) (value : Value) :
    Except ReadFault Options :=
  match name with
  | "generation_strategy" => do
      return { options with strategy := .read (← readWord name Strategy.all (·.word) value) }
  | "strategy" =>
      if strategyGiven then .ok options
      else do
        return { options with strategy := .read (← readWord name Strategy.all (·.word) value) }
  | "output_formats" => do return { options with outputFormats := .read (← readFormats value) }
  | "java_outer_class" => .ok { options with javaOuterClassname := value }
  | "known_types" =>
      match value with
      | .map members => do return { options with knownTypes := .read (← readKnownTypes members) }
      | _ => .ok (options.setKept name value)
  | "generate_stubs" =>
      match value with
      | .map members => do return { options with stubs := .read (← readStubs members) }
      | _ => .ok (options.setKept name value)
  | _ => .ok (options.setKept name value)

def setMember (strategyGiven : Bool) (options : Options) (key value : Value) :
    Except ReadFault Options := do
  let name ← memberName key
  match recordName? name with
  | some .members => return setUnread setUnreadOption bare (← recordMembers value)
  | some .kind => shapeFault .wrongKind
  | some .readOnly => shapeFault .noOperation
  | _ => setNamed strategyGiven options name value

/-- Checks that the automatic numbering starts with a positive integer.  No upper
bound is checked here: numbers out of range are found by the scan, field by
field. -/
def checkStart (options : Options) : Except ReadFault Options :=
  match integer? options.startFieldNumber with
  | some number =>
      if 1 ≤ number then .ok options else .error (.startNumber options.startFieldNumber)
  | none => .error (.startNumber options.startFieldNumber)

def ofMembers (members : Members) : Except ReadFault Options := do
  let strategyGiven := (Members.get? members "generation_strategy").isSome
  let options ← members.foldlM
    (fun options member => setMember strategyGiven options member.1 member.2) {}
  options.checkStart

/-- The members that hold the options of a document: those of the section `protobuf` under
`plugins`, if there is one, and otherwise those of the document itself. -/
def optionMembers (document : Members) : Members :=
  match (Members.get? document "plugins").bind (·.member? "protobuf") with
  | some (.map members) => members
  | _ => document

def read (document : Value) : Except ReadFault Options := do
  ofMembers (optionMembers (← document.askMembers.mapError .shape))

end WireSchema.Options
