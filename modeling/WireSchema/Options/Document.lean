import WireSchema.Options.Basic

namespace WireSchema

/-!
Options as a document.

Options are written with one member for each option, under the name by which it is read, and words
for strategy, formats and template source.  What was kept as a document gave it is written
unchanged; a table of known types that is none cannot be written, and neither can options that lack
a collection.
-/

/-- The members of a record, unless something stands in the place of their list. -/
def membersUnder (memberTable : Option Value) (members : Asked (List (String × Value))) :
    Asked (List (String × Value)) :=
  match memberTable with
  | some table => do
      askNoMembers table
      return []
  | none => members

/-- A section as a value, given how its content is written.  A kept value is
written as it is, so that it comes back when the document is read again. -/
def Section.toValue {α : Type} (write : α → Asked Value) : Section α → Asked Value
  | read content => write content
  | kept value => .ok value
  | lacking => .error .noOperation

def TemplateOptions.toValue (templates : TemplateOptions) : Asked Value := do
  let members ← membersUnder templates.memberTable do
    let source ← templates.source.toValue fun source => .ok (.text source.word)
    return [("template_source", source), ("template_base_path", templates.basePath),
      ("types_template", templates.types), ("adapter_template", templates.adapter),
      ("client_template", templates.client), ("bridge_template", templates.bridge),
      ("registration_template", templates.registration)]
  return .record members

def StubOptions.toValue (stubs : StubOptions) : Asked Value := do
  let members ← membersUnder stubs.memberTable do
    let templates ← stubs.templates.toValue TemplateOptions.toValue
    return [("enabled", stubs.enabled), ("output_dir", stubs.outputDirectory),
      ("module_path", stubs.modulePath), ("protobuf_package", stubs.protobufPackage),
      ("protobuf_alias", stubs.protobufAlias), ("grpc_package", stubs.grpcPackage),
      ("grpc_alias", stubs.grpcAlias), ("streaming_support", stubs.streamingSupport),
      ("registration_helpers", stubs.registrationHelpers),
      ("protoc_program", stubs.compilerProgram), ("templates", templates)]
  return .record members

def KnownType.toValue (known : KnownType) : Value :=
  .record [("type", known.type), ("import", known.importPath)]

/-- The table of known types as a value.  A mapping that was kept holds entries that are none, so
that only an empty one can be written. -/
def knownTypesValue : Section (List (Value × KnownType)) → Asked Value
  | .read entries => .ok (.map (entries.map fun entry => (entry.1, entry.2.toValue)))
  | .kept (.map []) => .ok (.map [])
  | _ => .error .noOperation

/-- The members of options, but for their table of known types. -/
def Options.plainMembers (options : Options) : Asked (List (String × Value)) := do
  let outputFormats ← options.outputFormats.toValue fun formats =>
    .ok (.list (formats.map fun format => .text format.word))
  let strategy ← options.strategy.toValue fun strategy => .ok (.text strategy.word)
  let fileOptions ← askGiven options.fileOptions
  let customImports ← askGiven options.customImports
  let typeMappings ← askGiven options.typeMappings
  let stubs ← options.stubs.toValue StubOptions.toValue
  return [("output", options.output), ("output_file_name", options.outputFileName),
    ("schema_name", options.schemaName), ("output_formats", outputFormats),
    ("generation_strategy", strategy), ("syntax", options.edition), ("package", options.package),
    ("go_package", options.goPackage), ("java_package", options.javaPackage),
    ("java_outer_classname", options.javaOuterClassname), ("optimize_for", options.optimizeFor),
    ("options", fileOptions), ("generate_service", options.generateService),
    ("start_field_number", options.startFieldNumber), ("custom_imports", customImports),
    ("type_mappings", typeMappings), ("generate_stubs", stubs)]

def Options.toValue (options : Options) : Asked Value := do
  if options.hidesPrinter then throw .wrongKind
  let members ← membersUnder options.memberTable options.plainMembers
  let knownTypes ← knownTypesValue options.knownTypes
  return .record (members ++ [("known_types", knownTypes)])

end WireSchema
