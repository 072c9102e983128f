import WireSchema.Schema.MessagePlan
import WireSchema.Schema.Service

namespace WireSchema.ProtoText

/-!
The head of a schema file.

A file begins with its package, its options and its imports.  Options of the file come from the
options of the run first; annotations of packages override them, and annotations of files override
those.  Imports are collected from the options, from annotations and from the types that messages
and services refer to: well-known types by the file that declares them, types of another group by
the file of that group.
-/

/-! ## Package -/

/-- The package of the first composite type, if it has one.  The packages of the
other declarations are not asked. -/
def declaredPackage (composites : List Composite) : Value :=
  match composites with
  | first :: _ => first.package.orElse (.text "")
  | [] => .text ""

/-- The package of a unit: the one of the options, or else the one of an annotation, or else the
one of the first composite type. -/
def packageName (options : Options) (schema : SchemaUnit) : Asked Value :=
  if options.package.isTruthy then .ok options.package
  else do
    match ← firstString? ["package"] "name" schema.model.levelAnnotations with
    | some name => return .text name
    | none => return declaredPackage schema.composites

/-! ## File options -/

/-- The option that is written first and without quotes. -/
def optimizeKey : String := "optimize_for"

/-- The file options that an annotation of a package may set. -/
def packageOptionKeys : List String :=
  ["go_package", "java_package", "java_outer_classname", optimizeKey, "csharp_namespace",
   "objc_class_prefix", "php_namespace", "php_metadata_namespace", "ruby_package", "swift_prefix"]

/-- File options by name, in the order in which they were first set.  Names are
values, since those of further options come from a document. -/
abbrev FileOptions := List (Value × Value)

/-- The file options that have an option of the run of their own.  One that is
empty is not set, so a later source can still set it first. -/
def dedicatedOptions (options : Options) : FileOptions :=
  Members.ofTexts ([("go_package", options.goPackage), ("java_package", options.javaPackage),
    ("java_outer_classname", options.javaOuterClassname)].filter (·.2.isTruthy))

/-- A pair given as a list or text of two items. -/
def readPair (entry : Value) : Asked (Value × Value) := do
  match ← entry.items with
  | [name, value] => return (← name.askKey, value)
  | _ => throw ShapeFault.badContent

/-- The further file options of a run: a mapping, or a list of pairs. -/
def furtherOptions : Value → Asked FileOptions
  | .map members => .ok members
  | value => do (← value.items).mapM readPair

/-- The file options that parameters of an annotation of a package set.  Other
parameters are passed over, and so is an empty value, which would clear what is
set elsewhere. -/
def packageOptions (note : Annotation) : FileOptions :=
  note.params.filterMap fun param =>
    if packageOptionKeys.contains param.1 then
      (nonempty? (note.string param.1)).map fun value => (.text param.1, .text value)
    else none

/-- The file option that an `option` annotation sets, if it has a name and a
value.  The value may be empty and then overrides an earlier one. -/
def statedOption (note : Annotation) : FileOptions :=
  match nonempty? (note.string "name"), note.string? "value" with
  | some name, some value => [(.text name, .text value)]
  | _, _ => []

def annotationOptions (note : Annotation) : Asked FileOptions := do
  if ← note.goesBy ["package"] then return packageOptions note
  else if ← note.goesBy ["option"] then return statedOption note
  else return []

/-- All settings of file options, from the weakest to the strongest source.  They
are listed with repetitions; which of them count is decided when they are put
into a table. -/
def optionSettings (options : Options) (model : Model) : Asked FileOptions := do
  let further ← furtherOptions (← askGiven options.fileOptions)
  let annotated ← model.levelAnnotations.mapM annotationOptions
  return dedicatedOptions options ++ further ++ annotated.flatten

/-- The file options of a run; of several settings of one option the last
counts, in the place where the option was first set. -/
def allOptions (options : Options) (model : Model) : Asked FileOptions := do
  return setKeys (← optionSettings options model)

/-- The goal of optimisation, and the other file options in the order in which
they were set.  The goal may come from any source and is written apart from the
others. -/
def fileOptions (options : Options) (model : Model) : Asked (Value × FileOptions) := do
  let settings ← allOptions options model
  return ((lookupKey? (.text optimizeKey) settings).getD options.optimizeFor,
    settings.filter fun setting => !(setting.1 == Value.text optimizeKey))

/-- A file option on a line of its own.  Its value stands between quotes as it
is, without escapes for quotes or line feeds inside it. -/
def optionLine (name value : Value) : String :=
  "option " ++ name.display ++ " = \"" ++ value.display ++ "\";\n"

def optimizeLine (goal : Value) : String :=
  if goal.isTruthy then "option optimize_for = " ++ goal.display ++ ";\n" else ""

/-- Lines followed by an empty line, or nothing when there are none.  So parts of
the header that are lacking leave no gap. -/
def paragraph (lines : String) : String :=
  if lines = "" then "" else lines ++ "\n"

/-- The lines of file options: the goal of optimisation first, the others by
name.  The order of the sources does not show in it. -/
def optionLines (goal : Value) (settings : FileOptions) : Asked String := do
  let names ← Value.inOrder (settings.map (·.1))
  return paragraph (optimizeLine goal ++ String.join (names.map fun name =>
    optionLine name ((lookupKey? name settings).getD .null)))

/-! ## Imports -/

/-- A schema type that a message or a service refers to, with the name of the type from which it
was made when that is known. -/
structure Reference where
  type : Value
  source : String := ""
deriving Repr, BEq

/-- What a field refers to: its type, or the value type of a map.  The name of
the declared type is kept beside the schema type, because known types are found
by it. -/
def fieldReference (planned : PlannedField) : Reference :=
  if planned.shape == .map then
    match planned.field.type with
    | .mapping _ value => { type := planned.mapTypes.2, source := value.unwrap.qualifiedName }
    | _ => { type := planned.mapTypes.2 }
  else { type := planned.type, source := planned.field.type.unwrap.qualifiedName }

/-- What the methods of services refer to. -/
def serviceReferences (services : List Service) : List Reference :=
  services.flatMap fun service =>
    service.rpcs.flatMap fun rpc => [{ type := rpc.inputType }, { type := rpc.outputType }]

def references (plans : List MessagePlan) (services : List Service) : List Reference :=
  plans.flatMap (fun plan => plan.fields.map fieldReference) ++ serviceReferences services

/-- The file of another group that declares a schema type, if there is one.  The
own file is none of these, since it cannot import itself. -/
def otherFile? (schema : SchemaUnit) (type : Value) : Option String :=
  ((lookupKey? type schema.typeFiles).bind nonempty?).filter (· != schema.file)

/-- The file to import for a reference, if there is one.  An import that is known
for the type decides, even where another group declares a type of the same
schema name. -/
def referenceImport? (table : TypeTable) (schema : SchemaUnit) (reference : Reference) :
    Asked (Option Value) := do
  let path ← table.importFor reference.type reference.source
  if path.isTruthy then return some (← path.askKey)
  else return (otherFile? schema reference.type).map Value.text

/-- The imports that the model asks for: those of annotations. -/
def annotatedImports (model : Model) : Asked (List String) := do
  return (← annotationsNamed ["import"] model.levelAnnotations).filterMap fun note =>
    nonempty? (note.string "path")

/-- The imports of a unit, in increasing order and without repetition: those of
the options, those of annotations, and those that references need. -/
def imports (context : SchemaContext) (schema : SchemaUnit) (plans : List MessagePlan)
    (services : List Service) : Asked (List Value) := do
  let custom ← Value.askKeys (← (← askGiven context.options.customImports).items)
  let annotated ← annotatedImports schema.model
  let referenced ← (references plans services).mapM (referenceImport? context.types schema)
  Value.inOrder (Value.distinct (custom ++ annotated.map .text ++ referenced.filterMap id))

def importLine (path : Value) : String :=
  "import \"" ++ path.display ++ "\";\n"

def importLines (paths : List Value) : String :=
  paragraph (String.join (paths.map importLine))

end WireSchema.ProtoText
