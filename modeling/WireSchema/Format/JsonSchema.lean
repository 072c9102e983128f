import WireSchema.Document.Json.Printer
import WireSchema.Format.View

namespace WireSchema.JsonSchema

/-!
JSON Schema documents.

A unit becomes one document of draft 7.  Every template, message and enumeration is a definition,
and every message and enumeration is also a property of the document.  An alias refers to the
definition of its template.  Types without a fragment of their own become references.
-/

/-- The draft that documents follow. -/
def draft : String := "http://json-schema.org/draft-07/schema#"

def typed (type : String) : Members := Members.ofTexts [("type", .text type)]

/-- Bytes, which stand in JSON as encoded text. -/
def bytesFragment : Members :=
  typed "string" ++ Members.ofTexts [("contentEncoding", .text "base64")]

def fragments : List (String × Members) :=
  integerTypes.map (fun name => (name, typed "integer"))
    ++ [("double", typed "number"), ("float", typed "number"), ("bool", typed "boolean"),
        ("string", typed "string"), ("bytes", bytesFragment),
        ("google.protobuf.Timestamp",
          typed "string" ++ Members.ofTexts [("format", .text "date-time")]),
        ("google.protobuf.Duration", typed "string"), ("google.protobuf.Any", []),
        ("google.protobuf.Struct", typed "object"), ("google.protobuf.Value", []),
        ("google.protobuf.ListValue", typed "array"), ("google.protobuf.Empty", typed "object"),
        ("google.protobuf.StringValue", typed "string"),
        ("google.protobuf.BytesValue", bytesFragment),
        ("google.protobuf.BoolValue", typed "boolean"),
        ("google.protobuf.FloatValue", typed "number"),
        ("google.protobuf.DoubleValue", typed "number"),
        ("google.protobuf.Int32Value", typed "integer"),
        ("google.protobuf.Int64Value", typed "integer"),
        ("google.protobuf.UInt32Value", typed "integer"),
        ("google.protobuf.UInt64Value", typed "integer")]

def reference (name : Value) : Members :=
  Members.ofTexts [("$ref", .text ("#/definitions/" ++ name.display))]

/-- The fragment of a schema type: its own, or a reference.  A type that is no text has none of its
own, but must be fit to be looked up. -/
def typeFragment (type : Value) : Asked Members := do
  let key ← type.askKey
  return (key.text?.bind fun name => lookupKey? name fragments).getD (reference key)

/-- A fragment with a description; unchanged when there is none.  The description
is put in as it stands in the document, even where it is no text. -/
def described (fragment : Members) (description : Value) : Members :=
  if description.isTruthy then setKey (.text "description") description fragment else fragment

/-- A fragment of objects whose members have a fragment. -/
def objectOf (member : Members) : Members :=
  typed "object" ++ Members.ofTexts [("additionalProperties", .map member)]

/-- A fragment of arrays whose items have a fragment. -/
def arrayOf (item : Members) : Members :=
  typed "array" ++ Members.ofTexts [("items", .map item)]

/-! ## Messages -/

def fieldFragment (planned : PlannedField) : Asked Members := do
  let fragment ←
    match planned.shape with
    | .map => do pure (objectOf (← typeFragment planned.mapTypes.2))
    | .repeated => do pure (arrayOf (← typeFragment planned.type))
    | _ => typeFragment planned.type
  return described fragment planned.description

/-- A property of a message: its name and its fragment.  The name is that of the
field in JSON, which a serialiser of the message would use. -/
def fieldProperty (model : Model) (planned : PlannedField) : Asked (Value × Value) := do
  let name ← planned.field.jsonName model
  return (.text name, .map (← fieldFragment planned))

/-- The names of the properties that a message always has, given the properties
of its fields.  Those of fields that may be absent are left out. -/
def requiredNames (fields : List PlannedField) (properties : List (Value × Value)) : List Value :=
  ((fields.zip properties).filter fun entry => !entry.1.mayBeAbsent).map (·.2.1)

/-- The definition of a message that is not an alias.  Two fields of one name in
JSON leave one property, that of the later field. -/
def recordDefinition (model : Model) (plan : MessagePlan) : Asked Members := do
  let properties ← plan.fields.mapM (fieldProperty model)
  let required := requiredNames plan.fields properties
  return described (typed "object") plan.description
    ++ Members.ofTexts ([("properties", .map (setKeys properties))]
      ++ (if required.isEmpty then [] else [("required", .list required)]))

def messageDefinition (model : Model) (plan : MessagePlan) : Asked Members :=
  match plan.composite.target? with
  | some target => .ok (described (reference target) plan.description)
  | none => recordDefinition model plan

/-! ## Templates and enumerations -/

/-- The fragment of a type inside a template, where a type parameter admits
everything.  An instantiation inside it is referred to by its name and not
written out. -/
def exprFragment (table : TypeTable) (parameters : List Value) : TypeExpr → Asked Members
  | .named name package => do
      if package == "" && parameters.contains (.text name) then return []
      else typeFragment (← table.schemaType (.named name package))
  | .pointer elem => exprFragment table parameters elem
  | .sequence elem =>
      if (TypeExpr.sequence elem).isByteSequence then typeFragment (.text "bytes")
      else do return arrayOf (← exprFragment table parameters elem)
  | .mapping _ value => do return objectOf (← exprFragment table parameters value)
  | .generic name args => do typeFragment (← table.schemaType (.generic name args))

/-- A property of a template: its name and its fragment.  A parameter of the
template has no type yet, so that its fragment admits everything. -/
def templateProperty (view : SchemaView) (parameters : List Value) (field : DeclaredField) :
    Asked (Value × Value) := do
  let fragment ← exprFragment view.context.types parameters field.type
  let description ← field.description
  let name ← field.jsonName view.context.model
  return (.text name, .map (described fragment description))

def templateDefinition (view : SchemaView) (template : Composite) : Asked Members := do
  let fields ← view.templateFields template
  let properties ← fields.mapM (templateProperty view template.typeParams)
  return described
    (typed "object" ++ Members.ofTexts [("properties", .map (setKeys properties))]) template.doc

def enumDefinition (enum : EnumType) : Asked Members := do
  let names ← enum.values.mapM (·.schemaName)
  let description ← enum.description
  return described
    (typed "string" ++ Members.ofTexts [("enum", .list (names.map .text))]) description

/-! ## The document -/

/-- What one declaration adds to a document: a definition, and the name under which it is a
property when it is one. -/
structure Entry where
  name : Value
  definition : Members
  property : Option String := none
deriving Repr

/-- The entry of a template, which is no property.  A document has no values of a
template itself, but only of its instantiations. -/
def templateEntry (view : SchemaView) (template : Composite) : Asked Entry := do
  let definition ← templateDefinition view template
  return { name := ← template.name.askKey, definition }

/-- An entry that is a property under its name in small letters. -/
def namedEntry (name : Value) (definition : Members) : Asked Entry := do
  let name ← name.askKey
  return { name, definition, property := some (← snakeCaseOf name) }

def messageEntry (model : Model) (plan : MessagePlan) : Asked Entry := do
  namedEntry plan.name (← messageDefinition model plan)

def enumEntry (enum : EnumType) : Asked Entry := do
  let name ← enum.schemaName
  namedEntry name (← enumDefinition enum)

/-- The entries of a unit: templates, messages, enumerations.  The order decides
which of two entries with the same name is kept in the end. -/
def entries (view : SchemaView) : Asked (List Entry) := do
  let templates ← (view.templates ++ view.foreignTemplates).mapM (templateEntry view)
  let messages ← view.plans.mapM (messageEntry view.context.model)
  let enums ← view.enums.mapM enumEntry
  return templates ++ messages ++ enums

def definitions (entries : List Entry) : Members :=
  setKeys (entries.map fun entry => (entry.name, .map entry.definition))

/-- The properties of a document: a reference for each message and enumeration.
Names that are the same in small letters share one property, which refers to the
last of them. -/
def properties (entries : List Entry) : Members :=
  setKeys (entries.filterMap fun entry =>
    entry.property.map fun property => (.text property, .map (reference entry.name)))

def document (title : Value) (entries : List Entry) : Value :=
  .record
    [("$schema", .text draft), ("title", title),
     ("description", .text ("JSON Schema for " ++ title.display ++ " protobuf package")),
     ("type", .text "object"), ("definitions", .map (definitions entries)),
     ("properties", .map (properties entries))]

/-- The document of a unit in writing. -/
def emit (context : SchemaContext) (schema : SchemaUnit) : Asked String := do
  let view ← SchemaView.of context schema
  let entries ← entries view
  return (← Json.indented 0 (document view.title entries)) ++ "\n"

end WireSchema.JsonSchema
