import WireSchema.Schema.Inclusion
import WireSchema.Schema.TypeTable

namespace WireSchema

/-!
How one field is written.

The number, name, description, options, shape and type of a field are decided one by one from its
annotations, its tag and its declared type, in this order of precedence.  The rules read a field
as its message sees it, so annotations of other messages have no part in them.
-/

/-- A model together with what its types become under the options of a run.  The
table is made once of the two, as it is looked into for every field. -/
structure SchemaContext where
  model : Model
  options : Options
  types : TypeTable
deriving Repr, Inhabited

def SchemaContext.of (model : Model) (options : Options) : SchemaContext :=
  { model, options, types := TypeTable.ofOptions options model }

/-- The shape of a field on the wire.  It is decided once for all outputs, from
annotations and the declared type. -/
inductive FieldShape where
  | scalar
  | repeated
  | optional
  | map
  /-- A map whose key type the schema does not admit. -/
  | unsupported
deriving DecidableEq, Repr, Inhabited

def FieldShape.word : FieldShape → String
  | scalar => "scalar"
  | repeated => "repeated"
  | optional => "optional"
  | map => "map"
  | unsupported => "unsupported"

namespace DeclaredField

/-! ## Number, name and description -/

def positiveNumber? (note : Annotation) : Option Int :=
  (note.integer? "number").filter fun number => 0 < number

def explicitNumber? (model : Model) (field : DeclaredField) : Asked (Option Int) := do
  match (← annotationsNamed ["field", "map"] field.annotations).findSome? positiveNumber? with
  | some number => return some number
  | none => return (← model.tagOf field).number

def schemaName (model : Model) (field : DeclaredField) : Asked String := do
  match ← firstString? ["field"] "name" field.annotations with
  | some name => return name
  | none =>
      match nonempty? (← model.tagOf field).name with
      | some name => return name
      | none => snakeCaseOf field.name

def tagJsonName? (tag : TagInfo) : Option String :=
  (lookupKey? "json_name" tag.options).bind nonempty?

/-- The name of a field in formats that follow JSON: from an annotation, from
the tag, or else the name in the schema.  An empty name counts as none in the
first two. -/
def jsonName (model : Model) (field : DeclaredField) : Asked String := do
  match ← firstString? ["field"] "json_name" field.annotations with
  | some name => return name
  | none =>
      match tagJsonName? (← model.tagOf field) with
      | some name => return name
      | none => field.schemaName model

def description (field : DeclaredField) : Asked Value :=
  descriptionOf field.annotations field.doc

def hasFlag (field : DeclaredField) (flag : String) : Asked Bool := do
  return (← annotationsNamed ["field"] field.annotations).any (·.flag flag)

/-! ## Options -/

end DeclaredField

/-- An option of a field with its value as it is written. -/
structure FieldOption where
  name : String
  literal : String
deriving DecidableEq, Repr, Inhabited

namespace FieldOption

def text (option : FieldOption) : String :=
  option.name ++ " = " ++ option.literal

/-- What tells options apart: the text before the first equals sign that follows
a blank.  Options are compared in writing, so that a name that holds such a sign
itself is cut short. -/
def key (option : FieldOption) : String :=
  match Text.breakAt? [' ', '='] option.text.toList with
  | some parts => String.ofList parts.1
  | none => option.text

/-- Options without those whose key came before.  Annotations come first, so that
they override the tag. -/
def distinct (options : List FieldOption) : List FieldOption :=
  options.foldl
    (fun kept option => if kept.any (·.key == option.key) then kept else kept ++ [option]) []

/-- A text between double quotes.  Nothing in it is escaped, so that a quote
inside ends it early. -/
def inQuotes (text : String) : String :=
  "\"" ++ text ++ "\""

/-- The value of an option: truth values and integers as they are, other texts
between quotes.  An integer is whatever reads as one, including spellings that
the schema language does not know. -/
def literalOf (value : String) : String :=
  if value = "true" || value = "false" then value
  else if (Text.readInteger? value).isSome then value
  else inQuotes value

def ofJsonName (name : String) : FieldOption :=
  { name := "json_name", literal := inQuotes name }

/-- An option that is set when a condition holds. -/
def flagWhen (condition : Bool) (name : String) : List FieldOption :=
  if condition then [{ name, literal := "true" }] else []

def ofFieldNote (note : Annotation) : List FieldOption :=
  flagWhen (note.flag "packed") "packed"
    ++ flagWhen (note.flag "deprecated") "deprecated"
    ++ ((nonempty? (note.string "json_name")).map ofJsonName).toList

def ofOptionNote (note : Annotation) : List FieldOption :=
  match nonempty? (note.string "name"), note.string? "value" with
  | some name, some value => [{ name, literal := literalOf value }]
  | _, _ => []

def ofAnnotation (note : Annotation) : Asked (List FieldOption) := do
  if ← note.goesBy ["field"] then return ofFieldNote note
  else if ← note.goesBy ["option"] then return ofOptionNote note
  else return []

/-- The options that annotations of a field set, in order. -/
def ofAnnotations : List Annotation → Asked (List FieldOption)
  | [] => .ok []
  | note :: notes => do
      let own ← ofAnnotation note
      let others ← ofAnnotations notes
      return own ++ others

def ofTag (tag : TagInfo) : List FieldOption :=
  (((lookupKey? "json_name" tag.options).bind nonempty?).map ofJsonName).toList
    ++ flagWhen (lookupKey? "packed" tag.options == some "true") "packed"
    ++ flagWhen (lookupKey? "deprecated" tag.options == some "true") "deprecated"

end FieldOption

namespace DeclaredField

/-- The options of a field: those of its annotations and then those of its tag.
Of several options with one key the first is kept, so that annotations go before
the tag. -/
def fieldOptions (model : Model) (field : DeclaredField) : Asked (List FieldOption) := do
  let annotated ← FieldOption.ofAnnotations field.annotations
  let tagged := FieldOption.ofTag (← model.tagOf field)
  return FieldOption.distinct (annotated ++ tagged)

/-! ## Shape and type -/

/-- The key and value types that one annotation gives to a field that is a map.
With only one of the two it gives nothing, and a further annotation is asked. -/
def statedMap? (note : Annotation) : Option (String × String) :=
  match nonempty? (note.string "key"), nonempty? (note.string "value") with
  | some key, some value => some (key, value)
  | _, _ => none

/-- The key and value types that annotations give to a field that is a map.  The
first annotation that states both of them counts. -/
def annotatedMap? (field : DeclaredField) : Asked (Option (String × String)) := do
  return (← annotationsNamed ["map"] field.annotations).findSome? statedMap?

/-- Whether a schema type is one of some named types.  A collection cannot be
searched for, and asking for one is a failure. -/
def isOneOf (names : List String) (type : Value) : Asked Bool := do
  let key ← type.askKey
  return names.any fun name => Value.text name == key

/-- The shape that a declared type has by itself or by flags of the field.  The
key is checked for a map at the outside only; one inside another type counts by
what is around it. -/
def declaredShape (table : TypeTable) (field : DeclaredField) : Asked FieldShape :=
  match field.type with
  | .mapping key _ => do
      return if ← isOneOf mapKeyTypes (← table.schemaType key) then .map else .unsupported
  | type => do
      if (← field.hasFlag "repeated") || type.isCollection then return .repeated
      else if (← field.hasFlag "optional") || type.isPointer then return .optional
      else return .scalar

def shape (table : TypeTable) (field : DeclaredField) : Asked FieldShape := do
  if (← field.annotatedMap?).isSome then return .map else field.declaredShape table

def schemaType (context : SchemaContext) (field : DeclaredField) : Asked Value := do
  match ← firstString? ["field"] "type" field.annotations with
  | some type => return .text type
  | none =>
      match nonempty? (← context.model.tagOf field).type with
      | some type => return .text type
      | none => context.types.schemaType field.type

/-- Key and value types that a field does not have. -/
def noMapTypes : Value × Value := (.text "", .text "")

/-- The schema types of key and value of a field that is a map; empty texts for
another field.  The types of an annotation are taken as they are, without a look
at the table. -/
def mapTypes (table : TypeTable) (field : DeclaredField) : Asked (Value × Value) := do
  match ← field.annotatedMap? with
  | some (key, value) => return (.text key, .text value)
  | none =>
      match field.type with
      | .mapping key value =>
          let keyType ← table.schemaType key
          let valueType ← table.schemaType value
          return (keyType, valueType)
      | _ => return noMapTypes

end DeclaredField

end WireSchema
