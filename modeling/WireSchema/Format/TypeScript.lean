import WireSchema.Format.View

namespace WireSchema.TypeScript

/-!
TypeScript definitions.

Messages become interfaces, enumerations become enums, templates become generic interfaces and
aliases become type aliases.  Well-known types of the schema have counterparts; every other name
refers to a definition of the same document.
-/

/-- The comment at the head of a document. -/
def headText : String :=
  "// TypeScript definitions generated from protobuf annotations\n// DO NOT EDIT\n\n"

/-! ## Types -/

/-- Schema types whose values are strings. -/
def stringTypes : List String :=
  ["string", "bytes", "google.protobuf.StringValue", "google.protobuf.BytesValue",
   "google.protobuf.Duration"]

/-- Schema types whose values are truth values. -/
def booleanTypes : List String := ["bool", "google.protobuf.BoolValue"]

/-- Schema types whose values are numbers. -/
def numberTypes : List String :=
  integerTypes
    ++ ["double", "float", "google.protobuf.FloatValue", "google.protobuf.DoubleValue",
        "google.protobuf.Int32Value", "google.protobuf.Int64Value",
        "google.protobuf.UInt32Value", "google.protobuf.UInt64Value"]

/-- The counterparts of other well-known types.  Those that hold any value have a
type that checks nothing. -/
def specialTypes : List (String × String) :=
  [("google.protobuf.Timestamp", "string | Date"), ("google.protobuf.Any", "any"),
   ("google.protobuf.Struct", "Record<string, any>"), ("google.protobuf.Value", "any"),
   ("google.protobuf.ListValue", "any[]"), ("google.protobuf.Empty", "Record<string, never>")]

/-- The counterpart of a schema type of a name.  A name that is none of the
well-known ones stands for itself, without its package, as that of an interface
or an enumeration. -/
def textName (type : String) : String :=
  if stringTypes.contains type then "string"
  else if booleanTypes.contains type then "boolean"
  else if numberTypes.contains type then "number"
  else (lookupKey? type specialTypes).getD (Text.afterLast '.' type)

/-- The counterpart of a schema type, which is looked up first and must be a text then. -/
def typeName (type : Value) : Asked String := do
  return textName (← (← type.askKey).askText)

/-- The type of arrays of a type.  A choice of types needs brackets, or only its
last alternative would be an array. -/
def arrayOf (element : String) : String :=
  if Text.contains element " | " then "(" ++ element ++ ")[]" else element ++ "[]"

/-- The type of objects whose members have a type. -/
def recordOf (value : String) : String :=
  "Record<string, " ++ value ++ ">"

mutual

/-- The counterpart of a type of the model; type parameters stand for
themselves.  The declared type is read here and not the plan, so that nested
collections keep their form. -/
def exprType (table : TypeTable) (parameters : List Value) : TypeExpr → Asked String
  | .named name package => do
      if package == "" && parameters.contains (.text name) then return name
      else typeName (← table.schemaType (.named name package))
  | .pointer elem => exprType table parameters elem
  | .sequence elem =>
      if (TypeExpr.sequence elem).isByteSequence then .ok "string"
      else do return arrayOf (← exprType table parameters elem)
  | .mapping _ value => do return recordOf (← exprType table parameters value)
  | .generic name args => do
      let parts ← exprTypes table parameters args
      return name ++ "<" ++ String.intercalate ", " parts ++ ">"

/-- The counterparts of several types. -/
def exprTypes (table : TypeTable) (parameters : List Value) : List TypeExpr → Asked (List String)
  | [] => .ok []
  | arg :: args => do
      let first ← exprType table parameters arg
      let others ← exprTypes table parameters args
      return first :: others

end

/-- The type of a field that is no map, before repetition is made sure of.  Where
the plan has another type than the declaration gives, the type of the plan is
taken. -/
def plainFieldType (table : TypeTable) (planned : PlannedField) : Asked String := do
  let type := planned.field.type
  if planned.type == (← table.schemaType type) then exprType table [] type
  else if type.isCollection then return arrayOf (← typeName planned.type)
  else typeName planned.type

def fieldType (table : TypeTable) (planned : PlannedField) : Asked String := do
  match planned.shape with
  | .map =>
      match planned.field.type with
      | .mapping _ value => return recordOf (← exprType table [] value)
      | _ => return recordOf (← typeName planned.mapTypes.2)
  | .repeated =>
      let type ← plainFieldType table planned
      return if Text.endsWith type "[]" then type else arrayOf type
  | _ => plainFieldType table planned

/-! ## Definitions -/

/-- A description as a comment; nothing when there is none.  The end mark of a
comment is not escaped in it. -/
def comment (margin : String) (description : Value) : String :=
  if description.isTruthy then margin ++ "/** " ++ description.display ++ " */\n" else ""

/-- A member of an interface with its comment.  The mark behind the name tells
that the member may be absent. -/
def memberText (description : Value) (name : String) (mayBeAbsent : Bool) (type : String) :
    String :=
  comment "  " description ++ "  " ++ name ++ (if mayBeAbsent then "?" else "") ++ ": " ++ type
    ++ ";\n"

/-- A definition with its members between braces. -/
def braced (description : Value) (head : String) (members : List String) : String :=
  comment "" description ++ "export " ++ head ++ " \x7b\n" ++ String.join members ++ "\x7d\n\n"

def valueText (value : EnumValue) : Asked String := do
  let description ← value.description
  let name ← value.schemaName
  let number ← (← value.number).askNumeral
  return comment "  " description ++ "  " ++ name ++ " = " ++ number ++ ",\n"

/-- The definition of an enumeration. -/
def enumText (enum : EnumType) : Asked String := do
  let description ← enum.description
  let name ← enum.schemaName
  let values ← enum.values.mapM valueText
  return braced description ("enum " ++ name.display) values

/-- A field of a template as a member.  It is marked when its declared type is a
pointer, since a template has no plan. -/
def templateFieldText (context : SchemaContext) (parameters : List Value)
    (field : DeclaredField) : Asked String := do
  let description ← field.description
  let name ← field.jsonName context.model
  let type ← exprType context.types parameters field.type
  return memberText description name field.type.isPointer type

def templateText (view : SchemaView) (template : Composite) : Asked String := do
  let description ← descriptionOf template.annotations template.doc
  let parameters ← template.typeParams.mapM (·.admitText)
  let fields ← view.templateFields template
  let members ← fields.mapM (templateFieldText view.context template.typeParams)
  return braced description
    ("interface " ++ template.name.display ++ "<" ++ String.intercalate ", " parameters ++ ">")
    members

/-- A field of a message as a member.  Whether it is marked is decided by the
plan, as what is required is in JSON Schema. -/
def fieldText (context : SchemaContext) (planned : PlannedField) : Asked String := do
  let name ← planned.field.jsonName context.model
  let type ← fieldType context.types planned
  return memberText planned.description name planned.mayBeAbsent type

def messageText (context : SchemaContext) (plan : MessagePlan) : Asked String := do
  match plan.composite.target? with
  | some target =>
      let type ← exprType context.types [] (plan.composite.instantiation target)
      return comment "" plan.description ++ "export type " ++ plan.name.display ++ " = " ++ type
        ++ ";\n\n"
  | none =>
      let members ← plan.fields.mapM (fieldText context)
      return braced plan.description ("interface " ++ plan.name.display) members

/-- The document of a unit in writing. -/
def emit (context : SchemaContext) (schema : SchemaUnit) : Asked String := do
  let view ← SchemaView.of context schema
  let enums ← view.enums.mapM enumText
  let templates ← view.templates.mapM (templateText view)
  let messages ← view.plans.mapM (messageText context)
  return Text.endedOnce (headText ++ String.join (enums ++ templates ++ messages))

end WireSchema.TypeScript
