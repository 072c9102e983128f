import WireSchema.Model.Basic
import WireSchema.Options.Basic
import WireSchema.Text.Words

namespace WireSchema

/-!
Types of the model and types of the schema.

A named type is looked up in the overrides of the options, then in their known types, then in the
table of built-in types; a name that is in none of them refers to a message or an enumeration and
loses its package.  An instantiation of a template is the alias declared for it, found by its
notation, and without an alias a name composed from the template and its arguments.  Overrides,
known types and aliases give what a document states, which need not be a text, and both tables are
searched only when a type is looked up.
-/

/-- The type of a message without fields. -/
def emptyType : String := "google.protobuf.Empty"

/-- The schema types of built-in types. -/
def builtinTypes : List (String × String) :=
  [("string", "string"), ("str", "string"), ("int", "int32"), ("int8", "int32"),
   ("int16", "int32"), ("int32", "int32"), ("int64", "int64"), ("uint", "uint32"),
   ("uint8", "uint32"), ("uint16", "uint32"), ("uint32", "uint32"), ("uint64", "uint64"),
   ("bool", "bool"), ("float32", "float"), ("float64", "double"), ("float", "double"),
   ("bytes", "bytes"), ("time.Time", "google.protobuf.Timestamp"),
   ("datetime.datetime", "google.protobuf.Timestamp"),
   ("time.Duration", "google.protobuf.Duration"),
   ("datetime.timedelta", "google.protobuf.Duration"), ("any", "google.protobuf.Any"),
   ("interface\x7b\x7d", "google.protobuf.Any"), ("typing.Any", "google.protobuf.Any"),
   ("wrapperspb.StringValue", "google.protobuf.StringValue"),
   ("wrapperspb.Int32Value", "google.protobuf.Int32Value"),
   ("wrapperspb.Int64Value", "google.protobuf.Int64Value"),
   ("wrapperspb.UInt32Value", "google.protobuf.UInt32Value"),
   ("wrapperspb.UInt64Value", "google.protobuf.UInt64Value"),
   ("wrapperspb.FloatValue", "google.protobuf.FloatValue"),
   ("wrapperspb.DoubleValue", "google.protobuf.DoubleValue"),
   ("wrapperspb.BoolValue", "google.protobuf.BoolValue"),
   ("wrapperspb.BytesValue", "google.protobuf.BytesValue"),
   ("structpb.Struct", "google.protobuf.Struct"), ("structpb.Value", "google.protobuf.Value"),
   ("structpb.ListValue", "google.protobuf.ListValue"), ("emptypb.Empty", emptyType)]

/-- The imports that declare well-known schema types. -/
def wellKnownImports : List (String × String) :=
  [("google.protobuf.Timestamp", "google/protobuf/timestamp.proto"),
   ("google.protobuf.Duration", "google/protobuf/duration.proto"),
   ("google.protobuf.Any", "google/protobuf/any.proto"),
   ("google.protobuf.Empty", "google/protobuf/empty.proto"),
   ("google.protobuf.Struct", "google/protobuf/struct.proto"),
   ("google.protobuf.Value", "google/protobuf/struct.proto"),
   ("google.protobuf.ListValue", "google/protobuf/struct.proto"),
   ("google.protobuf.StringValue", "google/protobuf/wrappers.proto"),
   ("google.protobuf.Int32Value", "google/protobuf/wrappers.proto"),
   ("google.protobuf.Int64Value", "google/protobuf/wrappers.proto"),
   ("google.protobuf.UInt32Value", "google/protobuf/wrappers.proto"),
   ("google.protobuf.UInt64Value", "google/protobuf/wrappers.proto"),
   ("google.protobuf.FloatValue", "google/protobuf/wrappers.proto"),
   ("google.protobuf.DoubleValue", "google/protobuf/wrappers.proto"),
   ("google.protobuf.BoolValue", "google/protobuf/wrappers.proto"),
   ("google.protobuf.BytesValue", "google/protobuf/wrappers.proto")]

def integerTypes : List String :=
  ["int32", "int64", "uint32", "uint64", "sint32", "sint64", "fixed32", "fixed64", "sfixed32",
   "sfixed64"]

/-- The types that a map of the schema admits as its key. -/
def mapKeyTypes : List String := integerTypes ++ ["bool", "string"]

/-- The types of single values that the schema has built in. -/
def scalarTypes : List String := mapKeyTypes ++ ["double", "float", "bytes"]

/-- What decides the schema type of a type.  Overrides and known types come from
the options, where they may be kept unread, and aliases from the model. -/
structure TypeTable where
  /-- Schema types by name, as the options give them. -/
  overrides : Option Value
  /-- Known types by name, as the options give them. -/
  known : Section (List (Value × KnownType))
  /-- Names of aliases by the notation of the instantiation they stand for. -/
  aliases : List (String × Value)
deriving Repr, Inhabited

namespace TypeTable

/-- The aliases of a model by the notation of what they stand for, in declaration order.  A look-up
takes the first one. -/
def aliasesOf (composites : List Composite) : List (String × Value) :=
  composites.filterMap fun composite =>
    composite.target?.map fun target => ((composite.instantiation target).print, composite.name)

def ofOptions (options : Options) (model : Model) : TypeTable :=
  { overrides := options.typeMappings
    known := options.knownTypes
    aliases := aliasesOf model.composites }

def override? (table : TypeTable) (name : String) : Asked (Option Value) := do
  (← askGiven table.overrides).lookup? name

/-- The schema type of a known type.  What was kept unread holds no known types. -/
def knownSchemaType? (table : TypeTable) (name : String) : Asked (Option Value) :=
  match table.known with
  | .read entries => .ok ((lookupKey? (.text name) entries).map (·.type))
  | .kept value => do
      match ← value.lookup? name with
      | some _ => throw .noOperation
      | none => return none
  | .lacking => .error .noOperation

/-- The schema type of a type's name, with its package.  Options go before
built-in types; a name that nobody knows stands for itself, without its package
and without a look at the model. -/
def mapName (table : TypeTable) (name : String) : Asked Value := do
  match ← table.override? name with
  | some type => return type
  | none =>
      match ← table.knownSchemaType? name with
      | some type => return type
      | none => return .text ((lookupKey? name builtinTypes).getD (Text.afterLast '.' name))

/-- The alias declared for an instantiation, if it has a name.  Instantiations
are told apart by their notation, and an alias without a name gives way to a
composed one. -/
def aliasFor? (table : TypeTable) (expr : TypeExpr) : Option Value :=
  (lookupKey? expr.print table.aliases).filter (·.isTruthy)

/-- The name of a schema type without its package, as part of a composed name.
Arguments of different packages can so have one name. -/
def argumentName (type : Value) : Asked String := do
  return Text.toPascalCase (Text.afterLast '.' (← type.askText))

mutual

/-- The schema type of a type.  Pointers and sequences are looked through, for
the shape of a field says what they mean; a map inside them is written in the
notation of a map all the same. -/
def schemaType (table : TypeTable) : TypeExpr → Asked Value
  | .named name package => table.mapName (TypeExpr.qualify name package)
  | .pointer elem => schemaType table elem
  | .sequence elem =>
      if (TypeExpr.sequence elem).isByteSequence then .ok (.text "bytes")
      else schemaType table elem
  | .mapping key value => do
      let keyType ← schemaType table key
      let valueType ← schemaType table value
      return .text ("map<" ++ keyType.display ++ ", " ++ valueType.display ++ ">")
  | .generic name args =>
      match table.aliasFor? (.generic name args) with
      | some aliasName => .ok aliasName
      | none => do return .text (name ++ (← argumentNames table args))

/-- The names of arguments, joined, as they follow the name of a template.
Nothing separates them but the capitals they begin with. -/
def argumentNames (table : TypeTable) : List TypeExpr → Asked String
  | [] => .ok ""
  | arg :: args => do
      let first ← argumentName (← schemaType table arg)
      let others ← argumentNames table args
      return first ++ others

end

def knownImport? (table : TypeTable) (source : String) : Asked (Option Value) :=
  match table.known with
  | .read entries =>
      .ok (((lookupKey? (.text source) entries).map (·.importPath)).filter (·.isTruthy))
  | .kept (.map members) =>
      match Members.get? members source with
      | some .null => .ok none
      | some _ => .error .noOperation
      | none => .ok none
  | _ => .error .noOperation

def wellKnownImport (type : Value) : Asked Value :=
  match type with
  | .text name => .ok (.text ((lookupKey? name wellKnownImports).getD ""))
  | other => do
      let _ ← other.askKey
      return .text ""

/-- The import that declares a schema type: the one of the known type by which it was found, or
else the one of a well-known type, or the empty text. -/
def importFor (table : TypeTable) (type : Value) (source : String) : Asked Value := do
  match ← table.knownImport? source with
  | some path => return path
  | none => wellKnownImport type

end TypeTable

end WireSchema
