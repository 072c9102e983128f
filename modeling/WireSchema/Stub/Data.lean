import WireSchema.ProtoText.File
import WireSchema.Stub.Descriptor

namespace WireSchema.Stub

/-!
Stub data of a model.

The descriptors are made from the same plans and services that are written into the schema.  A
value is converted by its schema type: well-known times, scalars, enumerations and messages of the
model have their own conversions, and every other type crosses as it stands.
-/

/-- The types of a model that have conversions of their own. -/
structure ConvertedTypes where
  /-- The names of enumerations in the schema, by the names they go by. -/
  enums : List (Value × Value)
  messages : List Value
deriving Repr, Inhabited

namespace ConvertedTypes

/-- The names of messages that a composite type is converted as. -/
def messageNamesOf (composite : Composite) : Asked (List Value) := do
  if ← composite.isMessage then Value.askKeys (← composite.messageNames) else return []

/-- The names by which an enumeration goes, each with its name in the schema. -/
def enumNamesOf (enum : EnumType) : Asked (List (Value × Value)) := do
  if ← enum.isWritten then
    let name ← enum.schemaName
    return [(← enum.name.askKey, name), (← name.askKey, name)]
  else return []

def of (model : Model) : Asked ConvertedTypes := do
  let messages ← model.composites.mapM messageNamesOf
  let enums ← model.enums.mapM enumNamesOf
  return { enums := setKeys enums.flatten, messages := messages.flatten }

/-- How a single value of a schema type is converted.  Types are tried in this
order, so that a message with the name of a built-in type is converted like that
type. -/
def kindOf (types : ConvertedTypes) (type : Value) : Asked ValueKind := do
  let key ← type.askKey
  return if key == .text "google.protobuf.Timestamp" then .timestamp
    else if key == .text "google.protobuf.Duration" then .duration
    else if scalarTypes.any fun name => Value.text name == key then .scalar
    else if (lookupKey? key types.enums).isSome then .enum
    else if types.messages.contains key then .message
    else .rawMessage

/-- The name from which the conversions of a schema type are named. -/
def helperName (types : ConvertedTypes) (type : Value) : Asked String :=
  snakeCaseOf ((lookupKey? type types.enums).getD type)

/-- Whether values of a kind have conversions that are made here. -/
def isConverted (kind : ValueKind) : Bool := kind == .message || kind == .enum

/-- The name from which the conversions of values are named; empty when they have none. -/
def valueHelper (types : ConvertedTypes) (kind : ValueKind) (type : Value) : Asked String :=
  if isConverted kind then types.helperName type else .ok ""

/-- The name from which the conversions of a message are named; empty for another type. -/
def messageHelper (types : ConvertedTypes) (type : Value) : Asked String := do
  if (← types.kindOf type) == .message then types.helperName type else return ""

def mapConversion (types : ConvertedTypes) (keyType valueType : Value) : Asked MapConversion := do
  let kind ← types.kindOf valueType
  let helper ← types.valueHelper kind valueType
  MapConversion.of keyType valueType kind helper

end ConvertedTypes

/-! ## Fields and types -/

/-- The kind of a field that is no map.  A map that cannot be written is not
planned, and does not come here. -/
def fieldKind (shape : FieldShape) (value : ValueKind) : FieldKind :=
  match shape with
  | .repeated => FieldKind.repeated value
  | .optional => FieldKind.optional value
  | _ => FieldKind.single value

def mapFieldInfo (types : ConvertedTypes) (planned : PlannedField) : Asked FieldInfo := do
  let conversion ← types.mapConversion planned.mapTypes.1 planned.mapTypes.2
  return { sourceName := planned.field.name
           schemaName := planned.name
           kind := .map
           helper := ""
           pointerName := ""
           isMessage := false
           map := some conversion }

/-- The descriptor of a field that is no map. -/
def plainFieldInfo (types : ConvertedTypes) (planned : PlannedField) : Asked FieldInfo := do
  let value ← types.kindOf planned.type
  let kind := fieldKind planned.shape value
  let helper ← types.valueHelper value planned.type
  let pointerName ←
    if ConvertedTypes.isConverted value then sanitizedName planned.type else pure ""
  return { sourceName := planned.field.name
           schemaName := planned.name
           kind, helper, pointerName
           isMessage := kind.isMessage
           map := none }

def fieldInfo (types : ConvertedTypes) (planned : PlannedField) : Asked FieldInfo :=
  if planned.shape == .map then mapFieldInfo types planned else plainFieldInfo types planned

def messageInfo (types : ConvertedTypes) (plan : MessagePlan) : Asked TypeInfo := do
  return TypeInfo.of plan.name plan.composite.name false (← plan.fields.mapM (fieldInfo types))

def messageInfos (context : SchemaContext) (types : ConvertedTypes) (composite : Composite) :
    Asked (List TypeInfo) := do
  (← context.plansIfMessage composite).mapM (messageInfo types)

/-- The descriptor of an enumeration. -/
def enumInfo (enum : EnumType) : Asked TypeInfo := do
  return TypeInfo.of (← enum.schemaName) enum.name true []

/-! ## Maps -/

/-- The conversions of all maps among types, one for each name: the first.  Names
do not determine types, so that maps of different types can come under one of
them. -/
def mapsOf (types : List TypeInfo) : List MapConversion :=
  (types.flatMap fun type => type.fields.filterMap (·.map)).foldl
    (fun known map => if known.any (·.toName == map.toName) then known else known ++ [map]) []

def FieldInfo.sharing (maps : List MapConversion) (field : FieldInfo) : FieldInfo :=
  { field with map := field.map.bind fun map => maps.find? (·.toName == map.toName) }

def TypeInfo.sharing (maps : List MapConversion) (type : TypeInfo) : TypeInfo :=
  { type with fields := type.fields.map (·.sharing maps) }

/-! ## Services -/

/-- The name in the program of the type of the first of some parameters. -/
def sourceTypeName : List Parameter → String
  | [] => ""
  | first :: _ => first.type.unwrap.simpleName

def methodInfo (types : ConvertedTypes) (rpc : Rpc) : Asked MethodInfo := do
  let inputHelper ← types.messageHelper rpc.inputType
  let outputHelper ← types.messageHelper rpc.outputType
  return { name := rpc.name
           sourceName := rpc.method.name
           inputType := rpc.inputType
           outputType := rpc.outputType
           inputSource := sourceTypeName rpc.method.dataParams
           outputSource := sourceTypeName rpc.method.dataResults
           inputHelper, outputHelper
           clientStreaming := rpc.clientStreaming
           serverStreaming := rpc.serverStreaming
           hasContext := rpc.method.params.any (·.isCallContext)
           hasInput := rpc.inputType != .text emptyType
           hasOutput := rpc.outputType != .text emptyType }

/-- The descriptor of a service.  Streaming methods are left out unless they are supported. -/
def serviceInfo (types : ConvertedTypes) (withStreaming : Bool) (service : Service) :
    Asked ServiceInfo := do
  let rpcs := service.rpcs.filter fun rpc => withStreaming || !rpc.isStreaming
  return ServiceInfo.of service.name service.sourceName (← rpcs.mapM (methodInfo types))

/-- Whether a method has the empty message as its input or output. -/
def MethodInfo.usesEmpty (method : MethodInfo) : Bool :=
  !method.hasOutput || !method.hasInput

def StubData.of (context : SchemaContext) (stubs : StubOptions) (commandLine : String) :
    Asked StubData := do
  let model := context.model
  let converted ← ConvertedTypes.of model
  let types ← model.composites.mapM (messageInfos context converted)
  let enums ← (← writtenEnums model.enums).mapM enumInfo
  let written ← ProtoText.writtenServices context model.wholeUnit
  let services ← written.mapM (serviceInfo converted stubs.streamingSupport.isTruthy)
  let maps := mapsOf types.flatten
  return { modulePath := stubs.modulePath
           protobufPackage := stubs.protobufPackage
           protobufAlias := stubs.protobufAlias
           grpcPackage := stubs.grpcPackage
           grpcAlias := stubs.grpcAlias
           commandLine, enums, services, maps
           types := types.flatten.map (·.sharing maps)
           streamingSupport := stubs.streamingSupport
           usesEmpty := services.any fun service => service.methods.any (·.usesEmpty) }

end WireSchema.Stub
