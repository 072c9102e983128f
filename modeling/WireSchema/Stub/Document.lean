import WireSchema.Failure
import WireSchema.Stub.Data
import WireSchema.Stub.ServiceModules
import WireSchema.Stub.TypesModule
import WireSchema.Template.Datum

namespace WireSchema.Stub

/-!
Stub data as a mapping.

A text template reads stub data by names, and the tool's own modules can be asked for with a mapping
in the place of stub data.  Such a mapping need not be complete: a name that it lacks stands for an
empty text, an empty list or no.  Only the conversion of a map is needed by a field that is one.
-/

def StubModule.lines (data : StubData) : StubModule → Asked (List Line)
  | types => TypesModule.lines data
  | adapter => .ok (AdapterModule.lines data)
  | client => .ok (ClientModule.lines data)
  | bridge => .ok (BridgeModule.lines data)
  | registration => RegistrationModule.lines data

/-! ## Writing -/

open Template (Datum)

/-- The conversions of a map as a template sees them. -/
def MapConversion.datum (map : MapConversion) : Datum :=
  .record "MapConversion"
    [("key_type", .value map.keyType), ("value_type", .value map.valueType),
     ("value_kind", .text map.valueKind.word), ("value_helper", .text map.valueHelper)]
    [("to_proto_name", .text map.toName), ("from_proto_name", .text map.fromName)]

/-- A field as a template sees it. -/
def FieldInfo.datum (field : FieldInfo) : Datum :=
  .record "FieldInfo"
    [("attr", .value field.sourceName), ("proto_name", .text field.schemaName),
     ("kind", .text field.kind.word), ("helper", .text field.helper),
     ("pointer_name", .text field.pointerName),
     ("map", (field.map.map MapConversion.datum).getD (.value .null))]
    [("is_message", .bool field.isMessage)]

/-- A type as a template sees it. -/
def TypeInfo.datum (type : TypeInfo) : Datum :=
  .record "TypeInfo"
    [("name", .value type.name), ("proto_name", .value type.name),
     ("domain_name", .value type.sourceName), ("is_enum", .bool type.isEnum),
     ("fields", .list (type.fields.map FieldInfo.datum))]
    [("snake", .ofAsked type.snake), ("pointer_name", .ofAsked type.pointerName)]

def MethodInfo.parts (method : MethodInfo) : List (String × Value) :=
  [("name", method.name), ("domain_name", method.sourceName),
   ("input_proto", method.inputType), ("output_proto", method.outputType),
   ("input_domain", .text method.inputSource), ("output_domain", .text method.outputSource),
   ("input_helper", .text method.inputHelper), ("output_helper", .text method.outputHelper),
   ("client_streaming", .bool method.clientStreaming),
   ("server_streaming", .bool method.serverStreaming), ("has_context", .bool method.hasContext),
   ("has_input", .bool method.hasInput), ("has_output", .bool method.hasOutput)]

/-- A method as a template sees it. -/
def MethodInfo.datum (method : MethodInfo) : Datum :=
  .record "MethodInfo" (method.parts.map fun part => (part.1, Datum.value part.2))
    [("streaming", .bool method.isStreaming)]

/-- A service as a template sees it. -/
def ServiceInfo.datum (service : ServiceInfo) : Datum :=
  .record "ServiceInfo"
    [("name", .value service.name), ("domain_name", .value service.sourceName),
     ("methods", .list (service.methods.map MethodInfo.datum))]
    [("snake", .ofAsked service.snake),
     ("streaming_methods", .list (service.streamingMethods.map MethodInfo.datum))]

/-- The names that a template reads of stub data. -/
def StubData.scope (data : StubData) : Template.Scope :=
  [("module_path", .value data.modulePath), ("protobuf_package", .value data.protobufPackage),
   ("protobuf_alias", .value data.protobufAlias), ("grpc_package", .value data.grpcPackage),
   ("grpc_alias", .value data.grpcAlias), ("command_line", .text data.commandLine),
   ("types", .list (data.types.map TypeInfo.datum)),
   ("enums", .list (data.enums.map TypeInfo.datum)),
   ("services", .list (data.services.map ServiceInfo.datum)),
   ("map_conversions", .list (data.maps.map MapConversion.datum)),
   ("streaming_support", .value data.streamingSupport), ("uses_empty", .bool data.usesEmpty)]

/-! ## Reading -/

/-- The text of a member; an absent one is empty. -/
def textAt (value : Value) (name : String) : String :=
  ((value.member? name).map Value.display).getD ""

/-- The text of a member that counts as given; another one is empty. -/
def givenTextAt (value : Value) (name : String) : String :=
  match value.member? name with
  | some member => if member.isTruthy then member.display else ""
  | none => ""

def holdsAt (value : Value) (name : String) : Bool :=
  ((value.member? name).map Value.isTruthy).getD false

/-- The items of a member; an absent one has none. -/
def itemsAt (value : Value) (name : String) : Except OuterFault (List Value) :=
  match value.member? name with
  | some member => member.items.mapError OuterFault.shape
  | none => .ok []

/-- Whether a member has an item at its first place; the members of a mapping have no places. -/
def hasFirstItem (value : Value) (name : String) : Bool :=
  ((value.member? name).bind fun member => Datum.itemAt? member 0).isSome

/-- The kind of value that a member names; a name of none stands for a plain value. -/
def valueKindAt (value : Value) (name : String) : ValueKind :=
  (ValueKind.all.find? fun kind => value.member? name == some (.text kind.word)).getD .scalar

/-- The kind of field that a member names; a name of none stands for an opaque message. -/
def fieldKindAt (value : Value) (name : String) : FieldKind :=
  (FieldKind.all.find? fun kind => value.member? name == some (.text kind.word)).getD .rawMessage

def MapConversion.ofValue (value : Value) : MapConversion :=
  { keyType := .text (textAt value "key_type")
    valueType := .text (textAt value "value_type")
    valueKind := valueKindAt value "value_kind"
    valueHelper := textAt value "value_helper"
    toName := textAt value "to_proto_name"
    fromName := textAt value "from_proto_name" }

/-- A field.  One that is a map needs its conversions; all other members may be
absent, and are then empty. -/
def FieldInfo.ofValue (value : Value) : Except OuterFault FieldInfo := do
  let kind := fieldKindAt value "kind"
  let map := (value.member? "map").map MapConversion.ofValue
  if kind == .map && map.isNone then throw OuterFault.undefined
  return { sourceName := .text (textAt value "attr"), schemaName := textAt value "proto_name", kind
           helper := textAt value "helper", pointerName := textAt value "pointer_name"
           isMessage := holdsAt value "is_message", map }

def TypeInfo.ofValue (isEnum : Bool) (value : Value) : Except OuterFault TypeInfo := do
  let items ← if isEnum then pure [] else itemsAt value "fields"
  let fields ← items.mapM FieldInfo.ofValue
  return { name := .text (textAt value "proto_name")
           sourceName := .text (textAt value "domain_name")
           isEnum, fields
           snake := .ok (textAt value "snake")
           pointerName := .ok (textAt value "pointer_name") }

def MethodInfo.ofValue (value : Value) : MethodInfo :=
  { name := .text (textAt value "name")
    sourceName := .text (textAt value "domain_name")
    inputType := .text (textAt value "input_proto")
    outputType := .text (textAt value "output_proto")
    inputSource := textAt value "input_domain"
    outputSource := textAt value "output_domain"
    inputHelper := givenTextAt value "input_helper"
    outputHelper := givenTextAt value "output_helper"
    clientStreaming := holdsAt value "client_streaming"
    serverStreaming := holdsAt value "server_streaming"
    hasContext := holdsAt value "has_context"
    hasInput := holdsAt value "has_input"
    hasOutput := holdsAt value "has_output" }

/-- A service as a module needs it: all its methods or only the streaming ones. -/
def ServiceInfo.ofValue (module : StubModule) (value : Value) : Except OuterFault ServiceInfo := do
  let methodsAt (name : String) := do
    return (← itemsAt value name).map MethodInfo.ofValue
  let methods ← if module == .adapter || module == .client then methodsAt "methods" else pure []
  let streamingMethods ←
    if module == .bridge && holdsAt value "streaming_methods" then methodsAt "streaming_methods"
    else pure []
  return { name := .text (textAt value "name"), sourceName := .text (textAt value "domain_name")
           snake := .ok (textAt value "snake"), methods, streamingMethods }

/-- The types that a module needs of a mapping.  Modules of services only ask whether there are
any, so that one stands for them all. -/
def typesAt (module : StubModule) (isEnum : Bool) (value : Value) (name : String) :
    Except OuterFault (List TypeInfo) := do
  if module == .types then (← itemsAt value name).mapM (TypeInfo.ofValue isEnum)
  else return if holdsAt value name then [default] else []

/-- The stub data that a module needs of a mapping. -/
def StubData.ofMembers (module : StubModule) (members : Members) : Except OuterFault StubData := do
  let value := Value.map members
  let plain (name : String) := Members.getD members name (.text "")
  let types ← typesAt module false value "types"
  let enums ← typesAt module true value "enums"
  let maps ← if module == .types then itemsAt value "map_conversions" else pure []
  let services ←
    if module == .types then pure [] else
      (← itemsAt value "services").mapM (ServiceInfo.ofValue module)
  if module == .registration && !services.isEmpty && !hasFirstItem value "services" then
    throw OuterFault.undefined
  return { modulePath := plain "module_path", protobufPackage := plain "protobuf_package"
           protobufAlias := plain "protobuf_alias", grpcPackage := plain "grpc_package"
           grpcAlias := plain "grpc_alias", commandLine := givenTextAt value "command_line"
           types, enums, services, maps := maps.map MapConversion.ofValue
           streamingSupport := plain "streaming_support", usesEmpty := holdsAt value "uses_empty" }

end WireSchema.Stub
