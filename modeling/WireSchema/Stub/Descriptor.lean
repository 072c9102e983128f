import WireSchema.Schema.Names

namespace WireSchema.Stub

/-!
Descriptors of adapter stubs.

The modules of adapter stubs convert between the types of a program and those of the schema.  What
they say of a field, a type or a service is collected in descriptors first, names included that are
derived from other names, so that every module reads the same ones.  Names that a document gives may
be of any kind; what is derived from a name that is no text may not be to be had.
-/

/-- How a single value crosses between program and schema.  The modules hold code
for each kind, and none for a type by itself. -/
inductive ValueKind where
  | scalar
  | message
  | enum
  | timestamp
  | duration
  /-- A message that has no conversion of its own. -/
  | rawMessage
deriving DecidableEq, Repr, Inhabited

def ValueKind.word : ValueKind → String
  | scalar => "scalar"
  | message => "message"
  | enum => "enum"
  | timestamp => "timestamp"
  | duration => "duration"
  | rawMessage => "raw_message"

def ValueKind.all : List ValueKind :=
  [.scalar, .message, .enum, .timestamp, .duration, .rawMessage]

/-- How a field crosses between program and schema. -/
inductive FieldKind where
  | scalar
  | optionalScalar
  | message
  | optionalMessage
  | enum
  | optionalEnum
  | repeatedScalar
  | repeatedMessage
  | repeatedEnum
  | map
  | timestamp
  | duration
  | repeatedTimestamp
  | repeatedDuration
  | rawMessage
deriving DecidableEq, Repr, Inhabited

namespace FieldKind

def word : FieldKind → String
  | scalar => "scalar"
  | optionalScalar => "optional_scalar"
  | message => "message"
  | optionalMessage => "optional_message"
  | enum => "enum"
  | optionalEnum => "optional_enum"
  | repeatedScalar => "repeated_scalar"
  | repeatedMessage => "repeated_message"
  | repeatedEnum => "repeated_enum"
  | map => "map"
  | timestamp => "timestamp"
  | duration => "duration"
  | repeatedTimestamp => "repeated_timestamp"
  | repeatedDuration => "repeated_duration"
  | rawMessage => "raw_message"

def all : List FieldKind :=
  [scalar, optionalScalar, message, optionalMessage, enum, optionalEnum, repeatedScalar,
   repeatedMessage, repeatedEnum, map, timestamp, duration, repeatedTimestamp, repeatedDuration,
   rawMessage]

def single : ValueKind → FieldKind
  | .scalar => scalar
  | .message => message
  | .enum => enum
  | .timestamp => timestamp
  | .duration => duration
  | .rawMessage => rawMessage

/-- A field that may lack its value. -/
def optional : ValueKind → FieldKind
  | .scalar => optionalScalar
  | .message => optionalMessage
  | .enum => optionalEnum
  | kind => single kind

def repeated : ValueKind → FieldKind
  | .message => repeatedMessage
  | .enum => repeatedEnum
  | .timestamp => repeatedTimestamp
  | .duration => repeatedDuration
  | _ => repeatedScalar

/-- Whether a field holds one message with conversions of its own. -/
def isMessage (kind : FieldKind) : Bool :=
  kind == message || kind == optionalMessage

end FieldKind

/-- A type's name as part of the name of a function. -/
def sanitizedName (type : Value) : Asked String := do
  return Text.sanitizeTypeName (← type.askReplaceable)

structure MapConversion where
  keyType : Value
  valueType : Value
  valueKind : ValueKind
  /-- The name from which the conversions of the values are named; empty when they have none. -/
  valueHelper : String
  toName : String
  fromName : String
deriving Repr, Inhabited

/-- The part of the names of a map's conversions that tells its types: those of
key and value, with a character of names in the place of every mark. -/
def mapSuffix (keyType valueType : Value) : Asked String := do
  let key ← sanitizedName keyType
  let value ← sanitizedName valueType
  return key ++ "_" ++ value

def MapConversion.of (keyType valueType : Value) (valueKind : ValueKind) (valueHelper : String) :
    Asked MapConversion := do
  let suffix ← mapSuffix keyType valueType
  return { keyType, valueType, valueKind, valueHelper
           toName := "convert_map_to_proto_" ++ suffix
           fromName := "convert_map_from_proto_" ++ suffix }

structure FieldInfo where
  /-- The name of the attribute in the program. -/
  sourceName : Value
  /-- The name of the field in the schema. -/
  schemaName : String
  kind : FieldKind
  /-- The name from which the conversions of the values are named; empty when they have none. -/
  helper : String
  /-- The part of the names of pointer conversions that tells the type. -/
  pointerName : String
  isMessage : Bool
  map : Option MapConversion
deriving Repr, Inhabited

/-- A message or an enumeration that is converted.  Names that are derived from
the own name may fail to exist, which counts only where a module writes them. -/
structure TypeInfo where
  /-- The name in the schema. -/
  name : Value
  /-- The name in the program. -/
  sourceName : Value
  isEnum : Bool
  /-- The name from which the conversions are named. -/
  snake : Asked String
  pointerName : Asked String
  fields : List FieldInfo
deriving Repr

instance : Inhabited TypeInfo :=
  ⟨{ name := .null, sourceName := .null, isEnum := false, snake := .ok "", pointerName := .ok ""
     fields := [] }⟩

/-- A type with the names that follow from its own. -/
def TypeInfo.of (name sourceName : Value) (isEnum : Bool) (fields : List FieldInfo) : TypeInfo :=
  { name, sourceName, isEnum, fields, snake := snakeCaseOf name
    pointerName := sanitizedName name }

structure MethodInfo where
  /-- The name in the schema. -/
  name : Value
  /-- The name in the program. -/
  sourceName : Value
  inputType : Value := .text ""
  outputType : Value := .text ""
  inputSource : String := ""
  outputSource : String := ""
  inputHelper : String
  outputHelper : String
  clientStreaming : Bool
  serverStreaming : Bool
  hasContext : Bool
  hasInput : Bool
  hasOutput : Bool
deriving Repr, Inhabited

/-- Whether input or output of a method is a stream. -/
def MethodInfo.isStreaming (method : MethodInfo) : Bool :=
  method.clientStreaming || method.serverStreaming

structure ServiceInfo where
  name : Value
  sourceName : Value
  snake : Asked String
  methods : List MethodInfo
  streamingMethods : List MethodInfo
deriving Repr

def ServiceInfo.of (name sourceName : Value) (methods : List MethodInfo) : ServiceInfo :=
  { name, sourceName, methods, snake := snakeCaseOf name
    streamingMethods := methods.filter (·.isStreaming) }

/-- A derived name as it is written into a module.  One that is lacking is written as nothing; a
name of a kind for which it cannot even be asked is a fault. -/
def writtenName : Asked String → Asked String
  | .error .noOperation => .ok ""
  | name => name

/-- Everything that the modules of adapter stubs are made of. -/
structure StubData where
  modulePath : Value
  protobufPackage : Value
  protobufAlias : Value
  grpcPackage : Value
  grpcAlias : Value
  commandLine : String
  types : List TypeInfo
  enums : List TypeInfo
  services : List ServiceInfo
  maps : List MapConversion
  streamingSupport : Value
  /-- Whether a method has the empty message as its input or output. -/
  usesEmpty : Bool
deriving Repr

end WireSchema.Stub
