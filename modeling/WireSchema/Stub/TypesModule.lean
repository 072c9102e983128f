import WireSchema.Stub.ModuleText

namespace WireSchema.Stub

/-!
The module of conversions.

For every enumeration there are two conversions, for every message a test for zero values and the
conversions of single values, lists and pointers, and for every kind of map two conversions.  Each
kind of field has one way in which it is set and one in which it is read.
-/

namespace TypesModule

def sourceType (type : TypeInfo) : String := "domain." ++ type.sourceName.display

def schemaType (data : StubData) (type : TypeInfo) : String :=
  data.protobufAlias.display ++ "." ++ type.name.display

/-- A type whose values may be absent. -/
def orNone (type : String) : String := type ++ " | None"

/-! ## Enumerations -/

/-- The conversions of an enumeration, which are named by `snake`. -/
def enumLines (enum : TypeInfo) (snake : String) : List Line :=
  definition
      [.define (.toSchema snake) ("value: " ++ orNone (sourceType enum)) "int",
       .plain "    if value is None:", .plain "        return 0", .plain "    return int(value)"]
    ++ definition
      [.define (.fromSchema snake) "value: int" (sourceType enum),
       .plain ("    return " ++ sourceType enum ++ "(value)")]

/-- The part of the module about an enumeration. -/
def enumPart (enum : TypeInfo) : Asked (List Line) := do
  return enumLines enum (← writtenName enum.snake)

/-! ## Fields -/

def zeroLine (field : FieldInfo) : Line :=
  let value := "value." ++ field.sourceName.display
  if field.isMessage then
    .code [.text "            ", .call (.zeroTest field.helper), .text ("(" ++ value ++ "),")]
  else .plain ("            not " ++ value ++ ",")

/-- A line that is carried out when the attribute of a field is given. -/
def whenGiven (field : FieldInfo) (line : List Part) : List Line :=
  [.plain ("    if value." ++ field.sourceName.display ++ " is not None:"),
   .code (.text "        " :: line)]

def setLines (field : FieldInfo) : List Line :=
  let target := "message." ++ field.schemaName
  let source := "value." ++ field.sourceName.display
  let map := field.map.getD default
  match field.kind with
  | .scalar => [.plain ("    " ++ target ++ " = " ++ source)]
  | .optionalScalar => whenGiven field [.text (target ++ " = " ++ source)]
  | .message =>
      whenGiven field
        [.text (target ++ ".CopyFrom("), .call (.toSchema field.helper),
          .text ("(" ++ source ++ "))")]
  | .optionalMessage =>
      [.code [.text "    if not ", .call (.zeroTest field.helper), .text ("(" ++ source ++ "):")],
       .code
        [.text ("        " ++ target ++ ".CopyFrom("), .call (.pointerToSchema field.pointerName),
         .text ("(" ++ source ++ "))")]]
  | .enum =>
      [.code
        [.text ("    " ++ target ++ " = "), .call (.toSchema field.helper),
         .text ("(" ++ source ++ ")")]]
  | .optionalEnum =>
      whenGiven field
        [.text (target ++ " = "), .call (.toSchema field.helper), .text ("(" ++ source ++ ")")]
  | .repeatedScalar => [.plain ("    " ++ target ++ ".extend(" ++ source ++ " or [])")]
  | .repeatedMessage =>
      [.code
        [.text ("    " ++ target ++ ".extend("), .call (.listToSchema field.helper),
         .text ("(" ++ source ++ "))")]]
  | .repeatedEnum =>
      [.code
        [.text ("    " ++ target ++ ".extend("), .call (.toSchema field.helper),
         .text ("(item) for item in " ++ source ++ " or [])")]]
  | .map =>
      [.code
        [.text "    ", .call (.ofMap map.toName), .text ("(" ++ source ++ ", " ++ target ++ ")")]]
  | .timestamp => whenGiven field [.text (target ++ ".FromDatetime(" ++ source ++ ")")]
  | .duration => whenGiven field [.text (target ++ ".FromTimedelta(" ++ source ++ ")")]
  | .repeatedTimestamp =>
      [.plain ("    for item in " ++ source ++ " or []:"),
       .plain ("        " ++ target ++ ".add().FromDatetime(item)")]
  | .repeatedDuration =>
      [.plain ("    for item in " ++ source ++ " or []:"),
       .plain ("        " ++ target ++ ".add().FromTimedelta(item)")]
  | .rawMessage => whenGiven field [.text (target ++ ".CopyFrom(" ++ source ++ ")")]

/-- A value that is read when a field of a message is set. -/
def ifPresent (field : FieldInfo) (value : List Part) : List Part :=
  value ++ [.text (" if message.HasField(\"" ++ field.schemaName ++ "\") else None")]

/-- The value that is read from a field of a message.  A field that may lack its
value is read only when the message has it, for otherwise it would be read as a
zero value. -/
def readParts (field : FieldInfo) : List Part :=
  let source := "message." ++ field.schemaName
  let map := field.map.getD default
  let converted (conversion : Conversion) : List Part :=
    [.call conversion, .text ("(" ++ source ++ ")")]
  match field.kind with
  | .scalar => [.text source]
  | .optionalScalar => ifPresent field [.text source]
  | .message => converted (.fromSchema field.helper)
  | .optionalMessage => ifPresent field (converted (.pointerFromSchema field.pointerName))
  | .enum => converted (.fromSchema field.helper)
  | .optionalEnum => ifPresent field (converted (.fromSchema field.helper))
  | .repeatedScalar => [.text ("list(" ++ source ++ ")")]
  | .repeatedMessage => converted (.listFromSchema field.helper)
  | .repeatedEnum =>
      [.text "[", .call (.fromSchema field.helper), .text ("(item) for item in " ++ source ++ "]")]
  | .map => converted (.ofMap map.fromName)
  | .timestamp => ifPresent field [.text (source ++ ".ToDatetime()")]
  | .duration => ifPresent field [.text (source ++ ".ToTimedelta()")]
  | .repeatedTimestamp => [.text ("[item.ToDatetime() for item in " ++ source ++ "]")]
  | .repeatedDuration => [.text ("[item.ToTimedelta() for item in " ++ source ++ "]")]
  | .rawMessage => ifPresent field [.text source]

/-- The line that reads a field of a message into an attribute. -/
def readLine (field : FieldInfo) : Line :=
  .code ([.text ("        " ++ field.sourceName.display ++ "=")] ++ readParts field ++ [.text ","])

/-! ## Messages -/

def zeroLines (type : TypeInfo) (snake : String) : List Line :=
  [.define (.zeroTest snake) ("value: " ++ orNone (sourceType type)) "bool",
   .plain "    if value is None:", .plain "        return True"]
    ++ (if type.fields.isEmpty then [.plain "    return True"]
        else
          [.plain "    return all(", .plain "        ["] ++ type.fields.map zeroLine
            ++ [.plain "        ]", .plain "    )"])

/-- The conversion of a message into the schema. -/
def toProtoLines (data : StubData) (type : TypeInfo) (snake : String) : List Line :=
  [.define (.toSchema snake) ("value: " ++ orNone (sourceType type))
    (orNone (schemaType data type)), .plain "    if value is None:", .plain "        return None",
   .plain ("    message = " ++ schemaType data type ++ "()")]
    ++ type.fields.flatMap setLines ++ [.plain "    return message"]

/-- The conversion of a message into the program. -/
def fromProtoLines (data : StubData) (type : TypeInfo) (snake : String) : List Line :=
  [.define (.fromSchema snake) ("message: " ++ orNone (schemaType data type))
     (orNone (sourceType type)),
   .plain "    if message is None:", .plain "        return None"]
    ++ (if type.fields.isEmpty then [.plain ("    return " ++ sourceType type ++ "()")]
        else
          [.plain ("    return " ++ sourceType type ++ "(")] ++ type.fields.map readLine
            ++ [.plain "    )"])

/-- The conversions of lists of a message. -/
def sliceLines (data : StubData) (type : TypeInfo) (snake : String) : List Line :=
  definition
      [.define (.listToSchema snake) ("values: list[" ++ sourceType type ++ "] | None")
         ("list[" ++ schemaType data type ++ "]"),
       .code
        [.text "    return [", .call (.toSchema snake),
         .text "(value) for value in values or []]"]]
    ++ definition
      [.define (.listFromSchema snake) "messages" ("list[" ++ sourceType type ++ "]"),
       .code
        [.text "    return [", .call (.fromSchema snake),
         .text "(message) for message in messages]"]]

/-- The conversions of a message that may be absent.  A zero value becomes an
absent message, so that a value of nothing but zeros does not come back. -/
def pointerLines (data : StubData) (type : TypeInfo) (snake pointer : String) : List Line :=
  definition
      [.define (.pointerToSchema pointer) ("value: " ++ orNone (sourceType type))
         (orNone (schemaType data type)),
       .code [.text "    if ", .call (.zeroTest snake), .text "(value):"],
       .plain "        return None",
       .code [.text "    return ", .call (.toSchema snake), .text "(value)"]]
    ++ definition
      [.define (.pointerFromSchema pointer) ("message: " ++ orNone (schemaType data type))
         (orNone (sourceType type)),
       .plain "    if message is None:", .plain "        return None",
       .code [.text "    return ", .call (.fromSchema snake), .text "(message)"]]

/-- All conversions of a message, which are named by `snake` and `pointer`. -/
def messageLines (data : StubData) (type : TypeInfo) (snake pointer : String) : List Line :=
  definition (zeroLines type snake) ++ definition (toProtoLines data type snake)
    ++ definition (fromProtoLines data type snake) ++ sliceLines data type snake
    ++ pointerLines data type snake pointer

/-- The part of the module about a message. -/
def messagePart (data : StubData) (type : TypeInfo) : Asked (List Line) := do
  let snake ← writtenName type.snake
  return messageLines data type snake (← writtenName type.pointerName)

/-! ## Maps -/

/-- Lines that carry something out for every item of a map. -/
def forItems (line : List Part) : List Line :=
  [.plain "    for key, item in (values or \x7b\x7d).items():", .code (.text "        " :: line)]

/-- The lines that fill a map of the schema.  Messages are copied into their
places, as a map of the schema admits no assignment of a message. -/
def mapSetLines (map : MapConversion) : List Line :=
  match map.valueKind with
  | .message =>
      forItems
        [.text "target[key].CopyFrom(", .call (.toSchema map.valueHelper), .text "(item))"]
  | .enum => forItems [.text "target[key] = ", .call (.toSchema map.valueHelper), .text "(item)"]
  | .timestamp => forItems [.text "target[key].FromDatetime(item)"]
  | .duration => forItems [.text "target[key].FromTimedelta(item)"]
  | .rawMessage => forItems [.text "target[key].CopyFrom(item)"]
  | .scalar => [.plain "    target.update(values or \x7b\x7d)"]

/-- A mapping made from every item of a map. -/
def eachItem (value : List Part) : Line :=
  .code ([.text "    return \x7bkey: "] ++ value ++ [.text " for key, item in values.items()\x7d"])

def mapReadLine (map : MapConversion) : Line :=
  match map.valueKind with
  | .message => eachItem [.call (.fromSchema map.valueHelper), .text "(item)"]
  | .enum => eachItem [.call (.fromSchema map.valueHelper), .text "(item)"]
  | .timestamp => eachItem [.text "item.ToDatetime()"]
  | .duration => eachItem [.text "item.ToTimedelta()"]
  | _ => .plain "    return dict(values)"

def mapLines (map : MapConversion) : List Line :=
  definition (.define (.ofMap map.toName) "values: dict | None, target" "None" :: mapSetLines map)
    ++ definition [.define (.ofMap map.fromName) "values" "dict", mapReadLine map]

/-! ## The module -/

def importLines (data : StubData) : List Line :=
  headLines data
    ++ [.blank, .load (.configured data.modulePath.display "domain"),
        .load (.configured data.protobufPackage.display data.protobufAlias.display)]

def lines (data : StubData) : Asked (List Line) := do
  let enums ← data.enums.mapM enumPart
  let types ← data.types.mapM (messagePart data)
  return importLines data ++ enums.flatten ++ types.flatten ++ data.maps.flatMap mapLines

end TypesModule

end WireSchema.Stub
