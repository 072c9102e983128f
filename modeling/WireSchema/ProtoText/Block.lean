import WireSchema.Schema.MessagePlan
import WireSchema.Schema.Service

namespace WireSchema.ProtoText

/-!
The blocks of a schema file.

Every message, enumeration and service is one block, written from its plan alone: what else the
file declares has no part in it.  A block is a list of lines and ends with an empty line.  A
description stands in a comment on the line before what it describes.
-/

def blockText (lines : List String) : String :=
  String.intercalate "\n" lines ++ "\n\n"

/-- A description as a comment with the given margin; none when there is no
description.  It is put behind the mark as it is, whatever line feeds it
holds. -/
def commentLines (margin : String) (description : Value) : List String :=
  if description.isTruthy then [margin ++ "// " ++ description.display] else []

/-! ## Messages -/

/-- The label in front of a field's type.  Only the edition `proto3` marks
presence by a label; others know it without one. -/
def labelOf (options : Options) : FieldShape → String
  | .repeated => "repeated "
  | .optional => if options.edition == .text "proto3" then "optional " else ""
  | _ => ""

/-- The type of a field as it is declared, with its label.  Other than the types of a map it must be
a text. -/
def declaredType (options : Options) (planned : PlannedField) : Asked String :=
  if planned.shape == .map then
    .ok ("map<" ++ planned.mapTypes.1.display ++ ", " ++ planned.mapTypes.2.display ++ ">")
  else do return labelOf options planned.shape ++ (← planned.type.admitText)

/-- The options of a field between brackets. -/
def optionSuffix (options : List FieldOption) : String :=
  if options.isEmpty then ""
  else " [" ++ String.intercalate ", " (options.map (·.text)) ++ "]"

def fieldLine (options : Options) (planned : PlannedField) : Asked String := do
  let type ← declaredType options planned
  let number ← (planned.writtenNumber options).askNumeral
  return "  " ++ type ++ " " ++ planned.name ++ " = " ++ number ++ optionSuffix planned.options
    ++ ";"

def fieldLines (options : Options) (planned : PlannedField) : Asked (List String) := do
  return commentLines "  " planned.description ++ [← fieldLine options planned]

/-- The statement of reserved numbers.  These include automatic numbers of fields that are left out,
which no validation has looked at, so that one of them may be too long to be written. -/
def reservedNumberLines (options : Options) (plan : MessagePlan) : Asked (List String) := do
  if plan.reservedNumbers.isEmpty then return []
  else return ["  reserved " ++ String.intercalate ", " (← plan.reservedRanges options) ++ ";"]

def reservedNameLines (plan : MessagePlan) : List String :=
  if plan.reservedNames.isEmpty then []
  else
    ["  reserved " ++ String.intercalate ", " (plan.reservedNames.map FieldOption.inQuotes) ++ ";"]

def messageLines (options : Options) (plan : MessagePlan) : Asked (List String) := do
  let fields ← plan.fields.mapM (fieldLines options)
  let reserved ← reservedNumberLines options plan
  return commentLines "" plan.description ++ ["message " ++ plan.name.display ++ " \x7b"]
    ++ fields.flatten ++ reserved ++ reservedNameLines plan ++ ["\x7d"]

def messageBlock (options : Options) (plan : MessagePlan) : Asked String := do
  return blockText (← messageLines options plan)

/-! ## Enumerations -/

def enumValueLines (value : EnumValue) : Asked (List String) := do
  let description ← value.description
  let name ← value.schemaName
  let number ← (← value.number).askNumeral
  return commentLines "  " description ++ ["  " ++ name ++ " = " ++ number ++ ";"]

def enumLines (enum : EnumType) : Asked (List String) := do
  let description ← enum.description
  let name ← enum.schemaName
  let allowed ← enum.allowsAlias
  let values ← enum.values.mapM enumValueLines
  return commentLines "" description ++ ["enum " ++ name.display ++ " \x7b"]
    ++ (if allowed then ["  option allow_alias = true;"] else []) ++ values.flatten ++ ["\x7d"]

def enumBlock (enum : EnumType) : Asked String := do
  return blockText (← enumLines enum)

/-! ## Services -/

def rpcLines (rpc : Rpc) : List String :=
  commentLines "  " rpc.description ++ ["  " ++ rpc.line]

def serviceLines (service : Service) : List String :=
  commentLines "" service.description ++ ["service " ++ service.name.display ++ " \x7b"]
    ++ service.rpcs.flatMap rpcLines ++ ["\x7d"]

def serviceBlock (service : Service) : String :=
  blockText (serviceLines service)

end WireSchema.ProtoText
