import WireSchema.Failure
import WireSchema.Schema.MessagePlan
import WireSchema.Schema.Service

namespace WireSchema

/-!
Validation of a unit.

The checks read the same plans and services that are written, so what is found there holds of the
schema.  Names are compared within their kind: messages with messages, enumerations with
enumerations, services with services; a name that cannot be compared makes the validation fail.  Of
several fields with one number every one after the first is reported, and each report names the
first.
-/

namespace Validation

/-! ## Messages -/

/-- The findings on the number of one field; `owners` holds the numbers of earlier fields with the
name of the first field of each. -/
def numberFindings (options : Options) (message : String) (reserved : List Int)
    (owners : List (Int × String)) (planned : PlannedField) : List Finding :=
  let field := planned.field.name.display
  let written := (planned.writtenNumber options).display
  ((owners.find? (·.1 == planned.number)).map fun owner =>
      Finding.duplicateNumber message field written owner.2).toList
    ++ (if reserved.contains planned.number then [.reservedNumber message field written] else [])
    ++ (if isFieldNumber planned.number then [] else [.numberOutOfRange message field written])
    ++ (if isBandNumber planned.number then [.numberInBand message field written] else [])

/-- The findings on the numbers of fields, in order.  The owners of earlier
numbers are kept with repetitions, so that a report names the first of them. -/
def fieldFindings (options : Options) (message : String) (reserved : List Int)
    (owners : List (Int × String)) : List PlannedField → List Finding
  | [] => []
  | planned :: others =>
      numberFindings options message reserved owners planned
        ++ fieldFindings options message reserved
          (owners ++ [(planned.number, planned.field.name.display)]) others

/-- The notation of the key type of a map. -/
def keyTypeText : TypeExpr → String
  | .mapping key _ => key.print
  | type => type.print

def planFindings (options : Options) (plan : MessagePlan) : List Finding :=
  let message := plan.name.display
  plan.unsupported.map
      (fun field => .unsupportedKey message field.name.display (keyTypeText field.type))
    ++ fieldFindings options message plan.reservedNumbers [] plan.fields
    ++ (if plan.fields.isEmpty then [.noFields message] else [])

/-- Whether a name is among earlier ones.  The name must be one that can be a
key; a collection is refused even when no name came before it. -/
def isTaken (seen : List Value) (name : Value) : Asked Bool := do
  return seen.contains (← name.askKey)

/-- The numbers of a message's fields in writing.  Findings show numbers, so that
a scan cannot come to its end when one of them is too long to be written. -/
def numerals (options : Options) (plan : MessagePlan) : Asked (List String) :=
  plan.fields.mapM fun planned => (planned.writtenNumber options).askNumeral

/-- The findings on a message of a composite type, given the names of earlier messages.  A number
that cannot be written is out of the range of numbers, so that there would be a finding on it, which
cannot be made since it shows the number; then there are no findings on the message at all. -/
def messageFindings (context : SchemaContext) (composite : Composite) (seen : List Value)
    (message : Value) : Asked (List Finding) := do
  let taken ← isTaken seen message
  let plan ← context.plan composite message
  let _ ← numerals context.options plan
  return (if taken then [.duplicateMessage composite.name.display message.display] else [])
    ++ planFindings context.options plan

/-- The findings on messages of a composite type, given the names of earlier
ones.  A type may be written as several messages, whose names must differ too. -/
def messagesFindings (context : SchemaContext) (composite : Composite) (seen : List Value) :
    List Value → Asked (List Finding)
  | [] => .ok []
  | message :: messages => do
      let found ← messageFindings context composite seen message
      let further ← messagesFindings context composite (seen ++ [message]) messages
      return found ++ further

/-- The names of the messages that a composite type is written as; none for
another one.  A type that is no message takes no name away from others. -/
def writtenNames (composite : Composite) : Asked (List Value) := do
  if ← composite.isMessage then composite.messageNames else return []

/-- The findings on the messages of composite types, given the names of earlier ones. -/
def compositeFindings (context : SchemaContext) (seen : List Value) :
    List Composite → Asked (List Finding)
  | [] => .ok []
  | composite :: composites => do
      let names ← writtenNames composite
      let found ← messagesFindings context composite seen names
      let further ← compositeFindings context (seen ++ names) composites
      return found ++ further

/-! ## Enumerations and services -/

/-- The finding on a value that has the number of an earlier one; the number is
put into writing only for it. -/
def sharedValueFindings (allowed : Bool) (enum : String) (owners : List (Value × String))
    (number : Value) (name : String) : Asked (List Finding) :=
  match owners.find? (·.1 == number) with
  | some owner => do
      return [.duplicateValue allowed enum name (← number.askNumeral) owner.2]
  | none => .ok []

/-- The findings on the values of an enumeration, given the numbers of earlier values with the
name of the first value of each. -/
def valueFindings (allowed : Bool) (enum : String) (owners : List (Value × String)) :
    List EnumValue → Asked (List Finding)
  | [] => .ok []
  | value :: values => do
      let number ← (← value.number).askKey
      let name ← value.schemaName
      let found ← sharedValueFindings allowed enum owners number name
      let further ← valueFindings allowed enum (owners ++ [(number, name)]) values
      return found ++ further

/-- The findings on one enumeration, given the names of earlier ones, and its
own name.  A name that is taken is reported and still counts for the enumerations
that follow. -/
def enumFindings (seen : List Value) (enum : EnumType) : Asked (List Finding × Value) := do
  let name ← enum.schemaName
  let taken ← isTaken seen name
  let allowed ← enum.allowsAlias
  let found ← valueFindings allowed name.display [] enum.values
  return ((if taken then [.duplicateEnum enum.name.display name.display] else []) ++ found, name)

/-- The findings on enumerations that are written, given the names of earlier ones. -/
def enumsFindings (seen : List Value) : List EnumType → Asked (List Finding)
  | [] => .ok []
  | enum :: enums => do
      if ← enum.isWritten then
        let (found, name) ← enumFindings seen enum
        let further ← enumsFindings (seen ++ [name]) enums
        return found ++ further
      else enumsFindings seen enums

/-- The findings on services, given the names of earlier ones. -/
def serviceFindings (seen : List Value) : List Service → Asked (List Finding)
  | [] => .ok []
  | service :: services => do
      let taken ← isTaken seen service.name
      let further ← serviceFindings (seen ++ [service.name]) services
      let source := service.sourceName.display
      let found :=
        if taken then
          [Finding.duplicateService service.fromComposite source service.name.display]
        else []
      return found ++ further

/-! ## The whole unit -/

/-- All findings on a unit, in the order of its declarations.  Names of messages,
of enumerations and of services are compared among themselves only. -/
def findings (context : SchemaContext) (schema : SchemaUnit) : Asked (List Finding) := do
  let ofMessages ← compositeFindings context [] schema.composites
  let ofEnums ← enumsFindings [] schema.enums
  let ofServices ← serviceFindings [] (← context.services schema.services schema.composites)
  return ofMessages ++ ofEnums ++ ofServices

/-- Accepts a unit without findings of severity error; its other findings are
the result.  A scan that fails is a failure of its own and refuses nothing. -/
def check (context : SchemaContext) (schema : SchemaUnit) : Outcome (List Finding) := do
  let found ← Failure.liftShape (findings context schema)
  if found.any (·.isError) then throw (Failure.invalid found) else return found

/-! ## What is logged -/

/-- How important a log entry is. -/
inductive LogLevel where
  | info
  | warning
deriving DecidableEq, Repr

structure LogEntry where
  level : LogLevel
  text : String
deriving DecidableEq, Repr

/-- The entries about a composite type that is an alias. -/
def aliasEntries (model : Model) (composite : Composite) : List LogEntry :=
  (model.aliasWarnings composite).map fun warning => ⟨.warning, warning.message⟩

/-- The entry about a finding.  When a unit is refused, every finding on it is a
warning; otherwise hints stay hints. -/
def findingEntry (refused : Bool) (finding : Finding) : LogEntry :=
  ⟨if refused || finding.severity == .warning then .warning else .info, finding.text⟩

/-- The entries that are made while messages of a composite type are planned, and whether there are
findings on all of them.  Planning comes to the alias once what the type states by itself is
known. -/
def messagesEntries (context : SchemaContext) (composite : Composite) :
    List Value → List LogEntry × Bool
  | [] => ([], true)
  | message :: messages =>
      if !message.isKey || (composite.statements message).toOption.isNone then ([], false)
      else
        let own := aliasEntries context.model composite
        if (messageFindings context composite [] message).toOption.isNone then (own, false)
        else
          let further := messagesEntries context composite messages
          (own ++ further.1, further.2)

/-- The entries about aliases that are made while composite types are planned, up to the first one
on which the validation fails. -/
def compositeEntries (context : SchemaContext) : List Composite → List LogEntry
  | [] => []
  | composite :: composites =>
      match writtenNames composite with
      | .error _ => []
      | .ok names =>
          let own := messagesEntries context composite names
          if own.2 then own.1 ++ compositeEntries context composites else own.1

/-- What the validation of a unit logs: warnings about aliases, and then its findings. -/
def logEntries (context : SchemaContext) (schema : SchemaUnit) : List LogEntry :=
  let found := (findings context schema).toOption.getD []
  compositeEntries context schema.composites
    ++ found.map (findingEntry (found.any (·.isError)))

end Validation

end WireSchema
