import WireSchema.Schema.Alias
import WireSchema.Schema.FieldRules

namespace WireSchema

/-!
Message plans.

A plan holds everything that is written of one message.  The fields that a message keeps or whose
numbers it reserves are numbered in declaration order: a field without a number of its own takes the
next automatic one.  A reserved field thus keeps the number it would have had, and leaving a field
out with its number reserved changes no other field.  A kept map with a key type that the schema
does not admit is not written and takes no number.  Fields are resolved one after the other, each in
full, so that the first one that cannot be resolved decides how the plan fails.
-/

/-- A field with its number. `isExplicit` tells that annotations or the tag give
the number, in which case it does not move the automatic numbering on. -/
structure NumberedField where
  field : DeclaredField
  inclusion : Inclusion
  number : Int
  isExplicit : Bool
deriving Repr, BEq, Inhabited

/-- A field of a message.  It has what every output needs of it, so that no
output asks annotations again, but for the type that some formats derive. -/
structure PlannedField where
  field : DeclaredField
  name : String
  number : Int
  isExplicit : Bool
  type : Value
  shape : FieldShape
  /-- Key and value types of a map; empty texts for another shape. -/
  mapTypes : Value × Value
  options : List FieldOption
  description : Value
deriving Repr, BEq, Inhabited

/-- Whether a field stands as a pointer in its declaration. -/
def PlannedField.isNullable (planned : PlannedField) : Bool :=
  planned.field.type.isPointer

def PlannedField.mayBeAbsent (planned : PlannedField) : Bool :=
  planned.shape == .optional || planned.isNullable

/-- Everything that is written of one message.  The composite type is noted as
well, for the formats that look at declared fields and not only at the plan. -/
structure MessagePlan where
  name : Value
  composite : Composite
  description : Value
  fields : List PlannedField
  /-- The numbers that are reserved by declaration. -/
  declaredNumbers : List Int
  /-- The fields whose numbers are reserved. -/
  retired : List NumberedField
  reservedNames : List String
  /-- The fields that cannot be written. -/
  unsupported : List DeclaredField
deriving Repr, Inhabited

/-- What a composite type states about one of its messages by itself.  It is
known before any field is looked at. -/
structure MessageStatements where
  declaredNumbers : List Int
  reservedNames : List String
  description : Value
deriving Repr, Inhabited

/-- What a composite type states about a message. -/
def Composite.statements (composite : Composite) (message : Value) : Asked MessageStatements := do
  let declaredNumbers ← composite.declaredNumbers message
  let reservedNames ← composite.declaredNames message
  let description ← composite.messageDescription message
  return { declaredNumbers, reservedNames, description }

/-- What becomes of one field in a message.  One outcome for each declared field
keeps the order of the declaration, by which automatic numbers are given. -/
inductive FieldOutcome where
  /-- The field has no part in the message. -/
  | dropped
  /-- The field is kept but cannot be written. -/
  | unsupported (field : DeclaredField)
  /-- The field is left out and its number reserved. -/
  | retired (numbered : NumberedField)
  | planned (planned : PlannedField)
deriving Repr, BEq, Inhabited

namespace FieldOutcome

/-- The number that a field takes and whether it was given explicitly. -/
def number? : FieldOutcome → Option (Int × Bool)
  | retired numbered => some (numbered.number, numbered.isExplicit)
  | planned field => some (field.number, field.isExplicit)
  | _ => none

/-- The next automatic number after a field.  Only a field that has taken the
automatic number moves it on; numbers that are given explicitly are not
skipped. -/
def nextNumber (next : Int) (outcome : FieldOutcome) : Int :=
  match outcome.number? with
  | some (_, false) => next + 1
  | _ => next

def planned? : FieldOutcome → Option PlannedField
  | planned field => some field
  | _ => none

/-- The field whose number is reserved. -/
def retired? : FieldOutcome → Option NumberedField
  | retired numbered => some numbered
  | _ => none

/-- The field that cannot be written. -/
def unsupported? : FieldOutcome → Option DeclaredField
  | unsupported field => some field
  | _ => none

end FieldOutcome

namespace SchemaContext

/-- The number of a field: its own, or else the next automatic one.  Nothing is
checked here; numbers that are used twice are left to the scan. -/
def numberField (context : SchemaContext) (next : Int) (field : DeclaredField)
    (inclusion : Inclusion) : Asked NumberedField := do
  match ← field.explicitNumber? context.model with
  | some number => return ⟨field, inclusion, number, true⟩
  | none => return ⟨field, inclusion, next, false⟩

/-- What is written of a numbered field of a shape.  Everything is asked of the
message's own view of the field. -/
def planField (context : SchemaContext) (shape : FieldShape) (numbered : NumberedField) :
    Asked PlannedField := do
  let field := numbered.field
  let name ← field.schemaName context.model
  let type ← field.schemaType context
  let options ← field.fieldOptions context.model
  let description ← field.description
  let mapTypes ←
    if shape == .map then field.mapTypes context.types else .ok DeclaredField.noMapTypes
  return { field, name, type, shape, mapTypes, options, description
           number := numbered.number, isExplicit := numbered.isExplicit }

/-- What becomes of a field that a message does not drop; `field` is as the
message sees it.  A map that cannot be written is passed over only when it is
kept: a reserved one is numbered like any other field. -/
def resolveDecided (context : SchemaContext) (next : Int) (inclusion : Inclusion)
    (field : DeclaredField) : Asked FieldOutcome := do
  let shape ← field.shape context.types
  if inclusion == .keep && shape == .unsupported then return .unsupported field
  else
    let numbered ← context.numberField next field inclusion
    if inclusion == .keep then return .planned (← context.planField shape numbered)
    else return .retired numbered

/-- What becomes of a field in a message; `next` is the next automatic number.  A
dropped field is not looked at any further, so nothing in it can fail. -/
def resolveField (context : SchemaContext) (composite : Composite) (message : Value) (next : Int)
    (field : DeclaredField) : Asked FieldOutcome := do
  match ← field.inclusion context.model composite message with
  | .drop => return .dropped
  | inclusion => context.resolveDecided next inclusion (← field.forMessage message)

/-- What becomes of fields in a message, in order.  The counter is handed on from
one to the next, and is all that a field knows of earlier ones. -/
def resolveFields (context : SchemaContext) (composite : Composite) (message : Value)
    (next : Int) : List DeclaredField → Asked (List FieldOutcome)
  | [] => .ok []
  | field :: fields => do
      let outcome ← context.resolveField composite message next field
      let others ← context.resolveFields composite message (outcome.nextNumber next) fields
      return outcome :: others

/-- The plan of one message of a composite type.  The statements of the type are
asked first and the fields in their order, so that of several faults the first
one is reported. -/
def plan (context : SchemaContext) (composite : Composite) (message : Value) :
    Asked MessagePlan := do
  let ⟨declaredNumbers, reservedNames, description⟩ ← composite.statements message
  let fields ← context.model.resolvedFields composite
  let outcomes ← context.resolveFields composite message context.options.startNumber fields
  return { composite, description, declaredNumbers, reservedNames
           name := message
           fields := outcomes.filterMap FieldOutcome.planned?
           retired := outcomes.filterMap FieldOutcome.retired?
           unsupported := outcomes.filterMap FieldOutcome.unsupported? }

def plans (context : SchemaContext) (composite : Composite) : Asked (List MessagePlan) := do
  (← composite.messageNames).mapM (context.plan composite)

/-- The plans of a composite type if it is written as messages. -/
def plansIfMessage (context : SchemaContext) (composite : Composite) :
    Asked (List MessagePlan) := do
  if ← composite.isMessage then context.plans composite else return []

/-- The plans of all messages among composite types, in declaration order.
Templates, services and types that are left out have none. -/
def messagePlans (context : SchemaContext) (composites : List Composite) :
    Asked (List MessagePlan) := do
  return (← composites.mapM context.plansIfMessage).flatten

end SchemaContext

def MessagePlan.reservedNumbers (plan : MessagePlan) : List Int :=
  increasing (plan.declaredNumbers ++ plan.retired.map (·.number))

/-! ## Numbers in writing -/

/-- A number as it is written: the first automatic number stands as the options give it, every
other one in digits. -/
def Options.writtenNumber (options : Options) (isExplicit : Bool) (number : Int) : Value :=
  if !isExplicit && number == options.startNumber then options.startFieldNumber else .int number

def PlannedField.writtenNumber (options : Options) (planned : PlannedField) : Value :=
  options.writtenNumber planned.isExplicit planned.number

/-- A reserved number as it is written: a declared one in digits, and another one like the number
of the first field that has it. -/
def MessagePlan.writtenReserved (options : Options) (plan : MessagePlan) (number : Int) : Value :=
  if plan.declaredNumbers.contains number then .int number
  else
    match plan.retired.find? (·.number == number) with
    | some retired => options.writtenNumber retired.isExplicit number
    | none => .int number

def MessagePlan.reservedRanges (options : Options) (plan : MessagePlan) : Asked (List String) :=
  compactRanges (fun number => (plan.writtenReserved options number).askNumeral)
    plan.reservedNumbers

end WireSchema
