import WireSchema.Schema.MessagePlan
import WireSchema.Proofs.Annotation.Query

namespace WireSchema

/-!
# Plans and the outcomes they are made of

A plan is what the declared fields of a message become, one after the other, together with what the
composite type states by itself.  The lemmas here open a plan into these parts and close it again,
and cut a run over fields at any place: what follows a place depends on what stands before it only
through the next automatic number.

Which fields a composite type declares has no part in how one field is resolved.  So a change of the
field list is felt only through the list itself.
-/

open Asked

/-- The plan that outcomes make, given what the composite type states.  Dropped
fields and maps that are not supported leave nothing in the list of fields. -/
def MessagePlan.ofOutcomes (composite : Composite) (message : Value)
    (statements : MessageStatements) (outcomes : List FieldOutcome) : MessagePlan :=
  { composite
    name := message
    description := statements.description
    declaredNumbers := statements.declaredNumbers
    reservedNames := statements.reservedNames
    fields := outcomes.filterMap FieldOutcome.planned?
    retired := outcomes.filterMap FieldOutcome.retired?
    unsupported := outcomes.filterMap FieldOutcome.unsupported? }

/-- A composite type with other fields. -/
def Composite.withFields (composite : Composite) (fields : List DeclaredField) : Composite :=
  { composite with fields }

namespace FieldOutcome

/-- The next automatic number after several fields. -/
def nextAfter (next : Int) (outcomes : List FieldOutcome) : Int :=
  outcomes.foldl nextNumber next

end FieldOutcome

namespace DeclaredField

variable {field : DeclaredField} {notes : List Annotation}

theorem hasFlag_withAnnotations
    (own : annotationsNamed ["field"] notes = annotationsNamed ["field"] field.annotations)
    (flag : String) : (field.withAnnotations notes).hasFlag flag = field.hasFlag flag := by
  rw [hasFlag, hasFlag, withAnnotations, own]

/-- A field that no annotation makes a map is made one by none of some of them. -/
theorem annotatedMap?_filter (keep : Annotation → Bool) (bare : field.annotatedMap? = .ok none) :
    (field.withAnnotations (field.annotations.filter keep)).annotatedMap? = .ok none := by
  rcases bind_eq_ok_iff.mp bare with ⟨found, named, final⟩
  rw [annotatedMap?, withAnnotations, annotationsNamed_filter keep named, ok_bind,
    findSome?_filter_eq_none keep (Except.ok.inj final)]
  rfl

/-- The shape of a field is read from its `field` annotations, its map types and its declared
type. -/
theorem shape_withAnnotations
    (own : annotationsNamed ["field"] notes = annotationsNamed ["field"] field.annotations)
    (map : (field.withAnnotations notes).annotatedMap? = field.annotatedMap?)
    (table : TypeTable) : (field.withAnnotations notes).shape table = field.shape table := by
  have declared : (field.withAnnotations notes).declaredShape table =
      field.declaredShape table := by
    simp only [declaredShape, hasFlag_withAnnotations own]
    rfl
  rw [shape, shape, map, declared]

end DeclaredField

namespace SchemaContext

/-- What becomes of each field of a message, in declaration order.  For an alias
these are the fields of its template, with its arguments put in. -/
def outcomes (context : SchemaContext) (composite : Composite) (message : Value) :
    Asked (List FieldOutcome) := do
  context.resolveFields composite message context.options.startNumber
    (← context.model.resolvedFields composite)

variable {context : SchemaContext} {composite : Composite} {message : Value} {next : Int}

/-- A message has a plan exactly when its statements and its fields can be resolved, and then it is
the plan of their outcomes. -/
theorem plan_eq_ok_iff {plan : MessagePlan} :
    context.plan composite message = .ok plan ↔
      ∃ statements outcomes, composite.statements message = .ok statements ∧
        context.outcomes composite message = .ok outcomes ∧
        MessagePlan.ofOutcomes composite message statements outcomes = plan := by
  unfold SchemaContext.plan SchemaContext.outcomes
  simp only [bind_eq_ok_iff, pure_eq_ok, Except.ok.injEq]
  constructor
  · rintro ⟨statements, stated, fields, resolved, outcomes, decided, rfl⟩
    exact ⟨statements, outcomes, stated, ⟨fields, resolved, decided⟩, rfl⟩
  · rintro ⟨statements, outcomes, stated, ⟨fields, resolved, decided⟩, rfl⟩
    exact ⟨statements, stated, fields, resolved, outcomes, decided, rfl⟩

/-- A plan is that of the message for which it is made. -/
theorem name_of_plan {plan : MessagePlan} (planned : context.plan composite message = .ok plan) :
    plan.name = message := by
  rcases plan_eq_ok_iff.mp planned with ⟨statements, outcomes, -, -, rfl⟩
  rfl

theorem composite_of_plan {plan : MessagePlan}
    (planned : context.plan composite message = .ok plan) : plan.composite = composite := by
  rcases plan_eq_ok_iff.mp planned with ⟨statements, outcomes, -, -, rfl⟩
  rfl

theorem outcomes_eq_ok_iff {outcomes : List FieldOutcome} :
    context.outcomes composite message = .ok outcomes ↔
      ∃ fields, context.model.resolvedFields composite = .ok fields ∧
        context.resolveFields composite message context.options.startNumber fields =
          .ok outcomes :=
  bind_eq_ok_iff

theorem resolveFields_cons_eq_ok_iff {field : DeclaredField} {fields : List DeclaredField}
    {outcomes : List FieldOutcome} :
    context.resolveFields composite message next (field :: fields) = .ok outcomes ↔
      ∃ outcome others, context.resolveField composite message next field = .ok outcome ∧
        context.resolveFields composite message (outcome.nextNumber next) fields = .ok others ∧
        outcome :: others = outcomes := by
  simp only [resolveFields, bind_eq_ok_iff, pure_eq_ok, Except.ok.injEq]
  constructor
  · rintro ⟨outcome, first, others, rest, rfl⟩
    exact ⟨outcome, others, first, rest, rfl⟩
  · rintro ⟨outcome, others, first, rest, rfl⟩
    exact ⟨outcome, first, others, rest, rfl⟩

/-- A run over fields in two parts: the second part goes on with the number that the first one
leaves for it. -/
theorem resolveFields_append_eq_ok_iff {earlier later : List DeclaredField}
    {outcomes : List FieldOutcome} :
    context.resolveFields composite message next (earlier ++ later) = .ok outcomes ↔
      ∃ before after, context.resolveFields composite message next earlier = .ok before ∧
        context.resolveFields composite message (FieldOutcome.nextAfter next before) later =
          .ok after ∧
        before ++ after = outcomes := by
  induction earlier generalizing next outcomes with
  | nil =>
      simp only [List.nil_append, resolveFields, Except.ok.injEq]
      constructor
      · intro run
        exact ⟨[], outcomes, rfl, run, rfl⟩
      · rintro ⟨before, after, rfl, run, rfl⟩
        exact run
  | cons field earlier ih =>
      simp only [List.cons_append, resolveFields_cons_eq_ok_iff, ih]
      constructor
      · rintro ⟨outcome, others, first, ⟨before, after, run, rest, rfl⟩, rfl⟩
        exact ⟨outcome :: before, after, ⟨outcome, before, first, run, rfl⟩, rest, rfl⟩
      · rintro ⟨before, after, ⟨outcome, others, first, run, rfl⟩, rest, rfl⟩
        exact ⟨outcome, others ++ after, first, ⟨others, after, run, rest, rfl⟩, rfl⟩

/-! ## What the declared types have no part in -/

/-- The same context with other composite types in its model.  The table of types
stays, though it was made from the model before. -/
def withComposites (context : SchemaContext) (composites : List Composite) : SchemaContext :=
  { context with model := { context.model with composites } }

/-- Types of the model have a part in its table of types only through the aliases among them. -/
theorem of_withComposites {model : Model} {composites : List Composite} (options : Options)
    (same : TypeTable.aliasesOf composites = TypeTable.aliasesOf model.composites) :
    SchemaContext.of { model with composites } options =
      (SchemaContext.of model options).withComposites composites := by
  simp only [SchemaContext.of, TypeTable.ofOptions, withComposites, same]

/-- Fields are resolved by themselves: neither the types of the model nor the declared fields of the
type have a part in it. -/
theorem resolveFields_withComposites (context : SchemaContext) (composites : List Composite)
    (composite : Composite) (declared : List DeclaredField) (message : Value) (next : Int)
    (fields : List DeclaredField) :
    (context.withComposites composites).resolveFields (composite.withFields declared) message next
        fields =
      context.resolveFields composite message next fields := by
  induction fields generalizing next with
  | nil => rfl
  | cons field fields ih =>
      have head : (context.withComposites composites).resolveField (composite.withFields declared)
          message next field = context.resolveField composite message next field := rfl
      simp only [resolveFields, head, ih]

end SchemaContext

namespace Model

variable {model : Model} {composite : Composite}

/-- The fields of a composite type that is no alias are its own. -/
theorem resolvedFields_of_target?_eq_none (model : Model) (ordinary : composite.target? = none) :
    model.resolvedFields composite = .ok composite.fields := by
  rw [resolvedFields, aliasBinding?, ordinary]
  rfl

end Model

/-! ## Fields put behind -/

namespace SchemaContext

variable {context : SchemaContext} {composite : Composite} {message : Value}

end SchemaContext

end WireSchema
