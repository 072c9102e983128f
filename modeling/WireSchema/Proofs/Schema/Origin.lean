import WireSchema.Proofs.Schema.Retirement

namespace WireSchema

/-!
# Where planned fields come from

Every field of a plan is a declared field that its message keeps, as the message sees it.  Its shape
and its types are those that the rules for fields give; so what is known of these rules for all
fields holds of every field that is written.
-/

open Asked

/-- A planned field is what becomes of a declared field in a message.  Its shape
and its types are asked of the field as the message sees it, without annotations
for other messages. -/
structure PlannedField.IsFrom (context : SchemaContext) (composite : Composite) (message : Value)
    (declared : DeclaredField) (planned : PlannedField) : Prop where
  kept : declared.inclusion context.model composite message = .ok .keep
  seen : declared.forMessage message = .ok planned.field
  shape : planned.field.shape context.types = .ok planned.shape
  type : planned.field.schemaType context = .ok planned.type
  mapTypes : planned.shape = .map → planned.field.mapTypes context.types = .ok planned.mapTypes

namespace SchemaContext

variable {context : SchemaContext} {composite : Composite} {message : Value} {next : Int}

theorem isFrom_of_resolveField {declared : DeclaredField} {planned : PlannedField}
    (resolved : context.resolveField composite message next declared = .ok (.planned planned)) :
    planned.IsFrom context composite message declared := by
  rcases resolveField_eq_planned resolved with
    ⟨seen, shape, numbered, kept, view, shaped, numbering, result⟩
  rcases numberField_eq_ok_iff.mp numbering with ⟨own?, -, rfl⟩
  simp only [planField, bind_eq_ok_iff] at result
  rcases result with ⟨name, -, type, typed, options, -, description, -, mapping⟩
  split at mapping
  · rcases bind_eq_ok_iff.mp mapping with ⟨mapTypes, mapped, final⟩
    cases final
    exact ⟨kept, view, shaped, typed, fun _ => mapped⟩
  · rename_i other
    cases mapping
    exact ⟨kept, view, shaped, typed, fun same => absurd (beq_iff_eq.mpr same) other⟩

/-- The name, the options and the description of a planned field are those that the rules for fields
give. -/
theorem parts_of_resolveField {declared : DeclaredField} {planned : PlannedField}
    (resolved : context.resolveField composite message next declared = .ok (.planned planned)) :
    planned.field.schemaName context.model = .ok planned.name ∧
      planned.field.fieldOptions context.model = .ok planned.options ∧
      planned.field.description = .ok planned.description := by
  rcases resolveField_eq_planned resolved with ⟨seen, shape, numbered, -, -, -, -, result⟩
  simp only [planField, bind_eq_ok_iff] at result
  rcases result with ⟨name, named, type, -, options, stated, description, described, mapping⟩
  split at mapping
  · rcases bind_eq_ok_iff.mp mapping with ⟨mapTypes, -, final⟩
    cases final
    exact ⟨named, stated, described⟩
  · cases mapping
    exact ⟨named, stated, described⟩

theorem exists_resolveField_of_resolveFields {fields : List DeclaredField}
    {outcomes : List FieldOutcome} {outcome : FieldOutcome}
    (resolved : context.resolveFields composite message next fields = .ok outcomes)
    (member : outcome ∈ outcomes) :
    ∃ declared ∈ fields, ∃ next, context.resolveField composite message next declared =
      .ok outcome := by
  induction fields generalizing next outcomes with
  | nil =>
      cases resolved
      cases member
  | cons field fields ih =>
      rcases resolveFields_cons_eq_ok_iff.mp resolved with ⟨own, others, first, rest, rfl⟩
      rcases List.mem_cons.mp member with rfl | later
      · exact ⟨field, List.mem_cons_self, next, first⟩
      · rcases ih rest later with ⟨declared, among, result⟩
        exact ⟨declared, List.mem_cons_of_mem field among, result⟩

/-- Every field of a plan is what some declared field becomes. -/
theorem exists_resolveField_of_plan {plan : MessagePlan} {planned : PlannedField}
    (made : context.plan composite message = .ok plan) (member : planned ∈ plan.fields) :
    ∃ fields, context.model.resolvedFields composite = .ok fields ∧
      ∃ declared ∈ fields, ∃ next,
        context.resolveField composite message next declared = .ok (.planned planned) := by
  rcases plan_eq_ok_iff.mp made with ⟨statements, outcomes, -, decided, rfl⟩
  rcases outcomes_eq_ok_iff.mp decided with ⟨fields, resolved, run⟩
  rcases List.mem_filterMap.mp member with ⟨outcome, among, found⟩
  cases outcome with
  | dropped | unsupported _ | retired _ => cases found
  | planned own =>
      cases found
      exact ⟨fields, resolved, exists_resolveField_of_resolveFields run among⟩

/-- Every field of a plan comes from one of the fields that the composite type has once aliases are
resolved. -/
theorem exists_isFrom_of_plan {plan : MessagePlan} {planned : PlannedField}
    (made : context.plan composite message = .ok plan) (member : planned ∈ plan.fields) :
    ∃ fields, context.model.resolvedFields composite = .ok fields ∧
      ∃ declared ∈ fields, planned.IsFrom context composite message declared := by
  rcases exists_resolveField_of_plan made member with ⟨fields, resolved, declared, among, _, result⟩
  exact ⟨fields, resolved, declared, among, isFrom_of_resolveField result⟩

end SchemaContext

end WireSchema
