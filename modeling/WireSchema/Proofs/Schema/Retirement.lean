import WireSchema.Proofs.Schema.Numbering

namespace WireSchema

/-!
# Retiring a field

A field that is no longer wanted must leave the schema without moving any other one: its number may
never be given to another field, and the others keep theirs, although their automatic numbers are
counted in a loop in whose middle the decision on one field now falls differently.  An annotation
that leaves a field out and reserves its number does exactly this.

Two runs are compared.  They agree up to the field, where the first one plans what the second one
retires.  Both outcomes carry the same number and tell in the same way whether it was automatic, so
that the counter is the same behind them, and so is everything that follows.
-/

open Asked

/-- An annotation that leaves a field out of a message and reserves its number there: one that goes
by `ignore`, `skip` or `omit`, has no scope or one that has the message, and asks for a reservation
in the message. -/
structure Annotation.Retires (note : Annotation) (message : Value) : Prop where
  named : note.goesBy ["ignore", "skip", "omit"] = .ok true
  applies : note.appliesTo message true = true
  reserves : note.paramSelects "reserved" message = true

/-- A model that differs from another one only in that a composite type may stand in a new form
where it stood before. -/
structure Model.Redeclares (old new : Composite) (model changed : Model) : Prop where
  composites : List.Forall₂ (fun before after => after = before ∨ before = old ∧ after = new)
    model.composites changed.composites
  others : changed = { model with composites := changed.composites }

/-! ## An annotation that a query passes over -/

section Insertion

variable {names : List String} {note : Annotation} {front back : List Annotation}

theorem annotationsNamed_insert (text : note.hasTextName = true)
    (unnamed : note.isNamed names = false) :
    annotationsNamed names (front ++ note :: back) = annotationsNamed names (front ++ back) := by
  rw [annotationsNamed_eq, annotationsNamed_eq]
  simp only [List.all_append, List.all_cons, text, Bool.true_and, List.filter_append,
    List.filter_cons, unnamed, Bool.false_eq_true, if_false]

variable {field : DeclaredField}

theorem DeclaredField.annotatedMap?_insert (text : note.hasTextName = true)
    (noMap : note.isNamed ["map"] = false) :
    (field.withAnnotations (front ++ note :: back)).annotatedMap? =
      (field.withAnnotations (front ++ back)).annotatedMap? := by
  simp only [annotatedMap?, withAnnotations, annotationsNamed_insert text noMap]

theorem DeclaredField.shape_insert (text : note.hasTextName = true)
    (noField : note.isNamed ["field"] = false) (noMap : note.isNamed ["map"] = false)
    (table : TypeTable) :
    (field.withAnnotations (front ++ note :: back)).shape table =
      (field.withAnnotations (front ++ back)).shape table :=
  (field.withAnnotations (front ++ back)).shape_withAnnotations
    (annotationsNamed_insert text noField)
    (annotatedMap?_insert text noMap) table

theorem DeclaredField.explicitNumber?_insert (text : note.hasTextName = true)
    (neither : note.isNamed ["field", "map"] = false) (model : Model) :
    (field.withAnnotations (front ++ note :: back)).explicitNumber? model =
      (field.withAnnotations (front ++ back)).explicitNumber? model := by
  simp only [explicitNumber?, withAnnotations, annotationsNamed_insert text neither]
  rfl

/-- A message sees an annotation that is no `field` annotation, in its place among those that it
sees besides. -/
theorem DeclaredField.forMessage_insert (text : note.hasTextName = true)
    (noField : note.isNamed ["field"] = false) (message : Value) :
    (field.withAnnotations (front ++ note :: back)).forMessage message =
      ((field.withAnnotations (front ++ back)).forMessage message).map fun _ =>
        field.withAnnotations (front.filter (isSeenBy message) ++
          note :: back.filter (isSeenBy message)) := by
  have seen : isSeenBy message note = true := by
    rw [isSeenBy, noField]
    rfl
  rw [forMessage_eq, forMessage_eq]
  simp only [withAnnotations, List.all_append, List.all_cons, text, Bool.true_and,
    List.filter_append, List.filter_cons, seen, if_true]
  split <;> rfl

theorem DeclaredField.fieldAnnotations_insert (text : note.hasTextName = true)
    (noField : note.isNamed ["field"] = false) (message : Value) :
    (field.withAnnotations (front ++ note :: back)).fieldAnnotations message =
      (field.withAnnotations (front ++ back)).fieldAnnotations message := by
  rw [fieldAnnotations, fieldAnnotations, forMessage_insert text noField, forMessage_eq]
  split
  · have same : annotationsNamed ["field"] (front.filter (isSeenBy message) ++
          note :: back.filter (isSeenBy message)) =
        annotationsNamed ["field"] (front.filter (isSeenBy message) ++
          back.filter (isSeenBy message)) :=
      annotationsNamed_insert text noField
    simpa only [Except.map, ok_bind, withAnnotations, List.filter_append] using same
  · rfl

theorem DeclaredField.isForeign_insert (text : note.hasTextName = true)
    (noField : note.isNamed ["field"] = false) (model : Model) (message : Value) :
    (field.withAnnotations (front ++ note :: back)).isForeign model message =
      (field.withAnnotations (front ++ back)).isForeign model message := by
  have scopes : (field.withAnnotations (front ++ note :: back)).isScopedOut message =
      (field.withAnnotations (front ++ back)).isScopedOut message := by
    simp only [isScopedOut, withAnnotations, annotationsNamed_insert text noField]
  rw [isForeign, isForeign, scopes]
  rfl

end Insertion

/-- A message keeps a field that has a part in it and is not left out. -/
theorem DeclaredField.inclusion_eq_keep_iff {model : Model} {composite : Composite}
    {message : Value} {field : DeclaredField} :
    field.inclusion model composite message = .ok .keep ↔
      field.isForeign model message = .ok false ∧ field.isLeftOut message = .ok false := by
  constructor
  · intro kept
    rcases bind_eq_ok_iff.mp kept with ⟨foreign, own, rest⟩
    cases foreign with
    | true => cases rest
    | false =>
        rcases bind_eq_ok_iff.mp rest with ⟨out, left, rest⟩
        cases out with
        | false => exact ⟨own, left⟩
        | true =>
            rcases bind_eq_ok_iff.mp rest with ⟨asked, _, rest⟩
            cases asked with
            | true => cases rest
            | false =>
                rcases bind_eq_ok_iff.mp rest with ⟨all, _, rest⟩
                cases all <;> cases rest
  · rintro ⟨own, left⟩
    rw [inclusion, own, ok_bind, left]
    rfl

/-! ## Annotations that leave fields out -/

/-- An annotation that may leave a field out: one that goes by `ignore`, `skip`
or `omit`.  Whether it does depends on its scope and on the message. -/
def Annotation.IsSkip (note : Annotation) : Prop :=
  note.goesBy ["ignore", "skip", "omit"] = .ok true

instance (note : Annotation) : Decidable note.IsSkip :=
  inferInstanceAs (Decidable (_ = _))

namespace Annotation.IsSkip

variable {note : Annotation}

theorem hasTextName (leaves : note.IsSkip) : note.hasTextName = true :=
  (goesBy_eq_ok_iff.mp leaves).1

theorem isNamed (leaves : note.IsSkip) : note.isNamed ["ignore", "skip", "omit"] = true :=
  (goesBy_eq_ok_iff.mp leaves).2

/-- No query for other words finds the annotation. -/
theorem isNamed_other (leaves : note.IsSkip) {names : List String}
    (plain : ∀ word ∈ ["ignore", "skip", "omit"] ++ names, '.' ∉ word.toList)
    (disjoint : ∀ word ∈ ["ignore", "skip", "omit"], word ∉ names) : note.isNamed names = false :=
  isNamed_eq_false plain disjoint leaves.isNamed

theorem isNamed_field (leaves : note.IsSkip) : note.isNamed ["field"] = false :=
  leaves.isNamed_other (by decide) (by decide)

theorem isNamed_map (leaves : note.IsSkip) : note.isNamed ["map"] = false :=
  leaves.isNamed_other (by decide) (by decide)

theorem isNamed_fieldOrMap (leaves : note.IsSkip) : note.isNamed ["field", "map"] = false :=
  leaves.isNamed_other (by decide) (by decide)

theorem isNamed_include (leaves : note.IsSkip) : note.isNamed ["include"] = false :=
  leaves.isNamed_other (by decide) (by decide)

end Annotation.IsSkip

/-! ## The field that is retired -/

namespace Annotation.Retires

variable {note : Annotation} {message : Value} {front back : List Annotation}
  {field : DeclaredField}

/-- An `ignore` annotation with `reserved` retires a field in every message that its scope, if it
has one, selects. -/
theorem ignore (scope : Option ParamValue)
    (selects : ∀ value ∈ scope, value.selects message = true) :
    Annotation.Retires
      { name := .text "ignore"
        params := ("reserved", .bool true) :: (scope.map fun value => ("for", value)).toList }
      message where
  named := by
    have plain : Annotation.goesBy { name := .text "ignore" } ["ignore", "skip", "omit"] =
        .ok true := by
      decide +kernel
    exact plain
  applies := by
    cases scope with
    | none => rfl
    | some value => exact selects value rfl
  reserves := rfl

theorem isSkip (retires : note.Retires message) : note.IsSkip :=
  retires.named

/-- What the message sees of the field has the shape and the number that it had. -/
theorem exists_seen_insert (retires : note.Retires message) {seen : DeclaredField}
    (view : (field.withAnnotations (front ++ back)).forMessage message = .ok seen) :
    ∃ after, (field.withAnnotations (front ++ note :: back)).forMessage message = .ok after ∧
      (∀ table, after.shape table = seen.shape table) ∧
      ∀ model, after.explicitNumber? model = seen.explicitNumber? model := by
  have sight : seen = field.withAnnotations (front.filter (DeclaredField.isSeenBy message) ++
      back.filter (DeclaredField.isSeenBy message)) := by
    rw [DeclaredField.forMessage_eq] at view
    split at view
    · cases view
      simp only [DeclaredField.withAnnotations, List.filter_append]
    · cases view
  subst sight
  refine ⟨_, by
    rw [DeclaredField.forMessage_insert retires.isSkip.hasTextName
      retires.isSkip.isNamed_field, view]
    rfl, ?_, ?_⟩
  · exact DeclaredField.shape_insert retires.isSkip.hasTextName retires.isSkip.isNamed_field
      retires.isSkip.isNamed_map
  · exact DeclaredField.explicitNumber?_insert retires.isSkip.hasTextName
      retires.isSkip.isNamed_fieldOrMap

/-- What leaves the field out now includes the annotation. -/
theorem skipAnnotations_insert (retires : note.Retires message) {skips : List Annotation}
    (skipping : (field.withAnnotations (front ++ back)).skipAnnotations = .ok skips) :
    ∃ after, (field.withAnnotations (front ++ note :: back)).skipAnnotations = .ok after ∧
      note ∈ after := by
  have named := (annotationsNamed_eq_ok_iff.mp skipping).1
  have namedAfter : (front ++ note :: back).all Annotation.hasTextName = true := by
    simpa [DeclaredField.withAnnotations, retires.isSkip.hasTextName] using named
  refine ⟨_, annotationsNamed_of_text namedAfter, ?_⟩
  simp [DeclaredField.withAnnotations, retires.isSkip.isNamed]

/-- With the annotation a message leaves the field out. -/
theorem isLeftOut_insert (retires : note.Retires message)
    (kept : (field.withAnnotations (front ++ back)).isLeftOut message = .ok false) :
    (field.withAnnotations (front ++ note :: back)).isLeftOut message = .ok true := by
  rcases bind_eq_ok_iff.mp kept with ⟨skips, skipping, rest⟩
  rcases bind_eq_ok_iff.mp rest with ⟨includes, including, rest⟩
  rcases bind_eq_ok_iff.mp rest with ⟨own, annotated, _⟩
  rcases retires.skipAnnotations_insert skipping with ⟨skipsAfter, skippingAfter, member⟩
  have includingAfter : annotationsNamed ["include"] (front ++ note :: back) = .ok includes := by
    rw [annotationsNamed_insert retires.isSkip.hasTextName retires.isSkip.isNamed_include]
    exact including
  have skipped : skipsAfter.any (·.appliesTo message true) = true :=
    List.any_eq_true.mpr ⟨note, member, retires.applies⟩
  rw [DeclaredField.isLeftOut, skippingAfter, ok_bind,
    DeclaredField.fieldAnnotations_insert retires.isSkip.hasTextName retires.isSkip.isNamed_field,
    annotated]
  simp only [DeclaredField.withAnnotations, includingAfter, ok_bind, pure_eq_ok, skipped,
    Bool.true_or]

/-- With the annotation the number of the field is reserved in the message. -/
theorem asksReservation_insert (retires : note.Retires message)
    (kept : (field.withAnnotations (front ++ back)).isLeftOut message = .ok false) :
    (field.withAnnotations (front ++ note :: back)).asksReservation message = .ok true := by
  rcases bind_eq_ok_iff.mp kept with ⟨skips, skipping, rest⟩
  rcases bind_eq_ok_iff.mp rest with ⟨includes, _, rest⟩
  rcases bind_eq_ok_iff.mp rest with ⟨own, annotated, _⟩
  rcases retires.skipAnnotations_insert skipping with ⟨skipsAfter, skippingAfter, member⟩
  have asked : (own ++ skipsAfter).any (·.paramSelects "reserved" message) = true :=
    List.any_eq_true.mpr ⟨note, List.mem_append_right own member, retires.reserves⟩
  rw [DeclaredField.asksReservation,
    DeclaredField.fieldAnnotations_insert retires.isSkip.hasTextName retires.isSkip.isNamed_field,
    annotated, ok_bind, skippingAfter, ok_bind, asked, pure_eq_ok]

/-- A field that a message keeps is left out of it with the annotation, and its number reserved. -/
theorem inclusion_insert (retires : note.Retires message) {model : Model} {composite : Composite}
    (kept : (field.withAnnotations (front ++ back)).inclusion model composite message =
      .ok .keep) :
    (field.withAnnotations (front ++ note :: back)).inclusion model composite message =
      .ok .dropAndReserve := by
  rcases DeclaredField.inclusion_eq_keep_iff.mp kept with ⟨own, admitted⟩
  rw [DeclaredField.inclusion,
    DeclaredField.isForeign_insert retires.isSkip.hasTextName retires.isSkip.isNamed_field, own,
    ok_bind, retires.isLeftOut_insert admitted, ok_bind, retires.asksReservation_insert admitted,
    ok_bind]
  rfl

end Annotation.Retires

/-! ## One step -/

namespace SchemaContext

variable {context : SchemaContext} {composite : Composite} {message : Value} {next : Int}

/-- A field that is planned in a message is kept there. -/
theorem resolveField_eq_planned {field : DeclaredField} {active : PlannedField}
    (resolved : context.resolveField composite message next field = .ok (.planned active)) :
    ∃ seen shape number, field.inclusion context.model composite message = .ok .keep ∧
      field.forMessage message = .ok seen ∧ seen.shape context.types = .ok shape ∧
      context.numberField next seen .keep = .ok number ∧
      context.planField shape number = .ok active := by
  rcases bind_eq_ok_iff.mp resolved with ⟨inclusion, included, rest⟩
  cases inclusion with
  | drop => cases rest
  | keep =>
      rcases bind_eq_ok_iff.mp rest with ⟨seen, view, rest⟩
      rcases bind_eq_ok_iff.mp rest with ⟨shape, shaped, rest⟩
      split at rest
      · cases rest
      · rcases bind_eq_ok_iff.mp rest with ⟨number, numbered, rest⟩
        rcases bind_eq_ok_iff.mp rest with ⟨planned, result, final⟩
        cases final
        exact ⟨seen, shape, number, included, view, shaped, numbered, result⟩
  | dropAndReserve =>
      rcases bind_eq_ok_iff.mp rest with ⟨seen, _, rest⟩
      rcases bind_eq_ok_iff.mp rest with ⟨shape, _, rest⟩
      rcases bind_eq_ok_iff.mp rest with ⟨number, _, rest⟩
      cases rest

/-- The step at the field: it is retired where it was planned, with the number that it had. -/
theorem resolveField_insert {note : Annotation} (retires : note.Retires message)
    {field : DeclaredField} {front back : List Annotation} {active : PlannedField}
    (resolved : context.resolveField composite message next
      (field.withAnnotations (front ++ back)) = .ok (.planned active)) :
    ∃ found, context.resolveField composite message next
        (field.withAnnotations (front ++ note :: back)) = .ok (.retired found) ∧
      found.number = active.number ∧ found.isExplicit = active.isExplicit := by
  rcases resolveField_eq_planned resolved with
    ⟨seen, shape, number, included, view, shaped, numbered, result⟩
  rcases numberField_eq_ok_iff.mp numbered with ⟨own?, own, rfl⟩
  rcases retires.exists_seen_insert view with ⟨seenAfter, viewAfter, sameShape, sameNumber⟩
  have same := toNumbered_of_planField rfl result
  refine ⟨(Participant.mk seenAfter .dropAndReserve own?).withNumber next, ?_,
    (congrArg NumberedField.number same).symm, (congrArg NumberedField.isExplicit same).symm⟩
  have numberedAfter : context.numberField next seenAfter .dropAndReserve =
      .ok ((Participant.mk seenAfter .dropAndReserve own?).withNumber next) :=
    numberField_eq_ok_iff.mpr ⟨own?, (sameNumber context.model).trans own, rfl⟩
  rw [resolveField, retires.inclusion_insert included, ok_bind]
  simp only [viewAfter, ok_bind, resolveDecided, sameShape, shaped, numberedAfter]
  rfl

/-! ## The whole run -/

/-- A run whose outcomes are cut at one of them is cut at the field that it belongs to. -/
theorem exists_of_resolveFields_eq {fields : List DeclaredField} {before after : List FieldOutcome}
    {outcome : FieldOutcome}
    (run : context.resolveFields composite message next fields =
      .ok (before ++ outcome :: after)) :
    ∃ earlier field later, fields = earlier ++ field :: later ∧
      context.resolveFields composite message next earlier = .ok before ∧
      context.resolveField composite message (FieldOutcome.nextAfter next before) field =
        .ok outcome ∧
      context.resolveFields composite message
        (outcome.nextNumber (FieldOutcome.nextAfter next before)) later = .ok after := by
  induction before generalizing next fields with
  | nil =>
      cases fields with
      | nil => cases run
      | cons field later =>
          rcases resolveFields_cons_eq_ok_iff.mp run with ⟨_, _, first, rest, same⟩
          cases same
          exact ⟨[], field, later, rfl, rfl, first, rest⟩
  | cons head before ih =>
      cases fields with
      | nil => cases run
      | cons field later =>
          rcases resolveFields_cons_eq_ok_iff.mp run with ⟨_, _, first, rest, same⟩
          cases same
          rcases ih rest with ⟨earlier, found, behind, rfl, ran, decided, others⟩
          refine ⟨field :: earlier, found, behind, rfl, ?_, decided, others⟩
          exact resolveFields_cons_eq_ok_iff.mpr ⟨head, before, first, ran, rfl⟩

theorem aliasesOf_of_redeclared {old new : Composite} (ordinary : old.target? = none)
    (ordinaryAfter : new.target? = none) {composites others : List Composite}
    (related : List.Forall₂ (fun before after => after = before ∨ before = old ∧ after = new)
      composites others) :
    TypeTable.aliasesOf others = TypeTable.aliasesOf composites := by
  apply filterMap_of_forall₂ _ _ related
  intro before after same
  rcases same with rfl | ⟨rfl, rfl⟩
  · rfl
  · rw [ordinary, ordinaryAfter, Option.map_none, Option.map_none]

/-- In the new model the fields of the type are resolved as they were, each by itself. -/
theorem resolveFields_of_redeclares {declared : List DeclaredField} {model changed : Model}
    (redeclared : model.Redeclares composite (composite.withFields declared) changed)
    (ordinary : composite.target? = none) (options : Options) (next : Int)
    (fields : List DeclaredField) :
    (SchemaContext.of changed options).resolveFields (composite.withFields declared) message next
        fields =
      (SchemaContext.of model options).resolveFields composite message next fields := by
  have after : (composite.withFields declared).target? = none := ordinary
  have same := aliasesOf_of_redeclared ordinary after redeclared.composites
  rw [redeclared.others, of_withComposites options same, resolveFields_withComposites]

/-- Where an outcome that plans a field is put in the place of another that retires it with the same
number, the run goes on as it did. -/
theorem nextNumber_of_retired {found : NumberedField} {active : PlannedField}
    (number : found.number = active.number) (explicit : found.isExplicit = active.isExplicit) :
    (FieldOutcome.retired found).nextNumber next =
      (FieldOutcome.planned active).nextNumber next := by
  simp only [FieldOutcome.nextNumber, FieldOutcome.number?, number, explicit]

/-- The plan of outcomes, one of which retires what another one plans, differs from the plan of the
others by that field and its number. -/
theorem reservedNumbers_of_retired {statements : MessageStatements} {edited : Composite}
    {first others : List FieldOutcome} {found : NumberedField} {active : PlannedField}
    (same : found.number = active.number) (number : Int) :
    number ∈ (MessagePlan.ofOutcomes edited message statements
        (first ++ .retired found :: others)).reservedNumbers ↔
      number ∈ (MessagePlan.ofOutcomes composite message statements
        (first ++ .planned active :: others)).reservedNumbers ∨ number = active.number := by
  simp only [MessagePlan.reservedNumbers, MessagePlan.ofOutcomes, mem_increasing,
    List.filterMap_append, List.filterMap_cons, FieldOutcome.retired?, List.map_append,
    List.map_cons, List.mem_append, List.mem_cons, same]
  tauto

theorem exists_outcome_of_shown {outcomes : List FieldOutcome} {ahead behind : List PlannedField}
    {active : PlannedField}
    (shown : outcomes.filterMap FieldOutcome.planned? = ahead ++ active :: behind) :
    ∃ first others, outcomes = first ++ .planned active :: others ∧
      first.filterMap FieldOutcome.planned? = ahead ∧
      others.filterMap FieldOutcome.planned? = behind := by
  rcases List.filterMap_eq_append_iff.mp shown with ⟨first, second, rfl, rfl, rest⟩
  rcases List.filterMap_eq_cons_iff.mp rest with ⟨passed, outcome, others, rfl, none, found, rfl⟩
  cases outcome with
  | planned field =>
      cases found
      refine ⟨first ++ passed, others, (List.append_assoc first passed _).symm, ?_, rfl⟩
      rw [List.filterMap_append, List.filterMap_eq_nil_iff.mpr none, List.append_nil]
  | _ => cases found

/-- A field that is planned is the declared one as the message sees it. -/
theorem forMessage_of_resolveField {field : DeclaredField} {active : PlannedField}
    (resolved : context.resolveField composite message next field = .ok (.planned active)) :
    field.forMessage message = .ok active.field := by
  rcases resolveField_eq_planned resolved with ⟨seen, shape, number, _, view, _, numbered, result⟩
  rcases numberField_eq_ok_iff.mp numbered with ⟨own?, _, rfl⟩
  have same := congrArg NumberedField.field (toNumbered_of_planField rfl result)
  rw [view]
  exact congrArg Except.ok same.symm

/-- Retiring a field.  Every field that a message of a type shows belongs to one that the type
declares, as the message sees it.  When this one gets an annotation that retires it in the message,
in whatever place among its annotations, then the message has a plan with all other fields as they
were, and its number is all that its reserved numbers gain. -/
theorem plan_retire {model : Model} {options : Options} {composite : Composite} {message : Value}
    {before : MessagePlan} {ahead behind : List PlannedField} {active : PlannedField}
    (ordinary : composite.target? = none)
    (planned : (SchemaContext.of model options).plan composite message = .ok before)
    (shown : before.fields = ahead ++ active :: behind) :
    ∃ earlier field later, composite.fields = earlier ++ field :: later ∧
      field.forMessage message = .ok active.field ∧
      ∀ front back note changed, field.annotations = front ++ back → note.Retires message →
        model.Redeclares composite (composite.withFields
          (earlier ++ field.withAnnotations (front ++ note :: back) :: later)) changed →
        ∃ after, (SchemaContext.of changed options).plan (composite.withFields
            (earlier ++ field.withAnnotations (front ++ note :: back) :: later)) message =
              .ok after ∧
          after.fields = ahead ++ behind ∧ IsIncreasing after.reservedNumbers ∧
          ∀ number, number ∈ after.reservedNumbers ↔
            number ∈ before.reservedNumbers ∨ number = active.number := by
  rcases plan_eq_ok_iff.mp planned with ⟨statements, outcomes, stated, decided, rfl⟩
  rcases outcomes_eq_ok_iff.mp decided with ⟨fields, resolved, run⟩
  cases (Model.resolvedFields_of_target?_eq_none model ordinary).symm.trans resolved
  -- The plan is cut at the field, then the outcomes that it shows, then the declared fields.
  rcases exists_outcome_of_shown shown with ⟨first, others, rfl, rfl, rfl⟩
  rcases exists_of_resolveFields_eq run with ⟨earlier, field, later, split, ranFirst, step, ranLast⟩
  refine ⟨earlier, field, later, split, forMessage_of_resolveField step, ?_⟩
  intro front back note changed annotated retires redeclared
  have whole : field = field.withAnnotations (front ++ back) := by
    rw [DeclaredField.withAnnotations, ← annotated]
  rw [whole] at step
  rcases resolveField_insert retires step with ⟨found, stepAfter, sameNumber, sameKind⟩
  -- Behind the field both runs go on from the same counter, over the same fields.
  rw [← nextNumber_of_retired sameNumber sameKind] at ranLast
  have runAfter := resolveFields_append_eq_ok_iff.mpr ⟨first, _, ranFirst,
    resolveFields_cons_eq_ok_iff.mpr ⟨.retired found, others, stepAfter, ranLast, rfl⟩, rfl⟩
  rw [← resolveFields_of_redeclares redeclared ordinary options] at runAfter
  have resolvedAfter : changed.resolvedFields (composite.withFields
      (earlier ++ field.withAnnotations (front ++ note :: back) :: later)) = .ok _ :=
    Model.resolvedFields_of_target?_eq_none changed ordinary
  have decidedAfter := outcomes_eq_ok_iff.mpr ⟨_, resolvedAfter, runAfter⟩
  refine ⟨_, plan_eq_ok_iff.mpr ⟨statements, _, stated, decidedAfter, rfl⟩, ?_,
    isIncreasing_increasing _, reservedNumbers_of_retired sameNumber⟩
  rw [MessagePlan.ofOutcomes, List.filterMap_append, List.filterMap_cons]
  rfl

theorem plan_retire_mixedType :
    ∃ before active edited after, mixedContext.plan mixedType (.text "User") = .ok before ∧
      active ∈ before.fields ∧ active.number = 5 ∧
      (SchemaContext.of { composites := [edited] } { startFieldNumber := .int 5 }).plan edited
        (.text "User") = .ok after ∧
      after.fields.map (·.number) = [10, 7] ∧
      ∀ number, number ∈ after.reservedNumbers ↔ number ∈ [6] ∨ number = 5 := by
  have evaluated : (mixedContext.plan mixedType (.text "User")).toOption.map
      (fun plan => (plan.fields.map (·.number), plan.reservedNumbers)) =
        some ([5, 10, 7], [6]) := by
    decide +kernel
  rcases exists_of_toOption_map evaluated with ⟨before, planned, parts⟩
  rcases Prod.mk.inj parts with ⟨numbers, reservedBefore⟩
  rcases List.map_eq_cons_iff.mp numbers with ⟨active, behind, shown, five, others⟩
  rcases plan_retire rfl planned (shown.trans (List.nil_append _).symm) with
    ⟨earlier, field, later, _, _, retire⟩
  have retires : Annotation.Retires _ (.text "User") :=
    Annotation.Retires.ignore none (by rintro _ ⟨⟩)
  rcases retire [] field.annotations _ { composites := [_] } rfl retires
    ⟨.cons (.inr ⟨rfl, rfl⟩) .nil, rfl⟩ with ⟨after, plannedAfter, fields, _, reserved⟩
  refine ⟨before, active, _, after, planned, shown ▸ List.mem_cons_self, five, plannedAfter, ?_, ?_⟩
  · rw [fields]
    exact others
  · intro number
    rw [reserved, reservedBefore, five]

end SchemaContext

end WireSchema
