import WireSchema.Proofs.Schema.Matching
import WireSchema.Proofs.Schema.Resolution

namespace WireSchema

/-!
# Annotations of other messages

One composite type may be written as several messages, and an annotation of a field may have a
scope, `for`, that tells which of them it concerns.  What such an annotation says must not be felt
in the other messages.  Here two runs are compared whose models differ only in parameters of
annotations that do not concern the message: they give it the same fields with the same names,
numbers and types, and the same reserved numbers.

Two things stay outside.  A `map` annotation has no scope in the vocabulary, so its key, value and
number are read for every message, whatever its parameter `for` holds.  And when a message leaves a
field out, whether its number is reserved is asked of all annotations that leave fields out, also of
those with another scope; nothing is said about changes of that answer.
-/

open Asked

/-! ## Changes that a message must not feel -/

/-- An annotation whose scope does not have the message, before and after a change of any other
parameter.  What a `map` annotation gives stays as it is. -/
structure Annotation.ChangesElsewhere (message : Value) (before after : Annotation) : Prop where
  name : after.name = before.name
  scope : after.get? "for" = before.get? "for"
  elsewhere : ∃ value, before.get? "for" = some value ∧ value.selects message = false
  map : before.isNamed ["map"] = true →
    DeclaredField.statedMap? after = DeclaredField.statedMap? before ∧
      DeclaredField.positiveNumber? after = DeclaredField.positiveNumber? before

/-- Two annotations that a message must not tell apart.  They are the same, or
they differ in their parameters and their common scope does not have the
message. -/
def AlikeNote (message : Value) (before after : Annotation) : Prop :=
  after = before ∨ before.ChangesElsewhere message after

/-- Whether annotations that leave a field out ask a message to reserve its number, by whatever
scope. -/
def DeclaredField.skipsReserving (field : DeclaredField) (message : Value) : Bool :=
  field.annotations.any fun note =>
    note.isNamed ["ignore", "skip", "omit"] && note.paramSelects "reserved" message

/-- A field before and after changes of annotations that do not concern the message.  If the message
leaves the field out, they ask for its number as they did. -/
structure DeclaredField.ChangesElsewhere (message : Value) (before after : DeclaredField) :
    Prop where
  others : after = before.withAnnotations after.annotations
  notes : List.Forall₂ (AlikeNote message) before.annotations after.annotations
  reservation : before.isLeftOut message = .ok true →
    after.skipsReserving message = before.skipsReserving message

/-- A composite type before and after such changes of its fields. -/
structure Composite.ChangesElsewhere (message : Value) (before after : Composite) : Prop where
  others : after = before.withFields after.fields
  fields : List.Forall₂ (DeclaredField.ChangesElsewhere message) before.fields after.fields

/-- A model before and after such changes of its composite types. -/
structure Model.ChangesElsewhere (message : Value) (before after : Model) : Prop where
  others : after = { before with composites := after.composites }
  composites :
    List.Forall₂ (Composite.ChangesElsewhere message) before.composites after.composites

/-! ## What the queries find -/

theorem Annotation.isNamed_cons (word : String) (words : List String) (note : Annotation) :
    note.isNamed (word :: words) = (note.isNamed [word] || note.isNamed words) := by
  unfold isNamed
  split
  · rw [List.any_cons, List.any_cons, List.any_nil, Bool.or_false]
  · rfl

namespace AlikeNote

variable {message : Value} {before after : Annotation}

theorem name (alike : AlikeNote message before after) : after.name = before.name := by
  rcases alike with rfl | changes
  · rfl
  · exact changes.name

theorem isNamed (alike : AlikeNote message before after) (names : List String) :
    after.isNamed names = before.isNamed names :=
  Annotation.isNamed_of_name_eq alike.name names

theorem hasTextName (alike : AlikeNote message before after) :
    after.hasTextName = before.hasTextName :=
  Annotation.hasTextName_of_name_eq alike.name

theorem scope (alike : AlikeNote message before after) : after.get? "for" = before.get? "for" := by
  rcases alike with rfl | changes
  · rfl
  · exact changes.scope

theorem appliesTo (alike : AlikeNote message before after) (default : Bool) :
    after.appliesTo message default = before.appliesTo message default := by
  unfold Annotation.appliesTo
  rw [alike.scope]

theorem isSeenBy (alike : AlikeNote message before after) :
    DeclaredField.isSeenBy message after = DeclaredField.isSeenBy message before := by
  rw [DeclaredField.isSeenBy, DeclaredField.isSeenBy, alike.isNamed, alike.appliesTo]

/-- A `field` annotation that the message sees is the same before and after. -/
theorem eq_of_isNamed_field (alike : AlikeNote message before after)
    (seen : DeclaredField.isSeenBy message before = true)
    (named : before.isNamed ["field"] = true) : after = before := by
  rcases alike with same | changes
  · exact same
  · rcases changes.elsewhere with ⟨value, scope, missed⟩
    rw [DeclaredField.isSeenBy, named, Annotation.appliesTo, scope] at seen
    exact absurd seen (Bool.eq_false_iff.mp missed)

theorem statedMap? (alike : AlikeNote message before after)
    (named : before.isNamed ["map"] = true) :
    DeclaredField.statedMap? after = DeclaredField.statedMap? before := by
  rcases alike with rfl | changes
  · rfl
  · exact (changes.map named).1

/-- So is the number of an annotation that may give one to the message. -/
theorem positiveNumber? (alike : AlikeNote message before after)
    (seen : DeclaredField.isSeenBy message before = true)
    (named : before.isNamed ["field", "map"] = true) :
    DeclaredField.positiveNumber? after = DeclaredField.positiveNumber? before := by
  rw [before.isNamed_cons, Bool.or_eq_true_iff] at named
  rcases named with field | map
  · rw [alike.eq_of_isNamed_field seen field]
  · rcases alike with rfl | changes
    · rfl
    · exact (changes.map map).2

end AlikeNote

section Notes

variable {message : Value} {notes others : List Annotation}

theorem hasTextNames_of_alike (alike : List.Forall₂ (AlikeNote message) notes others) :
    others.all Annotation.hasTextName = notes.all Annotation.hasTextName :=
  all_of_forall₂ Annotation.hasTextName AlikeNote.hasTextName alike

theorem seen_of_alike (alike : List.Forall₂ (AlikeNote message) notes others) :
    List.Forall₂ (fun note other => AlikeNote message note other ∧
        DeclaredField.isSeenBy message note = true)
      (notes.filter (DeclaredField.isSeenBy message))
      (others.filter (DeclaredField.isSeenBy message)) :=
  filter_of_forall₂ (DeclaredField.isSeenBy message) AlikeNote.isSeenBy alike

/-- The `field` annotations that the message sees are the same. -/
theorem ownAnnotations_of_alike (alike : List.Forall₂ (AlikeNote message) notes others) :
    annotationsNamed ["field"] (others.filter (DeclaredField.isSeenBy message)) =
      annotationsNamed ["field"] (notes.filter (DeclaredField.isSeenBy message)) := by
  refine annotationsNamed_eq_of_forall₂ ["field"] ?_ (seen_of_alike alike)
  rintro note other ⟨same, sees⟩
  cases named : note.isNamed ["field"] with
  | true => exact Or.inl (same.eq_of_isNamed_field sees named)
  | false => exact Or.inr ⟨same.name, rfl⟩

end Notes

/-! ## Whether a field enters the message -/

namespace DeclaredField.ChangesElsewhere

variable {message : Value} {before after : DeclaredField}

theorem isScopedOut (changes : before.ChangesElsewhere message after) :
    after.isScopedOut message = before.isScopedOut message := by
  apply Related.eq
  apply Related.bind (annotationsNamed_of_forall₂ ["field"] AlikeNote.name changes.notes)
  intro found others same
  have scopes := filter_of_forall₂ (·.has "for")
    (fun pair => by unfold Annotation.has; rw [pair.1.scope]) same
  have applies := any_of_forall₂ (·.appliesTo message true)
    (fun pair => pair.1.1.appliesTo true) scopes
  simp only [applies, isEmpty_of_forall₂ scopes]
  exact related_of_eq rfl

theorem isForeign (changes : before.ChangesElsewhere message after) (model : Model) :
    after.isForeign model message = before.isForeign model message := by
  have scopes := changes.isScopedOut
  rw [DeclaredField.isForeign, DeclaredField.isForeign, scopes, changes.others]
  rfl

theorem fieldAnnotations (changes : before.ChangesElsewhere message after) :
    after.fieldAnnotations message = before.fieldAnnotations message := by
  rw [DeclaredField.fieldAnnotations, DeclaredField.fieldAnnotations, forMessage_eq, forMessage_eq,
    hasTextNames_of_alike changes.notes]
  split
  · exact ownAnnotations_of_alike changes.notes
  · rfl

theorem isLeftOut (changes : before.ChangesElsewhere message after) :
    after.isLeftOut message = before.isLeftOut message := by
  apply Related.eq
  apply Related.bind (annotationsNamed_of_forall₂ _ AlikeNote.name changes.notes)
  intro skips skipsAfter skipping
  apply Related.bind (annotationsNamed_of_forall₂ _ AlikeNote.name changes.notes)
  intro includes includesAfter including
  apply Related.bind (related_of_eq changes.fieldAnnotations)
  rintro own _ rfl
  have skipped := any_of_forall₂ (·.appliesTo message true)
    (fun pair => pair.1.appliesTo true) skipping
  have included := any_of_forall₂ (!·.appliesTo message false)
    (fun pair => congrArg not (pair.1.appliesTo false)) including
  simp only [skipped, included]
  exact related_of_eq rfl

theorem asksReservation (changes : before.ChangesElsewhere message after)
    (left : before.isLeftOut message = .ok true) :
    after.asksReservation message = before.asksReservation message := by
  rw [DeclaredField.asksReservation, DeclaredField.asksReservation, changes.fieldAnnotations,
    skipAnnotations, skipAnnotations, annotationsNamed_eq, annotationsNamed_eq,
    hasTextNames_of_alike changes.notes]
  have reserving := changes.reservation left
  simp only [skipsReserving] at reserving
  split
  · simp only [ok_bind, List.any_append, List.any_filter, reserving]
  · rfl

/-- What becomes of the field is decided as it was. -/
theorem inclusion (changes : before.ChangesElsewhere message after) (model : Model)
    (composite : Composite) :
    after.inclusion model composite message = before.inclusion model composite message := by
  rw [DeclaredField.inclusion, DeclaredField.inclusion, changes.isForeign, changes.isLeftOut]
  cases left : before.isLeftOut message with
  | error fault => rfl
  | ok out =>
      cases out with
      | false => rfl
      | true => rw [changes.asksReservation left]

end DeclaredField.ChangesElsewhere

/-! ## What is written of it -/

/-- Other annotations by which a field is written the same, and fails to be in
the same cases.  Only what the plan asks of annotations has to agree; all else
may have changed. -/
structure DeclaredField.ReadsAlike (seen : DeclaredField) (notes : List Annotation) : Prop where
  named : seen.annotations.all Annotation.hasTextName = true
  namedAfter : notes.all Annotation.hasTextName = true
  own : annotationsNamed ["field"] notes = annotationsNamed ["field"] seen.annotations
  map : (seen.withAnnotations notes).annotatedMap? = seen.annotatedMap?
  number : ∀ model, (seen.withAnnotations notes).explicitNumber? model = seen.explicitNumber? model

theorem DeclaredField.readsAlike_of_alike {message : Value} (field : DeclaredField)
    {notes others : List Annotation} (named : notes.all Annotation.hasTextName = true)
    (alike : List.Forall₂ (AlikeNote message) notes others) :
    (field.withAnnotations (notes.filter (isSeenBy message))).ReadsAlike
      (others.filter (isSeenBy message)) := by
  have selected : ∀ notes : List Annotation, notes.all Annotation.hasTextName = true →
      (notes.filter (isSeenBy message)).all Annotation.hasTextName = true := by
    intro notes each
    simp only [List.all_eq_true] at each ⊢
    exact fun note member => each note (List.mem_filter.mp member).1
  have seen := seen_of_alike alike
  constructor
  case named => exact selected notes named
  case namedAfter => exact selected others ((hasTextNames_of_alike alike).trans named)
  case own => exact ownAnnotations_of_alike alike
  case map =>
    apply Related.eq
    apply Related.bind (annotationsNamed_of_forall₂ ["map"] (fun pair => pair.1.name) seen)
    intro found foundAfter same
    exact related_of_eq (congrArg Except.ok
      (findSome?_of_forall₂ statedMap? (fun pair => pair.1.1.statedMap? pair.2) same))
  case number =>
    intro model
    apply Related.eq
    apply Related.bind (annotationsNamed_of_forall₂ ["field", "map"] (fun pair => pair.1.name)
      seen)
    intro found foundAfter same
    simp only [findSome?_of_forall₂ positiveNumber?
      (fun pair => pair.1.1.positiveNumber? pair.1.2 pair.2) same]
    exact related_of_eq rfl

/-- The message sees a field that reads as it did. -/
theorem DeclaredField.ChangesElsewhere.forMessage {message : Value} {before after : DeclaredField}
    (changes : before.ChangesElsewhere message after) :
    Related (fun seen other => ∃ notes, other = seen.withAnnotations notes ∧ seen.ReadsAlike notes)
      (before.forMessage message) (after.forMessage message) := by
  rw [DeclaredField.forMessage_eq, DeclaredField.forMessage_eq, hasTextNames_of_alike changes.notes]
  split
  next named =>
    rw [changes.others]
    exact .ok ⟨_, rfl, before.readsAlike_of_alike named changes.notes⟩
  next => exact .error _

/-! ## One step -/

def DeclaredField.bare (field : DeclaredField) : DeclaredField :=
  field.withAnnotations []

/-- What a planned field is on the wire: all but its annotations and what is written beside it, its
options and its description. -/
def PlannedField.onWire (planned : PlannedField) : PlannedField :=
  { planned with field := planned.field.bare, options := [], description := .null }

/-- What becomes of a field, as far as the wire is concerned.  The annotations of
the declared field are taken off, since they are noted on the plan and not
written. -/
def FieldOutcome.onWire : FieldOutcome → FieldOutcome
  | .dropped => .dropped
  | .unsupported field => .unsupported field.bare
  | .retired numbered => .retired { numbered with field := numbered.field.bare }
  | .planned field => .planned field.onWire

/-- A plan on the wire: its fields and its reserved numbers.  Description and
reserved names do not concern the wire, and are free to change. -/
def MessagePlan.onWire (plan : MessagePlan) : List PlannedField × List Int :=
  (plan.fields.map PlannedField.onWire, plan.reservedNumbers)

theorem FieldOutcome.nextNumber_onWire (next : Int) (outcome : FieldOutcome) :
    outcome.onWire.nextNumber next = outcome.nextNumber next := by
  cases outcome <;> rfl

namespace DeclaredField.ReadsAlike

variable {seen : DeclaredField} {notes : List Annotation}

theorem firstString? (alike : seen.ReadsAlike notes) (param : String) :
    WireSchema.firstString? ["field"] param notes =
      WireSchema.firstString? ["field"] param seen.annotations := by
  rw [WireSchema.firstString?, WireSchema.firstString?, alike.own]

theorem shape (alike : seen.ReadsAlike notes) (table : TypeTable) :
    (seen.withAnnotations notes).shape table = seen.shape table :=
  shape_withAnnotations alike.own alike.map table

theorem schemaName (alike : seen.ReadsAlike notes) (model : Model) :
    (seen.withAnnotations notes).schemaName model = seen.schemaName model := by
  have first := alike.firstString? "name"
  simp only [DeclaredField.schemaName, withAnnotations, first]
  rfl

theorem schemaType (alike : seen.ReadsAlike notes) (context : SchemaContext) :
    (seen.withAnnotations notes).schemaType context = seen.schemaType context := by
  have first := alike.firstString? "type"
  simp only [DeclaredField.schemaType, withAnnotations, first]
  rfl

theorem mapTypes (alike : seen.ReadsAlike notes) (table : TypeTable) :
    (seen.withAnnotations notes).mapTypes table = seen.mapTypes table := by
  rw [DeclaredField.mapTypes, DeclaredField.mapTypes, alike.map]
  rfl

theorem fieldOptions_related (alike : seen.ReadsAlike notes) (model : Model) :
    Related (fun _ _ => True) (seen.fieldOptions model)
      ((seen.withAnnotations notes).fieldOptions model) := by
  apply Related.bind (related_of_succeeds (succeeds_ofAnnotations alike.named)
    (succeeds_ofAnnotations alike.namedAfter))
  intro annotated annotatedAfter _
  apply Related.bind (related_of_eq rfl)
  intro tag tagAfter _
  exact .ok trivial

theorem description_related (alike : seen.ReadsAlike notes) :
    Related (fun _ _ => True) seen.description (seen.withAnnotations notes).description :=
  related_of_succeeds (succeeds_descriptionOf seen.doc alike.named)
    (succeeds_descriptionOf seen.doc alike.namedAfter)

end DeclaredField.ReadsAlike

namespace SchemaContext

variable {context : SchemaContext} {composite : Composite} {message : Value} {next : Int}
  {seen : DeclaredField} {notes : List Annotation}

theorem planField_related (alike : seen.ReadsAlike notes) (shape : FieldShape)
    (inclusion : Inclusion) (number : Int) (isExplicit : Bool) :
    Related (fun planned after => after.onWire = planned.onWire)
      (context.planField shape ⟨seen, inclusion, number, isExplicit⟩)
      (context.planField shape ⟨seen.withAnnotations notes, inclusion, number, isExplicit⟩) := by
  apply Related.bind (related_of_eq (alike.schemaName context.model))
  rintro _ name rfl
  apply Related.bind (related_of_eq (alike.schemaType context))
  rintro _ type rfl
  apply Related.bind (alike.fieldOptions_related context.model)
  intro options optionsAfter _
  apply Related.bind alike.description_related
  intro description descriptionAfter _
  split
  · apply Related.bind (related_of_eq (alike.mapTypes context.types))
    rintro _ mapTypes rfl
    exact .ok rfl
  · exact .ok rfl

theorem numberField_related (alike : seen.ReadsAlike notes) (inclusion : Inclusion) :
    Related (fun numbered after => numbered = ⟨seen, inclusion, after.number, after.isExplicit⟩ ∧
        after = ⟨seen.withAnnotations notes, inclusion, after.number, after.isExplicit⟩)
      (context.numberField next seen inclusion)
      (context.numberField next (seen.withAnnotations notes) inclusion) := by
  apply Related.bind (related_of_eq (alike.number context.model))
  rintro _ own? rfl
  cases own? with
  | none => exact .ok ⟨rfl, rfl⟩
  | some number => exact .ok ⟨rfl, rfl⟩

theorem resolveDecided_related (alike : seen.ReadsAlike notes) (inclusion : Inclusion) :
    Related (fun outcome after => after.onWire = outcome.onWire)
      (context.resolveDecided next inclusion seen)
      (context.resolveDecided next inclusion (seen.withAnnotations notes)) := by
  apply Related.bind (related_of_eq (alike.shape context.types))
  rintro _ shape rfl
  split
  · exact .ok rfl
  · apply Related.bind (numberField_related alike inclusion)
    rintro _ after ⟨rfl, same⟩
    rw [same]
    split
    · apply Related.bind (planField_related alike shape inclusion after.number after.isExplicit)
      intro planned plannedAfter agree
      exact .ok (congrArg FieldOutcome.planned agree)
    · exact .ok rfl

/-- One step of the two runs. -/
theorem resolveField_related {before after : DeclaredField}
    (changes : before.ChangesElsewhere message after) :
    Related (fun outcome other => other.onWire = outcome.onWire)
      (context.resolveField composite message next before)
      (context.resolveField composite message next after) := by
  apply Related.bind (related_of_eq (changes.inclusion context.model composite))
  rintro _ inclusion rfl
  cases inclusion with
  | drop => exact .ok rfl
  | keep =>
      apply Related.bind changes.forMessage
      rintro seen _ ⟨notes, rfl, alike⟩
      exact resolveDecided_related alike .keep
  | dropAndReserve =>
      apply Related.bind changes.forMessage
      rintro seen _ ⟨notes, rfl, alike⟩
      exact resolveDecided_related alike .dropAndReserve

/-- The whole runs: they keep the same count. -/
theorem resolveFields_related {fields others : List DeclaredField}
    (changes : List.Forall₂ (DeclaredField.ChangesElsewhere message) fields others) :
    Related (fun outcomes after =>
        after.map FieldOutcome.onWire = outcomes.map FieldOutcome.onWire)
      (context.resolveFields composite message next fields)
      (context.resolveFields composite message next others) := by
  induction changes generalizing next with
  | nil => exact .ok rfl
  | cons head _ ih =>
      apply Related.bind (resolveField_related head)
      intro outcome after same
      -- Whether a field took an automatic number shows on the wire, so the counters keep in step.
      have count : after.nextNumber next = outcome.nextNumber next := by
        rw [← after.nextNumber_onWire, same, outcome.nextNumber_onWire]
      rw [count]
      apply Related.bind ih
      intro outcomes further agree
      exact .ok (by rw [List.map_cons, List.map_cons, same, agree])

end SchemaContext

/-! ## The whole plan -/

theorem DeclaredField.isLeftOut_withType (field : DeclaredField) (type : TypeExpr)
    (message : Value) : { field with type }.isLeftOut message = field.isLeftOut message := by
  have own : { field with type }.fieldAnnotations message = field.fieldAnnotations message := by
    rw [fieldAnnotations, fieldAnnotations, forMessage_eq, forMessage_eq]
    split <;> rfl
  rw [isLeftOut, isLeftOut, own]
  rfl

/-- The same field under another declared type. -/
theorem DeclaredField.ChangesElsewhere.withType {message : Value} {before after : DeclaredField}
    (changes : before.ChangesElsewhere message after) (retype : TypeExpr → TypeExpr) :
    DeclaredField.ChangesElsewhere message { before with type := retype before.type }
      { after with type := retype after.type } where
  others := by
    rw [changes.others]
    rfl
  notes := changes.notes
  reservation left :=
    changes.reservation ((before.isLeftOut_withType (retype before.type) message).symm.trans left)

theorem Composite.ChangesElsewhere.matches {message : Value} {before after : Composite}
    (changes : before.ChangesElsewhere message after) :
    before.Matches (DeclaredField.ChangesElsewhere message) after where
  others := by
    rw [changes.others]
    rfl
  fields := changes.fields

namespace Model

variable {message : Value} {model changed : Model} {composite edited : Composite}

theorem aliasesOf_of_changesElsewhere {composites others : List Composite}
    (changes : List.Forall₂ (Composite.ChangesElsewhere message) composites others) :
    TypeTable.aliasesOf others = TypeTable.aliasesOf composites := by
  apply filterMap_of_forall₂ _ _ changes
  intro before after same
  rw [same.others]
  rfl

theorem ChangesElsewhere.matches (changes : model.ChangesElsewhere message changed) :
    model.Matches (DeclaredField.ChangesElsewhere message) changed where
  others := changes.others
  composites := changes.composites.imp fun _ _ same => same.matches

theorem resolvedFields_related (changes : model.ChangesElsewhere message changed)
    (same : composite.ChangesElsewhere message edited) :
    Related (List.Forall₂ (DeclaredField.ChangesElsewhere message))
      (model.resolvedFields composite) (changed.resolvedFields edited) :=
  changes.matches.resolvedFields same.matches fun field => field.withType

end Model

/-- Outcomes that are the same on the wire make plans that are. -/
theorem MessagePlan.onWire_of_outcomes {composite edited : Composite} {message : Value}
    {statements : MessageStatements} {outcomes after : List FieldOutcome}
    (same : after.map FieldOutcome.onWire = outcomes.map FieldOutcome.onWire) :
    (MessagePlan.ofOutcomes edited message statements after).onWire =
      (MessagePlan.ofOutcomes composite message statements outcomes).onWire := by
  have fields : ∀ list : List FieldOutcome,
      (list.filterMap FieldOutcome.planned?).map PlannedField.onWire =
        (list.map FieldOutcome.onWire).filterMap FieldOutcome.planned? := by
    intro list
    rw [List.map_filterMap, List.filterMap_map]
    congr 1
    funext outcome
    cases outcome <;> rfl
  have numbers : ∀ list : List FieldOutcome,
      (list.filterMap FieldOutcome.retired?).map (·.number) =
        ((list.map FieldOutcome.onWire).filterMap FieldOutcome.retired?).map (·.number) := by
    intro list
    rw [List.map_filterMap, List.map_filterMap, List.filterMap_map]
    congr 1
    funext outcome
    cases outcome <;> rfl
  simp only [MessagePlan.onWire, MessagePlan.reservedNumbers, MessagePlan.ofOutcomes]
  rw [fields after, fields outcomes, numbers after, numbers outcomes, same]

namespace SchemaContext

/-- What annotations of other messages say is not felt in a message.  Change parameters of any of
them, in any fields of any types, apart from the scope itself, from what a `map` annotation gives,
and from what decides that the number of a field that the message leaves out is reserved.  Then the
message has a plan in the same cases, and with the same fields and the same reserved numbers on the
wire. -/
theorem plan_scoped {model changed : Model} {composite edited : Composite} {message : Value}
    (models : model.ChangesElsewhere message changed)
    (composites : composite.ChangesElsewhere message edited) (options : Options) :
    ((SchemaContext.of changed options).plan edited message).map MessagePlan.onWire =
      ((SchemaContext.of model options).plan composite message).map MessagePlan.onWire := by
  have context := of_withComposites options (Model.aliasesOf_of_changesElsewhere models.composites)
  have statements : edited.statements message = composite.statements message := by
    rw [composites.others]
    rfl
  apply Related.map_eq
  apply Related.bind (related_of_eq statements)
  rintro _ stated rfl
  apply Related.bind (Model.resolvedFields_related models composites)
  intro fields others agree
  have run : (SchemaContext.of changed options).resolveFields edited message options.startNumber
      others = (SchemaContext.of model options).resolveFields composite message
        options.startNumber others := by
    rw [models.others, context, composites.others, resolveFields_withComposites]
  have runs : Related _ ((SchemaContext.of model options).resolveFields composite message
      options.startNumber fields) _ := resolveFields_related agree
  rw [← run] at runs
  apply Related.bind runs
  intro outcomes after same
  exact .ok (MessagePlan.onWire_of_outcomes same)

def sharedType (notes : List Annotation) : Composite where
  name := .text "User"
  fields :=
    [{ name := .text "Mail", type := .named "string" "", annotations := notes },
      { name := .text "Name", type := .named "string" "" }]

def sharedPlan (notes : List Annotation) : Asked (List PlannedField × List Int) :=
  ((SchemaContext.of { composites := [sharedType notes] } {}).plan (sharedType notes)
    (.text "Y")).map MessagePlan.onWire

def noteFor (message name : String) (params : List (String × ParamValue)) : Annotation where
  name := .text name
  params := ("for", .text message) :: params

/-- Annotations for two messages, and others that differ in those for the first one. -/
def notesBefore : List Annotation :=
  [noteFor "X" "field" [("number", .text "7")], noteFor "X" "ignore" [],
    noteFor "Y" "field" [("number", .text "3")]]

@[inherit_doc notesBefore]
def notesAfter : List Annotation :=
  [noteFor "X" "field" [("name", .text "e_mail"), ("number", .text "8")],
    noteFor "X" "ignore" [("reserved", .bool true)], noteFor "Y" "field" [("number", .text "3")]]

theorem plan_scoped_sharedType :
    sharedPlan notesAfter = sharedPlan notesBefore ∧
      (sharedPlan notesBefore).toOption.map (fun wire => (wire.1.map (·.number), wire.2)) =
        some ([3, 1], []) := by
  have first : AlikeNote (.text "Y") (noteFor "X" "field" [("number", .text "7")])
      (noteFor "X" "field" [("name", .text "e_mail"), ("number", .text "8")]) :=
    .inr ⟨rfl, rfl, ⟨_, rfl, by decide +kernel⟩, fun named => absurd named (by decide +kernel)⟩
  have second : AlikeNote (.text "Y") (noteFor "X" "ignore" [])
      (noteFor "X" "ignore" [("reserved", .bool true)]) :=
    .inr ⟨rfl, rfl, ⟨_, rfl, by decide +kernel⟩, fun named => absurd named (by decide +kernel)⟩
  have notes : List.Forall₂ (AlikeNote (.text "Y")) notesBefore notesAfter :=
    .cons first (.cons second (.cons (.inl rfl) .nil))
  have types : Composite.ChangesElsewhere (.text "Y") (sharedType notesBefore)
      (sharedType notesAfter) :=
    ⟨rfl, .cons ⟨rfl, notes, fun left => absurd left (by decide +kernel)⟩
      (.cons ⟨rfl, .nil, fun _ => rfl⟩ .nil)⟩
  exact ⟨plan_scoped ⟨rfl, .cons types .nil⟩ types {}, by decide +kernel⟩

/-- Without the two provisos the law fails.  A `map` annotation for another message changes numbers,
and `reserved` of an `ignore` annotation for another message reserves the number of a field that the
message leaves out by itself. -/
theorem plan_not_scoped :
    (ParamValue.text "X").selects (.text "Y") = false ∧
    sharedPlan [noteFor "X" "map" [("key", .text "string"), ("value", .text "int32"),
        ("number", .text "9")]] ≠
      sharedPlan [noteFor "X" "map" [("key", .text "string"), ("value", .text "int32")]] ∧
    sharedPlan [noteFor "X" "ignore" [("reserved", .bool true)], noteFor "Y" "omit" []] ≠
      sharedPlan [noteFor "X" "ignore" [], noteFor "Y" "omit" []] := by
  refine ⟨by decide +kernel, ?_, ?_⟩
  all_goals
    intro same
    have numbers := congrArg (fun plan => plan.toOption.map fun wire =>
      (wire.1.map (·.number), wire.2)) same
    revert numbers
    decide +kernel

end SchemaContext

end WireSchema
