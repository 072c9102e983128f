import WireSchema.Proofs.Document.Pointwise
import WireSchema.Proofs.Model.Undocumented
import WireSchema.Validation.Check

namespace WireSchema

/-!
# Plans without documentation

The plan of a message without documentation is the plan of the message, but for descriptions.  So is
every service, and what is found on a unit does not change at all.  The runs with and without
documentation are compared step by step, failures included: a description is only asked for where
the names of its annotations have been read before, so it never fails on its own.
-/

open Asked

/-! ## Readers of fields -/

namespace DeclaredField

variable (field : DeclaredField) (model : Model) (message : Value) (table : TypeTable)

@[simp] theorem name_undocumented : field.undocumented.name = field.name := rfl

@[simp] theorem type_undocumented : field.undocumented.type = field.type := rfl

@[simp] theorem annotations_undocumented :
    field.undocumented.annotations = undescribed field.annotations := rfl

@[simp] theorem tagOf_undocumented :
    model.undocumented.tagOf field.undocumented = model.tagOf field := rfl

@[simp] theorem isExported_undocumented : field.undocumented.isExported = field.isExported := rfl

@[simp] theorem isScopedOut_undocumented :
    field.undocumented.isScopedOut message = field.isScopedOut message := by
  simp [isScopedOut]

@[simp] theorem isForeign_undocumented :
    field.undocumented.isForeign model.undocumented message = field.isForeign model message := by
  simp [isForeign]

@[simp] theorem forMessage_undocumented :
    field.undocumented.forMessage message = (field.forMessage message).map undocumented := by
  have seen : ∀ note : Annotation, isSeenBy message note.undescribed = isSeenBy message note := by
    intro note
    simp [isSeenBy]
  simp only [forMessage_eq, annotations_undocumented, all_hasTextName_undescribed,
    filter_undescribed, seen]
  split
  · rfl
  · rfl

@[simp] theorem fieldAnnotations_undocumented :
    field.undocumented.fieldAnnotations message =
      (field.fieldAnnotations message).map undescribed := by
  simp [fieldAnnotations, map_bind_eq]

@[simp] theorem skipAnnotations_undocumented :
    field.undocumented.skipAnnotations = field.skipAnnotations.map undescribed := by
  simp [skipAnnotations]

@[simp] theorem isLeftOut_undocumented :
    field.undocumented.isLeftOut message = field.isLeftOut message := by
  have drops : ∀ note : Annotation,
      dropsByParameter message note.undescribed = dropsByParameter message note := by
    intro note
    simp [dropsByParameter]
  simp [isLeftOut, drops]

@[simp] theorem asksReservation_undocumented :
    field.undocumented.asksReservation message = field.asksReservation message := by
  simp [asksReservation]

@[simp] theorem explicitNumber?_undocumented :
    field.undocumented.explicitNumber? model.undocumented = field.explicitNumber? model := by
  have numbers : ∀ note : Annotation, positiveNumber? note.undescribed = positiveNumber? note := by
    intro note
    simp [positiveNumber?]
  simp [explicitNumber?, numbers]

@[simp] theorem schemaName_undocumented :
    field.undocumented.schemaName model.undocumented = field.schemaName model := by
  simp [schemaName]

@[simp] theorem fieldOptions_undocumented :
    field.undocumented.fieldOptions model.undocumented = field.fieldOptions model := by
  have each : ∀ note : Annotation,
      FieldOption.ofAnnotation note.undescribed = FieldOption.ofAnnotation note := by
    intro note
    simp [FieldOption.ofAnnotation, FieldOption.ofFieldNote, FieldOption.ofOptionNote]
  have all : ∀ notes : List Annotation,
      FieldOption.ofAnnotations (undescribed notes) = FieldOption.ofAnnotations notes := by
    intro notes
    induction notes with
    | nil => rfl
    | cons note notes ih =>
        rw [FieldOption.ofAnnotations, ← ih, ← each note]
        rfl
  simp [fieldOptions, all]

@[simp] theorem annotatedMap?_undocumented :
    field.undocumented.annotatedMap? = field.annotatedMap? := by
  have stated : ∀ note : Annotation, statedMap? note.undescribed = statedMap? note := by
    intro note
    simp [statedMap?]
  simp [annotatedMap?, stated]

@[simp] theorem hasFlag_undocumented {flag : String} (other : flag ≠ "description") :
    field.undocumented.hasFlag flag = field.hasFlag flag := by
  simp [hasFlag, other]

@[simp] theorem shape_undocumented : field.undocumented.shape table = field.shape table := by
  have declared : field.undocumented.declaredShape table = field.declaredShape table := by
    rw [declaredShape, declaredShape, type_undocumented]
    cases field.type <;> simp
  simp [shape, declared]

@[simp] theorem mapTypes_undocumented :
    field.undocumented.mapTypes table = field.mapTypes table := by
  simp [mapTypes]

/-- Whoever has read the name of a field knows that its annotations have texts for names. -/
theorem hasTextNames_of_schemaName {name : String} (found : field.schemaName model = .ok name) :
    field.annotations.all Annotation.hasTextName = true := by
  rcases bind_eq_ok_iff.mp found with ⟨stated, first, -⟩
  rcases bind_eq_ok_iff.mp first with ⟨notes, named, -⟩
  exact (annotationsNamed_eq_ok_iff.mp named).1

end DeclaredField

/-! ## Readers of composite types -/

namespace Composite

variable (composite : Composite) (message : Value)

@[simp] theorem name_undocumented : composite.undocumented.name = composite.name := rfl

@[simp] theorem annotations_undocumented :
    composite.undocumented.annotations = undescribed composite.annotations := rfl

@[simp] theorem isMessage_undocumented :
    composite.undocumented.isMessage = composite.isMessage := by
  have generic : composite.undocumented.isGeneric = composite.isGeneric := rfl
  simp [isMessage, generic]

@[simp] theorem messageAnnotations_undocumented :
    composite.undocumented.messageAnnotations = composite.messageAnnotations.map undescribed := by
  simp [messageAnnotations]

@[simp] theorem nameOr_undescribed (declared : Value) (note : Annotation) :
    nameOr declared note.undescribed = nameOr declared note := by
  simp [nameOr]

@[simp] theorem messageNames_undocumented :
    composite.undocumented.messageNames = composite.messageNames := by
  have default : composite.undocumented.defaultMessageName = composite.defaultMessageName := by
    simp [defaultMessageName, Function.comp_def]
  have names : ∀ (name : Value) (notes : List Annotation),
      (undescribed notes).map (nameOr name) = notes.map (nameOr name) := by
    intro name notes
    simp [undescribed, Function.comp_def]
  simp [messageNames, default, names]

@[simp] theorem reservedAnnotations_undocumented :
    composite.undocumented.reservedAnnotations message =
      (composite.reservedAnnotations message).map undescribed := by
  simp [reservedAnnotations, map_bind_eq]

@[simp] theorem declaredNumbers_undocumented :
    composite.undocumented.declaredNumbers message = composite.declaredNumbers message := by
  simp [declaredNumbers]

@[simp] theorem declaredNames_undocumented :
    composite.undocumented.declaredNames message = composite.declaredNames message := by
  simp [declaredNames]

@[simp] theorem reservesAll_undocumented :
    composite.undocumented.reservesAll message = composite.reservesAll message := by
  have concerns : ∀ note : Annotation,
      concernsMessage message note.undescribed = concernsMessage message note := by
    intro note
    simp [concernsMessage]
  have reserves : ∀ note : Annotation, reservesSkipped note.undescribed = reservesSkipped note := by
    intro note
    simp [reservesSkipped]
  simp only [reservesAll, messageAnnotations_undocumented, map_bind, find?_undescribed, concerns,
    Annotation.has_undescribed _ (show "reserved" ≠ "description" by decide),
    reservedAnnotations_undocumented, any_undescribed, reserves]
  congr 1
  funext notes
  cases notes.find? fun note => concernsMessage message note && note.has "reserved" with
  | none => rfl
  | some note => simp

@[simp] theorem inclusion_undocumented (model : Model) (field : DeclaredField) :
    field.undocumented.inclusion model.undocumented composite.undocumented message =
      field.inclusion model composite message := by
  simp [DeclaredField.inclusion]

end Composite

/-! ## Readers of enumerations -/

namespace EnumValue

variable (value : EnumValue)

@[simp] theorem annotations_undocumented :
    value.undocumented.annotations = undescribed value.annotations := rfl

@[simp] theorem schemaName_undocumented : value.undocumented.schemaName = value.schemaName := by
  have name : value.undocumented.name = value.name := rfl
  simp [schemaName, name]

@[simp] theorem number_undocumented : value.undocumented.number = value.number := by
  have index : value.undocumented.index = value.index := rfl
  simp [number, index, Function.comp_def]

end EnumValue

namespace EnumType

variable (enum : EnumType)

@[simp] theorem annotations_undocumented :
    enum.undocumented.annotations = undescribed enum.annotations := rfl

@[simp] theorem schemaName_undocumented : enum.undocumented.schemaName = enum.schemaName := by
  have name : enum.undocumented.name = enum.name := rfl
  simp [schemaName, name]

@[simp] theorem allowsAlias_undocumented : enum.undocumented.allowsAlias = enum.allowsAlias := by
  simp [allowsAlias]

@[simp] theorem isWritten_undocumented : enum.undocumented.isWritten = enum.isWritten := by
  simp [isWritten]

end EnumType

/-! ## Outcomes of fields -/

/-- A field of a message with and without documentation, described in one line in both cases. -/
def PlannedField.Redescribed (planned other : PlannedField) : Prop :=
  planned.description.IsOneLine ∧ ∃ description : Value, description.IsOneLine ∧
    other = { planned with field := planned.field.undocumented, description }

def NumberedField.undocumented (numbered : NumberedField) : NumberedField :=
  { numbered with field := numbered.field.undocumented }

/-- What becomes of a field with and without documentation.  Dropped fields leave
nothing behind; the others note the field that they come from, which has lost
its documentation. -/
inductive FieldOutcome.Redescribed : FieldOutcome → FieldOutcome → Prop where
  | dropped : Redescribed .dropped .dropped
  | unsupported (field : DeclaredField) :
      Redescribed (.unsupported field) (.unsupported field.undocumented)
  | retired (numbered : NumberedField) :
      Redescribed (.retired numbered) (.retired numbered.undocumented)
  | planned {planned other : PlannedField} (same : planned.Redescribed other) :
      Redescribed (.planned planned) (.planned other)

theorem FieldOutcome.Redescribed.nextNumber {outcome other : FieldOutcome}
    (same : outcome.Redescribed other) (next : Int) :
    other.nextNumber next = outcome.nextNumber next := by
  cases same with
  | dropped => rfl
  | unsupported field => rfl
  | retired numbered => rfl
  | planned same =>
      rcases same with ⟨-, description, -, rfl⟩
      rfl

/-- What is planned, retired and unsupported of fields with and without documentation. -/
theorem FieldOutcome.parts_of_redescribed {outcomes others : List FieldOutcome}
    (same : List.Forall₂ FieldOutcome.Redescribed outcomes others) :
    List.Forall₂ PlannedField.Redescribed (outcomes.filterMap planned?)
        (others.filterMap planned?) ∧
      others.filterMap retired? = (outcomes.filterMap retired?).map NumberedField.undocumented ∧
      others.filterMap unsupported? =
        (outcomes.filterMap unsupported?).map DeclaredField.undocumented := by
  induction same with
  | nil => exact ⟨.nil, rfl, rfl⟩
  | cons head _ ih =>
      rcases ih with ⟨fields, retired, unsupported⟩
      cases head with
      | dropped => exact ⟨fields, retired, unsupported⟩
      | unsupported field => exact ⟨fields, retired, congrArg (field.undocumented :: ·) unsupported⟩
      | retired numbered =>
          exact ⟨fields, congrArg (numbered.undocumented :: ·) retired, unsupported⟩
      | planned same => exact ⟨.cons same fields, retired, unsupported⟩

namespace SchemaContext

/-- A context whose model is not documented. -/
def undocumented (context : SchemaContext) : SchemaContext :=
  { context with model := context.model.undocumented }

/-- What the types of a model become does not depend on its documentation. -/
theorem of_undocumented (model : Model) (options : Options) :
    of model.undocumented options = (of model options).undocumented := by
  have aliases : TypeTable.aliasesOf model.undocumented.composites =
      TypeTable.aliasesOf model.composites := by
    rw [TypeTable.aliasesOf, TypeTable.aliasesOf, Model.undocumented, List.filterMap_map]
    rfl
  rw [of, TypeTable.ofOptions, aliases]
  rfl

variable {context : SchemaContext} {composite : Composite} {message : Value} {next : Int}
  {field : DeclaredField}

theorem numberField_undocumented (inclusion : Inclusion) :
    context.undocumented.numberField next field.undocumented inclusion =
      (context.numberField next field inclusion).map NumberedField.undocumented := by
  have number : field.undocumented.explicitNumber? context.undocumented.model =
      field.explicitNumber? context.model := field.explicitNumber?_undocumented context.model
  rw [numberField, numberField, number, map_bind_eq]
  congr 1
  funext found
  cases found <;> rfl

theorem schemaType_undocumented :
    field.undocumented.schemaType context.undocumented = field.schemaType context := by
  have tag : context.undocumented.model.tagOf field.undocumented = context.model.tagOf field := rfl
  have types : context.undocumented.types = context.types := rfl
  simp [DeclaredField.schemaType, tag, types]

theorem related_planField (shape : FieldShape) {numbered : NumberedField}
    (inLine : IsDescribedInLine numbered.field.annotations numbered.field.doc) :
    Related PlannedField.Redescribed (context.planField shape numbered)
      (context.undocumented.planField shape numbered.undocumented) := by
  have name : numbered.field.undocumented.schemaName context.undocumented.model =
      numbered.field.schemaName context.model :=
        numbered.field.schemaName_undocumented context.model
  apply Related.bind_same name
  intro name found
  have named := numbered.field.hasTextNames_of_schemaName context.model found
  apply Related.bind_same schemaType_undocumented
  intro type _
  apply Related.bind_same (numbered.field.fieldOptions_undocumented context.model)
  intro options _
  apply Related.bind (related_descriptionOf named inLine)
  rintro before after ⟨single, singleAgain⟩
  dsimp only
  split
  · apply Related.bind_same (numbered.field.mapTypes_undocumented context.types)
    intro mapTypes _
    exact .ok ⟨single, after, singleAgain, rfl⟩
  · exact .ok ⟨single, after, singleAgain, rfl⟩

theorem related_resolveDecided (inclusion : Inclusion)
    (inLine : IsDescribedInLine field.annotations field.doc) :
    Related FieldOutcome.Redescribed (context.resolveDecided next inclusion field)
      (context.undocumented.resolveDecided next inclusion field.undocumented) := by
  apply Related.bind_same (field.shape_undocumented context.types)
  intro shape _
  split
  · exact .ok (.unsupported field)
  · rw [numberField_undocumented, map_bind]
    apply Related.bind_same rfl
    intro numbered counted
    have same : numbered.field = field := by
      rcases bind_eq_ok_iff.mp counted with ⟨number, -, final⟩
      cases number <;> cases final <;> rfl
    split
    · apply Related.bind (related_planField shape (by rwa [same]))
      intro planned other redescribed
      exact .ok (.planned redescribed)
    · exact .ok (.retired numbered)

/-- A message sees a field with fewer annotations, described in one line like all of them. -/
theorem isInLine_forMessage {seen : DeclaredField}
    (inLine : IsDescribedInLine field.annotations field.doc)
    (found : field.forMessage message = .ok seen) :
      IsDescribedInLine seen.annotations seen.doc := by
  rcases bind_eq_ok_iff.mp found with ⟨notes, kept, final⟩
  cases final
  exact ⟨fun note member => inLine.notes note (mem_of_mem_keepWhere kept member), inLine.doc⟩

theorem related_resolveField (inLine : IsDescribedInLine field.annotations field.doc) :
    Related FieldOutcome.Redescribed (context.resolveField composite message next field)
      (context.undocumented.resolveField composite.undocumented message next
        field.undocumented) := by
  apply Related.bind_same (composite.inclusion_undocumented message context.model field)
  intro inclusion _
  cases inclusion with
  | drop => exact .ok .dropped
  | keep | dropAndReserve =>
      dsimp only
      rw [field.forMessage_undocumented, map_bind]
      apply Related.bind_same rfl
      intro seen found
      exact related_resolveDecided _ (isInLine_forMessage inLine found)

/-- The whole runs: they keep the same count. -/
theorem related_resolveFields {fields : List DeclaredField}
    (inLine : ∀ field ∈ fields, IsDescribedInLine field.annotations field.doc) :
    Related (List.Forall₂ FieldOutcome.Redescribed)
      (context.resolveFields composite message next fields)
      (context.undocumented.resolveFields composite.undocumented message next
        (fields.map DeclaredField.undocumented)) := by
  induction fields generalizing next with
  | nil => exact .ok .nil
  | cons field fields ih =>
      apply Related.bind (related_resolveField (inLine field List.mem_cons_self))
      intro outcome other same
      rw [same.nextNumber]
      apply Related.bind (ih fun later member => inLine later (List.mem_cons_of_mem field member))
      intro outcomes others rest
      exact .ok (.cons same rest)

end SchemaContext

/-! ## Plans -/

namespace Model

variable (model : Model) (composite : Composite)

theorem composite?_undocumented (name : Value) :
    model.undocumented.composite? name = (model.composite? name).map Composite.undocumented := by
  rw [composite?, undocumented, List.find?_map]
  rfl

/-- An alias stands for the same template, without its documentation. -/
theorem aliasBinding?_undocumented :
    model.undocumented.aliasBinding? composite.undocumented =
      (model.aliasBinding? composite).map (Option.map fun binding =>
        { binding with template := binding.template.map Composite.undocumented }) := by
  have target : composite.undocumented.target? = composite.target? := rfl
  rw [aliasBinding?, aliasBinding?, target]
  cases composite.target? with
  | none => rfl
  | some name =>
      simp only [composite?_undocumented]
      cases model.composite? name with
      | none => rfl
      | some template =>
          rw [Option.map_some]
          simp only [map_bind_eq]
          rfl

theorem resolvedFields_undocumented :
    model.undocumented.resolvedFields composite.undocumented =
      (model.resolvedFields composite).map (List.map DeclaredField.undocumented) := by
  rw [resolvedFields, resolvedFields, aliasBinding?_undocumented, map_bind, map_bind_eq]
  congr 1
  funext binding
  cases binding with
  | none => rfl
  | some binding =>
      have inherited : ((binding.template.map Composite.undocumented).map (·.fields)).getD [] =
          ((binding.template.map (·.fields)).getD []).map DeclaredField.undocumented := by
        cases binding.template <;> rfl
      have own : composite.undocumented.fields =
          composite.fields.map DeclaredField.undocumented := rfl
      simp only [Option.map_some, inherited, own, List.isEmpty_map, pure_eq_ok, map_ok]
      congr 1
      split
      · rw [List.map_map, List.map_map]
        rfl
      · rw [List.map_map, List.map_map]
        rfl

variable {model composite}

/-- The template of an alias is a composite type of the model. -/
theorem template_mem {binding : AliasBinding} {template : Composite}
    (bound : model.aliasBinding? composite = .ok (some binding))
    (found : binding.template = some template) : template ∈ model.composites := by
  unfold aliasBinding? at bound
  split at bound
  · cases bound
  · split at bound
    · cases bound
      cases found
    · rename_i looked
      rcases bind_eq_ok_iff.mp bound with ⟨bindings, -, final⟩
      cases final
      cases found
      exact List.mem_of_find?_eq_some looked

theorem isInLine_resolvedFields {fields : List DeclaredField}
    (templates : ∀ other ∈ model.composites, other.IsInLine) (inLine : composite.IsInLine)
    (found : model.resolvedFields composite = .ok fields) :
    ∀ field ∈ fields, IsDescribedInLine field.annotations field.doc := by
  rcases bind_eq_ok_iff.mp found with ⟨binding, bound, final⟩
  cases binding with
  | none =>
      cases final
      exact inLine.fields
  | some binding =>
      cases final
      intro field member
      rcases List.mem_map.mp member with ⟨original, declared, rfl⟩
      split at declared
      · cases template : binding.template with
        | none =>
            rw [template] at declared
            cases declared
        | some other =>
            rw [template] at declared
            exact (templates other (template_mem bound template)).fields original declared
      · exact inLine.fields original declared

end Model

/-- A message with and without documentation, described in one line in both cases. -/
structure MessagePlan.Redescribed (plan other : MessagePlan) : Prop where
  name : other.name = plan.name
  description : AreInLine plan.description other.description
  fields : List.Forall₂ PlannedField.Redescribed plan.fields other.fields
  declaredNumbers : other.declaredNumbers = plan.declaredNumbers
  retired : other.retired = plan.retired.map NumberedField.undocumented
  reservedNames : other.reservedNames = plan.reservedNames
  unsupported : other.unsupported = plan.unsupported.map DeclaredField.undocumented

namespace Composite

variable {composite : Composite} {message : Value}

theorem related_messageDescription (named : composite.annotations.all Annotation.hasTextName = true)
    (inLine : IsDescribedInLine composite.annotations composite.doc) :
    Related AreInLine (composite.messageDescription message)
      (composite.undocumented.messageDescription message) := by
  have own : composite.messageAnnotations =
      .ok (composite.annotations.filter (·.isNamed ["message"])) := annotationsNamed_of_text named
  have silent : ∀ note : Annotation, nonempty? (note.undescribed.string "description") = none := by
    intro note
    unfold Annotation.string Annotation.string?
    rw [note.get?_undescribed_self]
    rfl
  rcases exists_descriptionOf (by simpa using named) inLine.undescribed with
    ⟨further, foundAgain, singleAgain⟩
  have after : composite.undocumented.messageDescription message = .ok further := by
    simp only [messageDescription, messageAnnotations_undocumented, map_bind, own, ok_bind,
      filter_undescribed, findSome?_undescribed, silent]
    rw [List.findSome?_eq_none_iff.mpr fun _ _ => rfl]
    exact foundAgain
  rw [after, messageDescription, own, ok_bind]
  cases stated : List.findSome? (fun note => nonempty? (note.string "description"))
      ((composite.annotations.filter (·.isNamed ["message"])).filter
        (composite.describesMessage message)) with
  | none =>
      rcases exists_descriptionOf named inLine with ⟨description, found, single⟩
      simp only [found]
      exact .ok ⟨single, singleAgain⟩
  | some text =>
      rcases List.exists_of_findSome?_eq_some stated with ⟨note, member, given⟩
      have declared := (List.mem_filter.mp (List.mem_filter.mp member).1).1
      have single := (inLine.notes note declared).description
      rw [← nonempty?_eq_some given] at single
      exact .ok ⟨single, singleAgain⟩

theorem related_statements (inLine : IsDescribedInLine composite.annotations composite.doc) :
    Related (fun before after => after.declaredNumbers = before.declaredNumbers ∧
        after.reservedNames = before.reservedNames ∧ AreInLine before.description after.description)
      (composite.statements message) (composite.undocumented.statements message) := by
  apply Related.bind_same (composite.declaredNumbers_undocumented message)
  intro numbers counted
  have named : composite.annotations.all Annotation.hasTextName = true := by
    rcases bind_eq_ok_iff.mp counted with ⟨notes, reserved, -⟩
    rcases bind_eq_ok_iff.mp reserved with ⟨found, first, -⟩
    exact (annotationsNamed_eq_ok_iff.mp first).1
  apply Related.bind_same (composite.declaredNames_undocumented message)
  intro names _
  apply Related.bind (related_messageDescription named inLine)
  intro before after single
  exact .ok ⟨rfl, rfl, single⟩

end Composite

theorem SchemaContext.related_plan {context : SchemaContext} {composite : Composite}
    {message : Value}
    (templates : ∀ other ∈ context.model.composites, other.IsInLine) (inLine : composite.IsInLine) :
    Related MessagePlan.Redescribed (context.plan composite message)
      (context.undocumented.plan composite.undocumented message) := by
  apply Related.bind (Composite.related_statements inLine.own)
  rintro stated other ⟨numbers, names, single⟩
  dsimp only
  have fields : context.undocumented.model.resolvedFields composite.undocumented =
      (context.model.resolvedFields composite).map (List.map DeclaredField.undocumented) :=
    context.model.resolvedFields_undocumented composite
  rw [fields, map_bind]
  apply Related.bind_same rfl
  intro fields found
  apply Related.bind (related_resolveFields (Model.isInLine_resolvedFields templates inLine found))
  intro outcomes others same
  exact .ok ⟨rfl, single, (FieldOutcome.parts_of_redescribed same).1, numbers,
    (FieldOutcome.parts_of_redescribed same).2.1, names,
      (FieldOutcome.parts_of_redescribed same).2.2⟩

theorem SchemaContext.related_messagePlans {context : SchemaContext} {composites : List Composite}
    (templates : ∀ other ∈ context.model.composites, other.IsInLine)
    (inLine : ∀ composite ∈ composites, composite.IsInLine) :
    Related (List.Forall₂ MessagePlan.Redescribed) (context.messagePlans composites)
      (context.undocumented.messagePlans (composites.map Composite.undocumented)) := by
  have each : ∀ composite ∈ composites, Related (List.Forall₂ MessagePlan.Redescribed)
      (context.plansIfMessage composite)
      (context.undocumented.plansIfMessage composite.undocumented) := by
    intro composite member
    apply Related.bind_same composite.isMessage_undocumented
    intro isMessage _
    cases isMessage with
    | false => exact .ok .nil
    | true =>
        apply Related.bind_same composite.messageNames_undocumented
        intro names _
        exact related_mapM (List.forall₂_same.mpr fun message _ =>
          related_plan templates (inLine composite member))
  have all := related_mapM (List.forall₂_map_right_iff.mpr (List.forall₂_same.mpr each))
  apply Related.bind all
  intro plans others same
  exact .ok (List.rel_flatten same)

/-! ## Services -/

/-- A method of a service with and without documentation. -/
def Rpc.Redescribed (rpc other : Rpc) : Prop :=
  rpc.description.IsOneLine ∧ ∃ description : Value, description.IsOneLine ∧
    other = { rpc with description, method := rpc.method.undocumented }

/-- A service with and without documentation, described in one line in both cases. -/
structure Service.Redescribed (service other : Service) : Prop where
  name : other.name = service.name
  sourceName : other.sourceName = service.sourceName
  fromComposite : other.fromComposite = service.fromComposite
  description : AreInLine service.description other.description
  rpcs : List.Forall₂ Rpc.Redescribed service.rpcs other.rpcs

namespace Rpc

@[simp] theorem statedOr_undescribed (note : Annotation) {param : String} (other : Value)
    (different : param ≠ "description") :
    statedOr note.undescribed param other = statedOr note param other := by
  simp [statedOr, different]

theorem statedOr_undescribed_self (note : Annotation) (other : Value) :
    statedOr note.undescribed "description" other = other := by
  rw [statedOr, Annotation.string, Annotation.string?, note.get?_undescribed_self]
  rfl

theorem redescribed_override {rpc other : Rpc} {note : Annotation} (same : rpc.Redescribed other)
    (inLine : note.DescribesInLine) :
    (rpc.override note).Redescribed (other.override note.undescribed) := by
  rcases same with ⟨single, description, singleAgain, rfl⟩
  have stated : (Value.text (note.string "description")).IsOneLine := inLine.description
  refine ⟨Value.isOneLine_orElse stated single, description, singleAgain, ?_⟩
  simp [override, statedOr_undescribed_self]

theorem redescribed_foldl {rpc other : Rpc} {notes : List Annotation}
    (same : rpc.Redescribed other) (inLine : ∀ note ∈ notes, note.DescribesInLine) :
    (notes.foldl override rpc).Redescribed ((undescribed notes).foldl override other) := by
  induction notes generalizing rpc other with
  | nil => exact same
  | cons note notes ih =>
      exact ih (redescribed_override same (inLine note List.mem_cons_self)) fun later member =>
        inLine later (List.mem_cons_of_mem note member)

end Rpc

theorem Method.related_toRpc {table : TypeTable} {method : Method}
    (inLine : IsDescribedInLine method.annotations method.doc) :
    Related Rpc.Redescribed (method.toRpc table) (method.undocumented.toRpc table) := by
  apply Related.bind_same rfl
  intro inputType _
  apply Related.bind_same rfl
  intro outputType _
  have notes : annotationsNamed ["rpc"] method.undocumented.annotations =
      (annotationsNamed ["rpc"] method.annotations).map undescribed :=
    annotationsNamed_undescribed _ method.annotations
  rw [notes, map_bind]
  apply Related.bind_same rfl
  intro found selected
  have declared : ∀ note ∈ found, note.DescribesInLine := by
    intro note member
    rw [← (annotationsNamed_eq_ok_iff.mp selected).2] at member
    exact inLine.notes note (List.mem_filter.mp member).1
  have plain : ('\n' : Char) ∉ (Value.text "").display.toList := by simp
  exact .ok (Rpc.redescribed_foldl ⟨inLine.doc, .text "", plain, rfl⟩ declared)

theorem related_serviceOf {table : TypeTable} {sourceName : Value} {notes : List Annotation}
    {methods : List Method} {doc : Value} {fromComposite : Bool}
    (inLine : IsDescribedInLine notes doc)
    (each : ∀ method ∈ methods, IsDescribedInLine method.annotations method.doc) :
    Related Service.Redescribed (serviceOf table sourceName notes methods doc fromComposite)
      (serviceOf table sourceName (undescribed notes) (methods.map Method.undocumented) (.text "")
        fromComposite) := by
  apply Related.bind_same (renamed_undescribed _ notes sourceName)
  intro name found
  have named : notes.all Annotation.hasTextName = true := by
    rcases bind_eq_ok_iff.mp found with ⟨stated, first, -⟩
    rcases bind_eq_ok_iff.mp first with ⟨selected, read, -⟩
    exact (annotationsNamed_eq_ok_iff.mp read).1
  have one : ∀ method ∈ methods, Related Rpc.Redescribed (method.toRpc table)
      (method.undocumented.toRpc table) :=
    fun method member => Method.related_toRpc (each method member)
  apply Related.bind (related_mapM (List.forall₂_map_right_iff.mpr (List.forall₂_same.mpr one)))
  intro rpcs others same
  apply Related.bind (related_descriptionOf named inLine)
  intro before after single
  exact .ok ⟨rfl, rfl, rfl, single, same⟩

/-- The selected functions are the same, without their documentation. -/
theorem keepWhere_map {α β : Type} {view : α → β} {test : α → Asked Bool} {other : β → Asked Bool}
    (same : ∀ item, other (view item) = test item) (items : List α) :
    keepWhere other (items.map view) = (keepWhere test items).map (List.map view) := by
  induction items with
  | nil => rfl
  | cons item items ih =>
      rw [List.map_cons, keepWhere, keepWhere, same, ih, map_bind_eq]
      congr 1
      funext kept
      rw [map_bind, map_bind_eq]
      congr 1
      funext others
      cases kept <;> rfl

theorem Model.receiverMethods_undocumented (model : Model) (composite : Composite) :
    model.undocumented.receiverMethods composite.undocumented =
      (model.receiverMethods composite).map (List.map Method.undocumented) := by
  have receives : ∀ function : ModelFunction,
      composite.undocumented.receives function.undocumented = composite.receives function := by
    intro function
    have notes : function.undocumented.toMethod.annotations =
      undescribed function.toMethod.annotations := rfl
    have receiver : function.undocumented.receiver = function.receiver := rfl
    simp [Composite.receives, notes, receiver]
  have functions : model.undocumented.functions =
      model.functions.map ModelFunction.undocumented := rfl
  rw [receiverMethods, receiverMethods, functions, keepWhere_map receives, map_bind, map_bind_eq]
  congr 1
  funext kept
  simp only [pure_eq_ok, map_ok, List.map_map]
  rfl

theorem related_serviceIfAsked {notes : List Annotation} {step other : Asked Service}
    (services : Related Service.Redescribed step other) :
    Related (List.Forall₂ Service.Redescribed) (serviceIfAsked notes step)
      (serviceIfAsked (undescribed notes) other) := by
  apply Related.bind_same (isService_undescribed notes)
  intro asked _
  cases asked with
  | false => exact .ok .nil
  | true =>
      apply Related.bind services
      intro service further same
      exact .ok (.cons same .nil)

theorem SchemaContext.related_services {context : SchemaContext} {contracts : List ServiceContract}
    {composites : List Composite}
    (functions : ∀ function ∈ context.model.functions,
      IsDescribedInLine function.toMethod.annotations function.toMethod.doc)
    (contractsInLine : ∀ contract ∈ contracts, contract.IsInLine)
    (compositesInLine : ∀ composite ∈ composites, composite.IsInLine) :
    Related (List.Forall₂ Service.Redescribed) (context.services contracts composites)
      (context.undocumented.services (contracts.map ServiceContract.undocumented)
        (composites.map Composite.undocumented)) := by
  have ofContract : ∀ contract ∈ contracts, Related (List.Forall₂ Service.Redescribed)
      (serviceIfAsked contract.annotations (contract.toService context.types))
      (serviceIfAsked contract.undocumented.annotations
        (contract.undocumented.toService context.undocumented.types)) := by
    intro contract member
    have inLine := contractsInLine contract member
    exact related_serviceIfAsked (related_serviceOf inLine.own inLine.methods)
  have ofComposite : ∀ composite ∈ composites, Related (List.Forall₂ Service.Redescribed)
      (serviceIfAsked composite.annotations (composite.toService context.model context.types))
      (serviceIfAsked composite.undocumented.annotations
        (composite.undocumented.toService context.undocumented.model
          context.undocumented.types)) := by
    intro composite member
    apply related_serviceIfAsked
    have methods : context.undocumented.model.receiverMethods composite.undocumented =
        (context.model.receiverMethods composite).map (List.map Method.undocumented) :=
      context.model.receiverMethods_undocumented composite
    rw [Composite.toService, Composite.toService, methods, map_bind]
    apply Related.bind_same rfl
    intro received found
    refine related_serviceOf (compositesInLine composite member).own fun method among => ?_
    rcases bind_eq_ok_iff.mp found with ⟨kept, selected, final⟩
    cases final
    rcases List.mem_map.mp among with ⟨function, present, rfl⟩
    exact functions function (mem_of_mem_keepWhere selected present)
  apply Related.bind (related_mapM (List.forall₂_map_right_iff.mpr
    (List.forall₂_same.mpr ofContract)))
  intro first firstAgain sameFirst
  apply Related.bind (related_mapM (List.forall₂_map_right_iff.mpr
    (List.forall₂_same.mpr ofComposite)))
  intro second secondAgain sameSecond
  exact .ok (List.rel_append (List.rel_flatten sameFirst) (List.rel_flatten sameSecond))

theorem MessagePlan.Redescribed.reservedNumbers {plan other : MessagePlan}
    (same : plan.Redescribed other) : other.reservedNumbers = plan.reservedNumbers := by
  rw [MessagePlan.reservedNumbers, same.declaredNumbers, same.retired, List.map_map]
  rfl

/-! ## Validation -/

namespace Validation

variable {context : SchemaContext} {schema : SchemaUnit}

theorem fieldFindings_of_redescribed {planned others : List PlannedField}
    (same : List.Forall₂ PlannedField.Redescribed planned others) (options : Options)
    (message : String) (reserved : List Int) (owners : List (Int × String)) :
    fieldFindings options message reserved owners others =
      fieldFindings options message reserved owners planned := by
  induction same generalizing owners with
  | nil => rfl
  | cons head _ ih =>
      rcases head with ⟨-, description, -, rfl⟩
      rw [fieldFindings, fieldFindings, ih]
      rfl

theorem planFindings_of_redescribed {plan other : MessagePlan} (same : plan.Redescribed other)
    (options : Options) : planFindings options other = planFindings options plan := by
  simp only [planFindings, same.name, same.unsupported, List.map_map, same.reservedNumbers,
    fieldFindings_of_redescribed same.fields, isEmpty_of_forall₂ same.fields]
  rfl

theorem numerals_of_redescribed {plan other : MessagePlan} (same : plan.Redescribed other)
    (options : Options) : numerals options other = numerals options plan := by
  refine mapM_eq_of_forall₂ (same.fields.imp ?_)
  rintro planned _ ⟨-, description, -, rfl⟩
  rfl

theorem messagesFindings_undocumented {composite : Composite}
    (templates : ∀ other ∈ context.model.composites, other.IsInLine) (inLine : composite.IsInLine)
    (seen messages : List Value) :
    messagesFindings context.undocumented composite.undocumented seen messages =
      messagesFindings context composite seen messages := by
  induction messages generalizing seen with
  | nil => rfl
  | cons message messages ih =>
      have own : messageFindings context.undocumented composite.undocumented seen message =
          messageFindings context composite seen message := by
        apply Related.eq
        apply Related.bind_same rfl
        intro taken _
        apply Related.bind (SchemaContext.related_plan templates inLine)
        intro plan other same
        apply Related.bind_same (numerals_of_redescribed same context.options)
        intro written _
        exact .ok (congrArg (_ ++ ·) (planFindings_of_redescribed same context.options))
      rw [messagesFindings, messagesFindings, own, ih]

theorem compositeFindings_undocumented {composites : List Composite}
    (templates : ∀ other ∈ context.model.composites, other.IsInLine)
    (inLine : ∀ composite ∈ composites, composite.IsInLine) (seen : List Value) :
    compositeFindings context.undocumented seen (composites.map Composite.undocumented) =
      compositeFindings context seen composites := by
  induction composites generalizing seen with
  | nil => rfl
  | cons composite composites ih =>
      have names : writtenNames composite.undocumented = writtenNames composite := by
        simp [writtenNames]
      have rest := ih fun later member => inLine later (List.mem_cons_of_mem composite member)
      simp only [List.map_cons, compositeFindings, names, rest,
        messagesFindings_undocumented templates (inLine composite List.mem_cons_self)]

theorem valueFindings_undocumented (allowed : Bool) (enum : String) (owners : List (Value × String))
    (values : List EnumValue) :
    valueFindings allowed enum owners (values.map EnumValue.undocumented) =
      valueFindings allowed enum owners values := by
  induction values generalizing owners with
  | nil => rfl
  | cons value values ih =>
      simp only [List.map_cons, valueFindings, EnumValue.number_undocumented,
        EnumValue.schemaName_undocumented, ih]

theorem enumsFindings_undocumented (seen : List Value) (enums : List EnumType) :
    enumsFindings seen (enums.map EnumType.undocumented) = enumsFindings seen enums := by
  have own : ∀ (seen : List Value) (enum : EnumType),
      enumFindings seen enum.undocumented = enumFindings seen enum := by
    intro seen enum
    have values : enum.undocumented.values = enum.values.map EnumValue.undocumented := rfl
    have name : enum.undocumented.name = enum.name := rfl
    simp only [enumFindings, EnumType.schemaName_undocumented, EnumType.allowsAlias_undocumented,
      values, valueFindings_undocumented, name]
  induction enums generalizing seen with
  | nil => rfl
  | cons enum enums ih =>
      simp only [List.map_cons, enumsFindings, EnumType.isWritten_undocumented, own, ih]

theorem serviceFindings_of_redescribed {services others : List Service}
    (same : List.Forall₂ Service.Redescribed services others) (seen : List Value) :
    serviceFindings seen others = serviceFindings seen services := by
  induction same generalizing seen with
  | nil => rfl
  | cons head _ ih =>
      simp only [serviceFindings, head.name, head.sourceName, head.fromComposite, ih]

/-- What is found on a unit does not depend on its documentation. -/
theorem findings_undocumented {context : SchemaContext} {schema : SchemaUnit}
    (model : schema.model = context.model) (inLine : schema.IsInLine) :
    findings context.undocumented schema.undocumented = findings context schema := by
  have templates : ∀ other ∈ context.model.composites, other.IsInLine := model ▸ inLine.templates
  apply Related.eq
  apply Related.bind_same (compositeFindings_undocumented templates inLine.composites [])
  intro ofMessages _
  apply Related.bind_same (enumsFindings_undocumented [] schema.enums)
  intro ofEnums _
  apply Related.bind (SchemaContext.related_services (model ▸ inLine.functions) inLine.services
    inLine.composites)
  intro services others same
  rw [serviceFindings_of_redescribed same]
  exact related_of_eq rfl

end Validation

end WireSchema
