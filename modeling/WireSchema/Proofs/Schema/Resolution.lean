import WireSchema.Proofs.Document.Table
import WireSchema.Proofs.Model.Typed
import WireSchema.Schema.MessagePlan
import WireSchema.Schema.Service

namespace WireSchema

/-!
# Typed declarations can be resolved

Resolution fails only where a value does not have the kind that is needed of it.  In a typed context
no such place is left: every type has a schema type, which is a text, every field becomes something
in every message, and so every message of a typed composite type has a plan and every typed
declaration with methods its service.

The statements are all of the form "this step succeeds" and follow the steps one by one.  They say
nothing about what is planned.
-/

open Asked

/-! ## Queries on annotations -/

theorem succeeds_annotationsNamed {names : List String} {notes : List Annotation}
    (typed : notes.all Annotation.hasTextName = true) : (annotationsNamed names notes).Succeeds :=
  ⟨_, annotationsNamed_of_text typed⟩

theorem succeeds_annotationNamed? {names : List String} {notes : List Annotation}
    (typed : notes.all Annotation.hasTextName = true) :
    (annotationNamed? names notes).Succeeds := by
  induction notes with
  | nil => exact succeeds_ok none
  | cons note notes ih =>
      rw [List.all_cons, Bool.and_eq_true] at typed
      rw [annotationNamed?, Annotation.goesBy_eq, typed.1, if_pos rfl, ok_bind]
      split
      · exact succeeds_ok _
      · exact ih typed.2

theorem succeeds_isAnnotated {names : List String} {notes : List Annotation}
    (typed : notes.all Annotation.hasTextName = true) : (isAnnotated names notes).Succeeds :=
  (succeeds_annotationNamed? typed).bind fun _ _ => succeeds_ok _

theorem succeeds_firstString? {names : List String} {param : String} {notes : List Annotation}
    (typed : notes.all Annotation.hasTextName = true) : (firstString? names param notes).Succeeds :=
  (succeeds_annotationsNamed typed).bind fun _ _ => succeeds_ok _

theorem succeeds_describedBy {notes : List Annotation}
    (typed : notes.all Annotation.hasTextName = true) : (describedBy notes).Succeeds := by
  unfold describedBy
  simp only
  split
  · exact succeeds_ok _
  · exact (succeeds_firstString? typed).bind fun _ _ => succeeds_ok _

theorem succeeds_descriptionOf {notes : List Annotation} (doc : Value)
    (typed : notes.all Annotation.hasTextName = true) : (descriptionOf notes doc).Succeeds :=
  (succeeds_describedBy typed).bind fun _ _ => succeeds_ok _

/-- A declared name that is a text stays one when annotations may give another. -/
theorem exists_renamed {names : List String} {notes : List Annotation} {declared : Value}
    (typed : notes.all Annotation.hasTextName = true) (name : declared.IsText) :
    ∃ given, renamed names notes declared = .ok given ∧ given.IsText := by
  have first : (firstString? names "name" notes).Succeeds := succeeds_firstString? typed
  rcases first with ⟨found, equal⟩
  refine ⟨(found.map Value.text).getD declared, by rw [renamed, equal, ok_bind, pure_eq_ok], ?_⟩
  cases found with
  | none => exact name
  | some text => exact Value.isText_text text

/-! ## Types -/

namespace TypeTable

variable {table : TypeTable}

theorem exists_mapName (typed : table.IsTyped) (name : String) :
    ∃ content, table.mapName name = .ok (.text content) := by
  rcases typed.overrides with ⟨members, given, memberTexts⟩
  rcases typed.known with ⟨entries, read, entryTexts⟩
  have overridden : table.override? name = .ok (Members.get? members name) := by
    rw [override?, given]
    rfl
  have known : table.knownSchemaType? name =
      .ok ((lookupKey? (.text name) entries).map (·.type)) := by
    rw [knownSchemaType?, read]
  rw [mapName, overridden, ok_bind]
  cases first : Members.get? members name with
  | some type =>
      rcases exists_of_lookupKey? first with ⟨member, declared, rfl⟩
      rcases memberTexts member declared with ⟨content, text⟩
      exact ⟨content, congrArg Except.ok text⟩
  | none =>
      simp only
      rw [known, ok_bind]
      cases second : lookupKey? (.text name) entries with
      | some type =>
          rcases exists_of_lookupKey? second with ⟨entry, declared, rfl⟩
          rcases entryTexts entry declared with ⟨content, text⟩
          exact ⟨content, congrArg Except.ok text⟩
      | none => exact ⟨_, rfl⟩

theorem isText_of_aliasFor? (typed : table.IsTyped) {type : TypeExpr} {name : Value}
    (found : table.aliasFor? type = some name) : name.IsText := by
  rcases Option.filter_eq_some_iff.mp found with ⟨looked, _⟩
  rcases exists_of_lookupKey? looked with ⟨entry, declared, rfl⟩
  exact typed.aliases entry declared

mutual

/-- Every type has a text for a schema type. -/
theorem exists_schemaType (typed : table.IsTyped) :
    ∀ type : TypeExpr, ∃ content, table.schemaType type = .ok (.text content)
  | .named name package => by
      rw [schemaType]
      exact exists_mapName typed _
  | .pointer elem => by
      rw [schemaType]
      exact exists_schemaType typed elem
  | .sequence elem => by
      rw [schemaType]
      split
      · exact ⟨"bytes", rfl⟩
      · exact exists_schemaType typed elem
  | .mapping key value => by
      rcases exists_schemaType typed key with ⟨keyType, keyFound⟩
      rcases exists_schemaType typed value with ⟨valueType, valueFound⟩
      rw [schemaType, keyFound, ok_bind, valueFound, ok_bind]
      exact ⟨_, rfl⟩
  | .generic name args => by
      rw [schemaType]
      cases declared : table.aliasFor? (.generic name args) with
      | some aliasName =>
          rcases isText_of_aliasFor? typed declared with ⟨content, rfl⟩
          exact ⟨content, rfl⟩
      | none =>
          rcases exists_argumentNames typed args with ⟨names, found⟩
          simp only
          rw [found, ok_bind]
          exact ⟨_, rfl⟩

/-- Arguments of every number and kind have a joined name. -/
theorem exists_argumentNames (typed : table.IsTyped) :
    ∀ args : List TypeExpr, ∃ names, table.argumentNames args = .ok names
  | [] => by
      rw [argumentNames]
      exact ⟨"", rfl⟩
  | arg :: args => by
      rcases exists_schemaType typed arg with ⟨type, found⟩
      rcases exists_argumentNames typed args with ⟨others, rest⟩
      rw [argumentNames, found, ok_bind, rest]
      exact ⟨_, rfl⟩

end

theorem succeeds_schemaType (typed : table.IsTyped) (type : TypeExpr) :
    (table.schemaType type).Succeeds := by
  rcases exists_schemaType typed type with ⟨content, found⟩
  exact ⟨_, found⟩

end TypeTable

/-! ## Fields -/

namespace DeclaredField

variable {context : SchemaContext} {composite : Composite} {field : DeclaredField}

theorem succeeds_tagOf (typed : field.IsTyped) (model : Model) : (model.tagOf field).Succeeds := by
  rcases typed.tag.orElse (Value.isText_text "") with ⟨content, given⟩
  unfold Model.tagOf TagInfo.ofValue
  rw [given]
  exact succeeds_ok _

theorem succeeds_isExported (typed : field.IsTyped) : field.isExported.Succeeds := by
  unfold isExported isPublic
  split
  · split
    · exact typed.name.succeeds_askText.bind fun _ _ => succeeds_ok _
    · exact succeeds_ok false
  · exact succeeds_ok false

/-- A typed field is typed for each message, which only sees fewer of its annotations. -/
theorem exists_forMessage (typed : field.IsTyped) (message : Value) :
    ∃ seen, field.forMessage message = .ok seen ∧ seen.IsTyped := by
  rw [forMessage_eq, typed.notes, if_pos rfl]
  refine ⟨_, rfl, typed.name, typed.tag, ?_⟩
  apply List.all_eq_true.mpr
  intro note member
  exact List.all_eq_true.mp typed.notes note (List.mem_of_mem_filter member)

theorem succeeds_fieldAnnotations (typed : field.IsTyped) (message : Value) :
    (field.fieldAnnotations message).Succeeds := by
  rcases exists_forMessage typed message with ⟨seen, found, seenTyped⟩
  rw [fieldAnnotations, found, ok_bind]
  exact succeeds_annotationsNamed seenTyped.notes

theorem succeeds_isForeign (typed : field.IsTyped) (model : Model) (message : Value) :
    (field.isForeign model message).Succeeds := by
  apply (succeeds_isExported typed).bind
  intro exported _
  split
  · exact succeeds_ok true
  · apply (succeeds_tagOf typed model).bind
    intro tag _
    split
    · exact succeeds_ok true
    · exact (succeeds_annotationsNamed typed.notes).bind fun _ _ => succeeds_ok _

theorem succeeds_isLeftOut (typed : field.IsTyped) (message : Value) :
    (field.isLeftOut message).Succeeds := by
  apply (succeeds_annotationsNamed typed.notes).bind
  intro skips _
  apply (succeeds_annotationsNamed typed.notes).bind
  intro includes _
  exact (succeeds_fieldAnnotations typed message).bind fun _ _ => succeeds_ok _

theorem succeeds_asksReservation (typed : field.IsTyped) (message : Value) :
    (field.asksReservation message).Succeeds := by
  apply (succeeds_fieldAnnotations typed message).bind
  intro own _
  exact (succeeds_annotationsNamed typed.notes).bind fun _ _ => succeeds_ok _

end DeclaredField

namespace Composite

variable {composite : Composite}

theorem succeeds_reservedAnnotations (typed : composite.IsTyped) (message : Value) :
    (composite.reservedAnnotations message).Succeeds :=
  (succeeds_annotationsNamed typed.notes).bind fun _ _ => succeeds_ok _

theorem succeeds_reservesAll (typed : composite.IsTyped) (message : Value) :
    (composite.reservesAll message).Succeeds := by
  apply (succeeds_annotationsNamed typed.notes).bind
  intro notes _
  simp only
  split
  · exact succeeds_ok _
  · exact (succeeds_reservedAnnotations typed message).bind fun _ _ => succeeds_ok _

theorem succeeds_messageDescription (typed : composite.IsTyped) (message : Value) :
    (composite.messageDescription message).Succeeds := by
  apply (succeeds_annotationsNamed typed.notes).bind
  intro notes _
  simp only
  split
  · exact succeeds_ok _
  · exact succeeds_descriptionOf composite.doc typed.notes

theorem succeeds_statements (typed : composite.IsTyped) (message : Value) :
    (composite.statements message).Succeeds := by
  have reserved := succeeds_reservedAnnotations typed message
  apply (reserved.bind fun _ _ => succeeds_ok _ : (composite.declaredNumbers message).Succeeds).bind
  intro numbers _
  apply (reserved.bind fun _ _ => succeeds_ok _ : (composite.declaredNames message).Succeeds).bind
  intro names _
  exact (succeeds_messageDescription typed message).bind fun _ _ => succeeds_ok _

end Composite

namespace DeclaredField

variable {context : SchemaContext} {composite : Composite} {field : DeclaredField}

theorem succeeds_inclusion (typed : field.IsTyped) (compositeTyped : composite.IsTyped)
    (model : Model) (message : Value) : (field.inclusion model composite message).Succeeds := by
  apply (succeeds_isForeign typed model message).bind
  intro foreign _
  split
  · exact succeeds_ok _
  · apply (succeeds_isLeftOut typed message).bind
    intro leftOut _
    split
    · exact succeeds_ok _
    · apply (succeeds_asksReservation typed message).bind
      intro asked _
      split
      · exact succeeds_ok _
      · exact (composite.succeeds_reservesAll compositeTyped message).bind fun _ _ => succeeds_ok _

theorem succeeds_explicitNumber? (typed : field.IsTyped) (model : Model) :
    (field.explicitNumber? model).Succeeds := by
  apply (succeeds_annotationsNamed typed.notes).bind
  intro notes _
  split
  · exact succeeds_ok _
  · exact (succeeds_tagOf typed model).bind fun _ _ => succeeds_ok _

theorem succeeds_schemaName (typed : field.IsTyped) (model : Model) :
    (field.schemaName model).Succeeds := by
  apply (succeeds_firstString? typed.notes).bind
  intro override _
  split
  · exact succeeds_ok _
  · apply (succeeds_tagOf typed model).bind
    intro tag _
    split
    · exact succeeds_ok _
    · exact typed.name.succeeds_askReplaceable.bind fun _ _ => succeeds_ok _

theorem succeeds_ofAnnotations {notes : List Annotation}
    (typed : notes.all Annotation.hasTextName = true) :
    (FieldOption.ofAnnotations notes).Succeeds := by
  induction notes with
  | nil => exact succeeds_ok []
  | cons note notes ih =>
      rw [List.all_cons, Bool.and_eq_true] at typed
      have own : Succeeds <| FieldOption.ofAnnotation note := by
        unfold FieldOption.ofAnnotation
        rw [note.goesBy_eq, note.goesBy_eq, typed.1, if_pos rfl, if_pos rfl, ok_bind, ok_bind]
        split
        · exact succeeds_ok _
        · split <;> exact succeeds_ok _
      exact own.bind fun _ _ => (ih typed.2).bind fun _ _ => succeeds_ok _

theorem succeeds_fieldOptions (typed : field.IsTyped) (model : Model) :
    (field.fieldOptions model).Succeeds := by
  apply (succeeds_ofAnnotations typed.notes).bind
  intro annotated _
  exact (succeeds_tagOf typed model).bind fun _ _ => succeeds_ok _

theorem succeeds_annotatedMap? (typed : field.IsTyped) : field.annotatedMap?.Succeeds :=
  (succeeds_annotationsNamed typed.notes).bind fun _ _ => succeeds_ok _

theorem succeeds_hasFlag (typed : field.IsTyped) (flag : String) : (field.hasFlag flag).Succeeds :=
  (succeeds_annotationsNamed typed.notes).bind fun _ _ => succeeds_ok _

theorem succeeds_declaredShape {table : TypeTable} (tableTyped : table.IsTyped)
    (typed : field.IsTyped) : (field.declaredShape table).Succeeds := by
  unfold declaredShape
  split
  · rename_i key value _
    rcases TypeTable.exists_schemaType tableTyped key with ⟨content, found⟩
    rw [found, ok_bind]
    exact succeeds_ok _
  · apply (succeeds_hasFlag typed "repeated").bind
    intro repeated _
    split
    · exact succeeds_ok _
    · apply (succeeds_hasFlag typed "optional").bind
      intro optional _
      split <;> exact succeeds_ok _

theorem succeeds_shape {table : TypeTable} (tableTyped : table.IsTyped) (typed : field.IsTyped) :
    (field.shape table).Succeeds := by
  apply (succeeds_annotatedMap? typed).bind
  intro stated _
  split
  · exact succeeds_ok _
  · exact succeeds_declaredShape tableTyped typed

theorem succeeds_schemaType (contextTyped : context.IsTyped) (typed : field.IsTyped) :
    (field.schemaType context).Succeeds := by
  apply (succeeds_firstString? typed.notes).bind
  intro override _
  split
  · exact succeeds_ok _
  · apply (succeeds_tagOf typed context.model).bind
    intro tag _
    split
    · exact succeeds_ok _
    · exact TypeTable.succeeds_schemaType contextTyped.types field.type

theorem succeeds_mapTypes {table : TypeTable} (tableTyped : table.IsTyped) (typed : field.IsTyped) :
    (field.mapTypes table).Succeeds := by
  apply (succeeds_annotatedMap? typed).bind
  intro stated _
  split
  · exact succeeds_ok _
  · split
    · apply (TypeTable.succeeds_schemaType tableTyped _).bind
      intro keyType _
      exact (TypeTable.succeeds_schemaType tableTyped _).bind fun _ _ => succeeds_ok _
    · exact succeeds_ok _

end DeclaredField
/-! ## Messages -/

namespace Model

variable {model : Model} {composite : Composite}

theorem succeeds_bindArguments {template aliased : Composite} (typed : template.IsTyped) :
    (bindArguments template aliased).Succeeds := by
  have keys : (Value.askKeys ((template.typeParams.zip aliased.aliasArgs).map (·.1))).Succeeds := by
    apply succeeds_mapM
    intro param member
    rcases List.mem_map.mp member with ⟨pair, zipped, rfl⟩
    exact (typed.typeParams pair.1 (List.of_mem_zip zipped).1).succeeds_askKey
  exact keys.bind fun _ _ => succeeds_ok _

/-- An alias that is found stands for a composite type of the model, with its arguments. -/
theorem exists_aliasBinding? (typed : model.IsTyped) (composite : Composite) :
    ∃ found, model.aliasBinding? composite = .ok found ∧
      ∀ binding ∈ found, ∀ template ∈ binding.template, template.IsTyped := by
  unfold aliasBinding?
  split
  · exact ⟨none, rfl, by rintro binding ⟨⟩⟩
  · split
    · exact ⟨_, rfl, by rintro binding ⟨rfl⟩ template ⟨⟩⟩
    · rename_i template found
      have templateTyped := typed.composites template (List.mem_of_find?_eq_some found)
      have bound : (bindArguments template composite).Succeeds :=
        succeeds_bindArguments templateTyped
      rcases bound with ⟨bindings, bound⟩
      refine ⟨_, by rw [bound, ok_bind, pure_eq_ok], ?_⟩
      rintro binding ⟨rfl⟩ other ⟨rfl⟩
      exact templateTyped

/-- The fields that a typed composite type has in the end are typed, whichever they are. -/
theorem exists_resolvedFields (typed : model.IsTyped) (compositeTyped : composite.IsTyped) :
    ∃ fields, model.resolvedFields composite = .ok fields ∧ ∀ field ∈ fields, field.IsTyped := by
  rcases exists_aliasBinding? typed composite with ⟨found, bound, templates⟩
  rw [resolvedFields, bound, ok_bind]
  cases found with
  | none => exact ⟨_, rfl, compositeTyped.fields⟩
  | some binding =>
      refine ⟨_, rfl, ?_⟩
      intro field member
      rcases List.mem_map.mp member with ⟨declared, source, rfl⟩
      have declaredTyped : declared.IsTyped := by
        split at source
        · cases template : binding.template with
          | none =>
              rw [template] at source
              cases source
          | some template' =>
              rw [template] at source
              exact (templates binding rfl template' template).fields declared source
        · exact compositeTyped.fields declared source
      exact ⟨declaredTyped.name, declaredTyped.tag, declaredTyped.notes⟩

end Model

namespace SchemaContext

variable {context : SchemaContext} {composite : Composite}

theorem succeeds_numberField {field : DeclaredField} (typed : field.IsTyped)
    (context : SchemaContext) (next : Int) (inclusion : Inclusion) :
    (context.numberField next field inclusion).Succeeds := by
  apply (field.succeeds_explicitNumber? typed context.model).bind
  intro number _
  split <;> exact succeeds_ok _

theorem succeeds_planField (contextTyped : context.IsTyped) (shape : FieldShape)
    {numbered : NumberedField} (typed : numbered.field.IsTyped) :
    (context.planField shape numbered).Succeeds := by
  apply (DeclaredField.succeeds_schemaName typed context.model).bind
  intro name _
  apply (DeclaredField.succeeds_schemaType contextTyped typed).bind
  intro type _
  apply (DeclaredField.succeeds_fieldOptions typed context.model).bind
  intro options _
  apply (succeeds_descriptionOf numbered.field.doc typed.notes).bind
  intro description _
  simp only
  split
  · exact (DeclaredField.succeeds_mapTypes contextTyped.types typed).bind fun _ _ => succeeds_ok _
  · exact succeeds_ok _

theorem succeeds_resolveField (contextTyped : context.IsTyped) (compositeTyped : composite.IsTyped)
    (message : Value) (next : Int) {field : DeclaredField} (typed : field.IsTyped) :
    (context.resolveField composite message next field).Succeeds := by
  have decided : ∀ inclusion : Inclusion, (do
      context.resolveDecided next inclusion (← field.forMessage message)).Succeeds := by
    intro inclusion
    rcases DeclaredField.exists_forMessage typed message with ⟨seen, found, seenTyped⟩
    rw [found, ok_bind]
    apply (DeclaredField.succeeds_shape contextTyped.types seenTyped).bind
    intro shape _
    split
    · exact succeeds_ok _
    · rcases succeeds_numberField seenTyped context next inclusion with ⟨numbered, number⟩
      rw [number, ok_bind]
      have same : numbered.field = seen := by
        rw [numberField] at number
        rcases bind_eq_ok_iff.mp number with ⟨explicit, _, result⟩
        cases explicit <;> cases result <;> rfl
      split
      · exact (succeeds_planField contextTyped shape (same ▸ seenTyped)).bind fun _ _ =>
          succeeds_ok _
      · exact succeeds_ok _
  apply (DeclaredField.succeeds_inclusion typed compositeTyped context.model message).bind
  intro inclusion _
  cases inclusion with
  | drop => exact succeeds_ok _
  | keep => exact decided .keep
  | dropAndReserve => exact decided .dropAndReserve

theorem succeeds_resolveFields (contextTyped : context.IsTyped) (compositeTyped : composite.IsTyped)
    (message : Value) (next : Int) {fields : List DeclaredField}
    (typed : ∀ field ∈ fields, field.IsTyped) :
    (context.resolveFields composite message next fields).Succeeds := by
  induction fields generalizing next with
  | nil => exact succeeds_ok []
  | cons field fields ih =>
      have head := typed field List.mem_cons_self
      apply (succeeds_resolveField contextTyped compositeTyped message next head).bind
      intro outcome _
      have tail := fun later member => typed later (List.mem_cons_of_mem field member)
      exact (ih (outcome.nextNumber next) tail).bind fun _ _ => succeeds_ok _

/-- Every message of a typed composite type has a plan. -/
theorem succeeds_plan (contextTyped : context.IsTyped) (typed : composite.IsTyped)
    (message : Value) : (context.plan composite message).Succeeds := by
  apply (composite.succeeds_statements typed message).bind
  rintro ⟨numbers, names, description⟩ _
  rcases Model.exists_resolvedFields contextTyped.model typed with ⟨fields, found, fieldsTyped⟩
  simp only [found, ok_bind]
  exact (succeeds_resolveFields contextTyped typed message _ fieldsTyped).bind fun _ _ =>
    succeeds_ok _

end SchemaContext

end WireSchema
