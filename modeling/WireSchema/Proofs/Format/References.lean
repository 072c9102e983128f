import WireSchema.Proofs.Format.Fragments
import WireSchema.Proofs.Format.Ignored

namespace WireSchema

/-!
# References in a JSON Schema document

A document refers to its definitions from the properties of messages and templates, from aliases and
from its own properties.  A reference is made of the schema type of a declared type, a definition of
the name of a declaration, and nothing compares the two.  They meet as long as every declared type
is built in, a parameter of its template, or named like a declaration that is written under that
name.

Two shapes of declared types lead nowhere all the same.  An instantiation without an alias, such as
that of a template inside itself, has a name composed from its arguments; and a map inside another
type of a message has its notation for a name.
-/

open Asked

/-! ## What is asked of a model -/

/-- A message or an enumeration is written under a name.  The model is asked and
not a document, so that it can be said where a reference may lead before
anything is written. -/
def Model.Writes (model : Model) (name : String) : Prop :=
  (∃ composite ∈ model.composites, ∃ names, composite.isMessage = .ok true ∧
    composite.messageNames = .ok names ∧ .text name ∈ names) ∨
  ∃ enum ∈ model.enums, enum.isWritten = .ok true ∧ enum.schemaName = .ok (.text name)

/-- A composite type that refers to what is declared: the types of its fields resolve, an alias has
a template, and in messages nothing but the declared type, with maps at most at its outside, decides
on the type of a field. -/
structure Composite.IsReferable (context : SchemaContext) (composite : Composite) : Prop where
  types : ∀ field ∈ composite.fields,
    field.type.Resolves context.types context.model.Writes composite.typeParams
  fields : composite.isMessage = .ok true → ∀ field ∈ composite.fields,
    field.StatesNoType context.model ∧ field.annotatedMap? = .ok none ∧ field.type.MapsOutermost
  target : ∀ target, composite.target? = some target →
    ∃ template ∈ context.model.composites, ∃ name, template.name = .text name ∧ target = .text name

/-- A model whose documentation and packages hold no values inside values.  A
description is put into the document as it stands, so that a mapping there could
hold a reference to anything. -/
structure SchemaContext.IsPlainlyDocumented (context : SchemaContext) : Prop where
  composites : ∀ composite ∈ context.model.composites,
    composite.doc.isSingle = true ∧ composite.package.isSingle = true ∧
      ∀ field ∈ composite.fields, field.doc.isSingle = true
  enums : ∀ enum ∈ context.model.enums, enum.doc.isSingle = true
  package : context.options.package.isSingle = true

theorem isSingle_of_descriptionOf {notes : List Annotation} {doc description : Value}
    (single : doc.isSingle = true) (described : descriptionOf notes doc = .ok description) :
    description.isSingle = true := by
  rcases bind_eq_ok_iff.mp described with ⟨content, -, final⟩
  cases final
  exact Value.isSingle_orElse rfl single

theorem Composite.isSingle_of_messageDescription {composite : Composite}
    {message description : Value} (single : composite.doc.isSingle = true)
    (described : composite.messageDescription message = .ok description) :
    description.isSingle = true := by
  rcases bind_eq_ok_iff.mp described with ⟨notes, -, rest⟩
  dsimp only at rest
  split at rest
  · cases rest
    rfl
  · exact isSingle_of_descriptionOf single rest

theorem ProtoText.isSingle_declaredPackage {composites : List Composite}
    (single : ∀ composite ∈ composites, composite.package.isSingle = true) :
    (declaredPackage composites).isSingle = true := by
  cases composites with
  | nil => rfl
  | cons first others => exact Value.isSingle_orElse (single first List.mem_cons_self) rfl

/-- The package that stands in the title of a document. -/
theorem ProtoText.isSingle_of_packageName {context : SchemaContext} {package : Value}
    (documented : context.IsPlainlyDocumented)
    (named : packageName context.options context.model.wholeUnit = .ok package) :
    package.isSingle = true := by
  unfold packageName at named
  split at named
  · cases named
    exact documented.package
  · rcases bind_eq_ok_iff.mp named with ⟨stated, -, final⟩
    cases stated with
    | some name =>
        cases final
        rfl
    | none =>
        cases final
        exact isSingle_declaredPackage fun composite member =>
          (documented.composites composite member).2.1

/-- A field as a message sees it has the type and the documentation that it has by itself, and
states no type when it stated none before. -/
theorem DeclaredField.silent_forMessage {model : Model} {field seen : DeclaredField}
    {message : Value} (view : field.forMessage message = .ok seen)
    (silent : field.StatesNoType model) (bare : field.annotatedMap? = .ok none) :
    seen.type = field.type ∧ seen.doc = field.doc ∧ seen.StatesNoType model ∧
      seen.annotatedMap? = .ok none := by
  rw [forMessage_eq] at view
  split at view
  · cases view
    exact ⟨rfl, rfl, ⟨firstString?_filter_eq_none _ silent.annotated, silent.tagged⟩,
      annotatedMap?_filter _ bare⟩
  · cases view

namespace JsonSchema

/-! ## Messages -/

section Declarations

variable {α : Type} {context : SchemaContext} {defined : String → Prop} {composite : Composite}
  {message : Value} {planned : PlannedField} {plan : MessagePlan}

/-- The fragment of a field by its shape. -/
theorem fieldFragment_cases {fragment : Members} (made : fieldFragment planned = .ok fragment) :
    ∃ inner, fragment = described inner planned.description ∧
      ((planned.shape = .map ∧ ∃ value, typeFragment planned.mapTypes.2 = .ok value ∧
          inner = objectOf value) ∨
        (planned.shape ≠ .map ∧ ∃ own, typeFragment planned.type = .ok own ∧
          (inner = arrayOf own ∨ inner = own))) := by
  unfold fieldFragment at made
  split at made
  all_goals
    rename_i shape
    rcases bind_eq_ok_iff.mp made with ⟨own, typed, final⟩
    cases final
  · exact ⟨_, rfl, Or.inl ⟨shape, own, typed, rfl⟩⟩
  · exact ⟨_, rfl, Or.inr ⟨by simp [shape], own, typed, Or.inl rfl⟩⟩
  · rename_i other
    exact ⟨_, rfl, Or.inr ⟨other, own, typed, Or.inr rfl⟩⟩

/-- The references of a field that states no type of its own lead to definitions. -/
theorem isClosed_fieldFragment {declared : DeclaredField} {fragment : Members}
    (silent : context.types.IsUnconfigured)
    (isFrom : planned.IsFrom context composite message declared)
    (supported : planned.shape ≠ .unsupported)
    (resolves : declared.type.Resolves context.types defined [])
    (plain : declared.StatesNoType context.model) (bare : declared.annotatedMap? = .ok none)
    (outermost : declared.type.MapsOutermost) (single : planned.description.isSingle = true)
    (made : fieldFragment planned = .ok fragment) : IsClosed defined (.map fragment) := by
  rcases DeclaredField.silent_forMessage isFrom.seen plain bare with ⟨type, -, stateless, mapless⟩
  have shaped := DeclaredField.hasShape_of_shape isFrom.shape
  rcases fieldFragment_cases made with
    ⟨inner, rfl, ⟨map, value, ofValue, rfl⟩ | ⟨map, own, ofType, kind⟩⟩
  · -- Only a declared map has the shape of one, and its values hold no further maps.
    rw [map] at shaped
    cases shaped with
    | stated annotated =>
        rw [mapless] at annotated
        cases annotated
    | @native key value name _ native keyed admitted =>
        have types := isFrom.mapTypes map
        simp only [DeclaredField.mapTypes, mapless, ok_bind, native, keyed] at types
        rcases bind_eq_ok_iff.mp types with ⟨valueType, read, final⟩
        rw [← Except.ok.inj final] at ofValue
        rw [← type, native] at resolves outermost
        cases resolves with
        | mapping inside =>
            have known := isKnown_of_schemaType silent inside outermost read
            have closed := isClosed_typeFragment known ofValue
            exact isClosed_described (isClosed_objectOf closed) single
  · have read := isFrom.type
    rw [DeclaredField.schemaType_of_statesNoType stateless, type] at read
    have unmapped : declared.type.unwrap.IsUnmapped := by
      have outside := (shaped.isUnmapped map supported).2
      rw [type] at outside
      revert outermost outside
      cases declared.type with
      | mapping key value => exact fun _ outside => absurd rfl (outside key value)
      | named | pointer | sequence | generic => exact fun whole _ => whole
    have known := isKnown_of_schemaType silent resolves unmapped read
    have closed := isClosed_typeFragment known ofType
    rcases kind with rfl | rfl
    · exact isClosed_described (isClosed_arrayOf closed) single
    · exact isClosed_described closed single

/-- A table of properties that are made one by one, each under a text. -/
theorem isClosed_properties {items : List α} {step : α → Asked (Value × Value)}
    {properties : List (Value × Value)} (made : items.mapM step = .ok properties)
    (each : ∀ item ∈ items, ∀ property, step item = .ok property →
      ∃ members, property.2 = .map members ∧ IsClosed defined (.map members)) :
    IsClosed defined (.map (setKeys properties)) := by
  refine isClosed_setKeys fun property member => ?_
  rcases exists_of_mem_mapM made member with ⟨item, among, own⟩
  exact each item among property own

/-- The definition of a message that is no alias. -/
theorem isClosed_recordDefinition {model : Model} {definition : Members}
    (fields : ∀ planned ∈ plan.fields, ∀ fragment, fieldFragment planned = .ok fragment →
      IsClosed defined (.map fragment))
    (single : plan.description.isSingle = true)
    (made : recordDefinition model plan = .ok definition) : IsClosed defined (.map definition) := by
  rcases bind_eq_ok_iff.mp made with ⟨properties, each, final⟩
  cases final
  have texts : ∀ property ∈ properties, property.1.isSingle = true := by
    intro property member
    rcases exists_of_mem_mapM each member with ⟨planned, -, own⟩
    rcases bind_eq_ok_iff.mp own with ⟨name, -, own⟩
    rcases bind_eq_ok_iff.mp own with ⟨fragment, -, final⟩
    cases final
    rfl
  refine isClosed_append (isClosed_described (isClosed_typed "object") single) ?_
  rw [Members.ofTexts, List.map_append]
  refine isClosed_append (isClosed_single (by decide) ?_) ?_
  · refine isClosed_properties each fun planned member property own => ?_
    rcases bind_eq_ok_iff.mp own with ⟨name, -, own⟩
    rcases bind_eq_ok_iff.mp own with ⟨fragment, described, final⟩
    cases final
    exact ⟨fragment, rfl, fields planned member fragment described⟩
  · split
    · exact isClosed_nil
    · refine isClosed_single (by decide) (isClosed_list fun name member => ?_)
      rcases List.mem_map.mp member with ⟨entry, kept, rfl⟩
      rcases List.of_mem_zip (List.mem_of_mem_filter kept) with ⟨-, among⟩
      exact isClosed_of_isSingle (texts entry.2 among)

/-- A composite type with messages is written as messages, and has no type parameters. -/
theorem typeParams_of_writtenNames {names : List Value}
    (written : Validation.writtenNames composite = .ok names) (member : message ∈ names) :
    composite.isMessage = .ok true ∧ composite.typeParams = [] := by
  rcases bind_eq_ok_iff.mp written with ⟨isMessage, asked, rest⟩
  cases isMessage with
  | false =>
      cases rest
      cases member
  | true =>
      refine ⟨asked, ?_⟩
      by_contra generic
      rw [Composite.isMessage, Composite.isGeneric,
        if_pos (by simpa using generic)] at asked
      cases asked

/-- The definition of a message is closed when its composite type refers to what is declared and the
template of an alias is defined. -/
theorem isClosed_messageDefinition {names : List Value} {definition : Members}
    (silent : context.types.IsUnconfigured) (referable : composite.IsReferable context)
    (documented : composite.doc.isSingle = true ∧
      ∀ field ∈ composite.fields, field.doc.isSingle = true)
    (own : Validation.writtenNames composite = .ok names) (member : message ∈ names)
    (planned : context.plan composite message = .ok plan)
    (more : ∀ name, context.model.Writes name → defined name)
    (templates : ∀ name, composite.target? = some (.text name) → defined name)
    (made : messageDefinition context.model plan = .ok definition) :
    IsClosed defined (.map definition) := by
  have single : plan.description.isSingle = true := by
    rcases SchemaContext.plan_eq_ok_iff.mp planned with ⟨statements, outcomes, stated, -, rfl⟩
    rcases bind_eq_ok_iff.mp stated with ⟨numbers, -, rest⟩
    rcases bind_eq_ok_iff.mp rest with ⟨reserved, -, rest⟩
    rcases bind_eq_ok_iff.mp rest with ⟨description, described, final⟩
    cases final
    exact Composite.isSingle_of_messageDescription documented.1 described
  rw [messageDefinition, SchemaContext.composite_of_plan planned] at made
  cases aliased : composite.target? with
  | some target =>
      rcases referable.target target aliased with ⟨-, -, name, -, rfl⟩
      rw [aliased] at made
      cases made
      exact isClosed_described (isClosed_reference (templates name aliased)) single
  | none =>
      rw [aliased] at made
      refine isClosed_recordDefinition (fun field inPlan fragment ofField => ?_) single made
      rcases SchemaContext.exists_resolveField_of_plan planned inPlan with
        ⟨fields, resolved, declared, among, next, result⟩
      rw [Model.resolvedFields_of_target?_eq_none _ aliased] at resolved
      cases resolved
      rcases typeParams_of_writtenNames own member with ⟨isMessage, parameters⟩
      rcases referable.fields isMessage declared among with ⟨plain, bare, outermost⟩
      have resolves := (referable.types declared among).mono more
      rw [parameters] at resolves
      have isFrom := SchemaContext.isFrom_of_resolveField result
      have description : field.description.isSingle = true := by
        refine isSingle_of_descriptionOf ?_ (SchemaContext.parts_of_resolveField result).2.2
        rw [(DeclaredField.silent_forMessage isFrom.seen plain bare).2.1]
        exact documented.2 declared among
      exact isClosed_fieldFragment silent isFrom
        (SchemaContext.shape_ne_unsupported_of_plan planned inPlan) resolves plain bare outermost
        description ofField

/-! ## Templates and enumerations -/

/-- The definition of a template is closed when the template refers to what is declared. -/
theorem isClosed_templateDefinition {view : SchemaView} {template : Composite}
    {definition : Members} (silent : view.context.types.IsUnconfigured)
    (referable : template.IsReferable view.context)
    (documented : template.doc.isSingle = true ∧
      ∀ field ∈ template.fields, field.doc.isSingle = true)
    (more : ∀ name, view.context.model.Writes name → defined name)
    (made : templateDefinition view template = .ok definition) :
    IsClosed defined (.map definition) := by
  rcases bind_eq_ok_iff.mp made with ⟨fields, chosen, made⟩
  rcases bind_eq_ok_iff.mp made with ⟨properties, each, final⟩
  cases final
  rcases bind_eq_ok_iff.mp chosen with ⟨kept, selected, seen⟩
  refine isClosed_described (isClosed_append (isClosed_typed "object")
    (isClosed_single (by decide) ?_)) documented.1
  refine isClosed_properties each fun field member property own => ?_
  rcases exists_of_mem_mapM seen member with ⟨declared, inKept, view⟩
  have among := mem_of_mem_keepWhere selected inKept
  have same : field.type = declared.type ∧ field.doc = declared.doc := by
    rw [DeclaredField.forMessage_eq] at view
    split at view
    · cases view
      exact ⟨rfl, rfl⟩
    · cases view
  rcases bind_eq_ok_iff.mp own with ⟨fragment, ofType, own⟩
  rcases bind_eq_ok_iff.mp own with ⟨description, described, own⟩
  rcases bind_eq_ok_iff.mp own with ⟨name, -, final⟩
  cases final
  rw [same.1] at ofType
  refine ⟨_, rfl, isClosed_described ?_ (isSingle_of_descriptionOf ?_ described)⟩
  · exact isClosed_exprFragment silent ((referable.types declared among).mono more) ofType
  · rw [same.2]
    exact documented.2 declared among

theorem isClosed_enumDefinition {enum : EnumType} {definition : Members}
    (documented : enum.doc.isSingle = true) (made : enumDefinition enum = .ok definition) :
    IsClosed defined (.map definition) := by
  rcases bind_eq_ok_iff.mp made with ⟨names, -, made⟩
  rcases bind_eq_ok_iff.mp made with ⟨description, described, final⟩
  cases final
  refine isClosed_described (isClosed_append (isClosed_typed "string")
    (isClosed_single (by decide) (isClosed_list_map_text names))) ?_
  exact isSingle_of_descriptionOf documented described

end Declarations

/-! ## Documents -/

section Documents

variable {entries : List Entry}

def Defines (entries : List Entry) (name : String) : Prop :=
  ∃ entry ∈ entries, entry.name = .text name

/-- The names of the entries of a document are those of its definitions. -/
theorem isSome_definition?_iff {title : Value} {name : String} :
    (definition? (document title entries) name).isSome = true ↔ Defines entries name := by
  rw [definition?_document, definitions, isSome_lookupKey?_setKeys_iff]
  constructor
  · rintro ⟨pair, member, named⟩
    rcases List.mem_map.mp member with ⟨entry, among, rfl⟩
    exact ⟨entry, among, named⟩
  · rintro ⟨entry, among, named⟩
    exact ⟨_, List.mem_map_of_mem among, named⟩

/-- An entry whose references lead to definitions, and which is no property unless it stands under a
text. -/
structure Entry.IsSound (defined : String → Prop) (entry : Entry) : Prop where
  definition : IsClosed defined (.map entry.definition)
  property : entry.property ≠ none → ∃ name, entry.name = .text name

/-- The references of a document are those of its definitions and those to its entries. -/
theorem isClosed_document {title : Value} (single : title.isSingle = true)
    (sound : ∀ entry ∈ entries, entry.IsSound (Defines entries)) :
    IsClosed (Defines entries) (document title entries) := by
  have definitions : IsClosed (Defines entries) (.map (definitions entries)) := by
    refine isClosed_setKeys fun pair member => ?_
    rcases List.mem_map.mp member with ⟨entry, among, rfl⟩
    exact ⟨_, rfl, (sound entry among).definition⟩
  have properties : IsClosed (Defines entries) (.map (properties entries)) := by
    refine isClosed_setKeys fun pair member => ?_
    rcases List.mem_filterMap.mp member with ⟨entry, among, own⟩
    rcases Option.map_eq_some_iff.mp own with ⟨property, given, rfl⟩
    rcases (sound entry among).property (by simp [given]) with ⟨name, named⟩
    refine ⟨_, rfl, ?_⟩
    rw [named]
    exact isClosed_reference ⟨entry, among, named⟩
  refine isClosed_record ?_
  simp only [List.forall_mem_cons, List.not_mem_nil, false_imp_iff, implies_true, and_true]
  exact ⟨⟨by decide, isClosed_of_isSingle rfl⟩, ⟨by decide, isClosed_of_isSingle single⟩,
    ⟨by decide, isClosed_of_isSingle rfl⟩, ⟨by decide, isClosed_of_isSingle rfl⟩,
    ⟨by decide, definitions⟩, ⟨by decide, properties⟩⟩

end Documents

end JsonSchema

/-! ## The templates of a view -/

/-- Composite types that are the same have the same name. -/
theorem Composite.name_beq_of_beq {composite other : Composite}
    (same : (composite == other) = true) : (composite.name == other.name) = true := by
  cases composite
  cases other
  exact (Bool.and_eq_true_iff.mp same).1

namespace SchemaView

variable {view : SchemaView}

/-- What counts as contained has the name of something contained. -/
theorem exists_mem_of_contains {templates : List Composite} {template : Composite} {name : String}
    (named : template.name = .text name) (contained : templates.contains template = true) :
    ∃ other ∈ templates, other.name = .text name := by
  rw [List.contains_eq_any_beq] at contained
  rcases List.any_eq_true.mp contained with ⟨other, member, same⟩
  have names := Composite.name_beq_of_beq same
  rw [named, Value.text_beq_iff] at names
  exact ⟨other, member, names⟩

/-- A template of a message, or another one of its name, is among the templates of the view. -/
theorem exists_mem_templates {plan : MessagePlan} {template : Composite} {name : String}
    (inPlans : plan ∈ view.plans) (target : view.planTemplate? plan = some template)
    (named : template.name = .text name) :
    ∃ other ∈ view.templates ++ view.foreignTemplates, other.name = .text name := by
  let step (found : List Composite) (next : Composite) : List Composite :=
    if view.templates.contains next || found.contains next then found else found ++ [next]
  have one : ∀ found next, (next = template ∨ ∃ other ∈ view.templates ++ found,
      other.name = .text name) → ∃ other ∈ view.templates ++ step found next,
        other.name = .text name := by
    intro found next known
    by_cases contained : (view.templates.contains next || found.contains next) = true
    · rw [show step found next = found from if_pos contained]
      rcases known with rfl | known
      · rcases Bool.or_eq_true_iff.mp contained with own | before
        · rcases exists_mem_of_contains named own with ⟨other, member, same⟩
          exact ⟨other, List.mem_append_left _ member, same⟩
        · rcases exists_mem_of_contains named before with ⟨other, member, same⟩
          exact ⟨other, List.mem_append_right _ member, same⟩
      · exact known
    · rw [show step found next = found ++ [next] from if_neg contained, ← List.append_assoc]
      rcases known with rfl | ⟨other, member, same⟩
      · exact ⟨next, List.mem_append_right _ List.mem_cons_self, named⟩
      · exact ⟨other, List.mem_append_left _ member, same⟩
  have all : ∀ targets found : List Composite, (template ∈ targets ∨
      ∃ other ∈ view.templates ++ found, other.name = .text name) →
        ∃ other ∈ view.templates ++ targets.foldl step found, other.name = .text name := by
    intro targets
    induction targets with
    | nil => exact fun found known => known.resolve_left List.not_mem_nil
    | cons next targets ih =>
        rintro found (member | known)
        · rcases List.mem_cons.mp member with rfl | later
          · exact ih _ (Or.inr (one found _ (Or.inl rfl)))
          · exact ih _ (Or.inl later)
        · exact ih _ (Or.inr (one found next (Or.inr known)))
  exact all _ [] (Or.inl (List.mem_filterMap.mpr ⟨plan, inPlans, target⟩))

/-- Every template of a view is a composite type of the model. -/
theorem mem_composites_of_mem_templates {context : SchemaContext}
    (viewed : SchemaView.of context context.model.wholeUnit = .ok view) {template : Composite}
    (member : template ∈ view.templates ++ view.foreignTemplates) :
    template ∈ context.model.composites := by
  rcases bind_eq_ok_iff.mp viewed with ⟨package, -, rest⟩
  rcases bind_eq_ok_iff.mp rest with ⟨plans, planned, rest⟩
  rcases bind_eq_ok_iff.mp rest with ⟨templates, opened, rest⟩
  rcases bind_eq_ok_iff.mp rest with ⟨enums, -, rest⟩
  rcases bind_eq_ok_iff.mp rest with ⟨written, -, final⟩
  cases final
  rcases List.mem_append.mp member with own | foreign
  · exact mem_of_mem_keepWhere opened own
  · rcases exists_plan_of_mem_foreignTemplates foreign with ⟨plan, -, target⟩
    rw [planTemplate?] at target
    split at target
    · exact List.mem_of_find?_eq_some target
    · cases target

end SchemaView

/-! ## Closed documents -/

namespace JsonSchema

section Entries

variable {context : SchemaContext} {view : SchemaView} {listed : List Entry}

/-- The entries of a view are those of its templates, plans and enumerations. -/
theorem mem_entries_iff (entered : entries view = .ok listed) {entry : Entry} :
    entry ∈ listed ↔
      (∃ template ∈ view.templates ++ view.foreignTemplates,
        templateEntry view template = .ok entry) ∨
      (∃ plan ∈ view.plans, messageEntry view.context.model plan = .ok entry) ∨
      ∃ enum ∈ view.enums, enumEntry enum = .ok entry := by
  rcases bind_eq_ok_iff.mp entered with ⟨templates, ofTemplates, rest⟩
  rcases bind_eq_ok_iff.mp rest with ⟨messages, ofMessages, rest⟩
  rcases bind_eq_ok_iff.mp rest with ⟨enums, ofEnums, final⟩
  cases final
  rw [List.append_assoc, List.mem_append, List.mem_append, mem_mapM_iff ofTemplates,
    mem_mapM_iff ofMessages, mem_mapM_iff ofEnums]

theorem templateEntry_eq_ok {template : Composite} {entry : Entry}
    (entered : templateEntry view template = .ok entry) :
    entry.name = template.name ∧ entry.property = none ∧
      templateDefinition view template = .ok entry.definition := by
  rcases bind_eq_ok_iff.mp entered with ⟨definition, defined, rest⟩
  rcases bind_eq_ok_iff.mp rest with ⟨name, asked, final⟩
  cases final
  exact ⟨Value.eq_of_askKey asked, rfl, defined⟩

/-- Whatever is written under a name has an entry under it. -/
theorem defines_of_writes (viewed : SchemaView.of context context.model.wholeUnit = .ok view)
    (entered : entries view = .ok listed) {name : String} (written : context.model.Writes name) :
    Defines listed name := by
  rcases SchemaView.plans_of viewed with ⟨rfl, planned, selected⟩
  rcases bind_eq_ok_iff.mp entered with ⟨templates, ofTemplates, rest⟩
  rcases bind_eq_ok_iff.mp rest with ⟨messages, ofMessages, rest⟩
  rcases bind_eq_ok_iff.mp rest with ⟨enums, ofEnums, final⟩
  rcases written with ⟨composite, declared, names, isMessage, named, member⟩ |
    ⟨enum, declared, isWritten, named⟩
  · rcases SchemaContext.exists_mem_messagePlans planned declared isMessage named member with
      ⟨plan, inPlans, own⟩
    rcases exists_mem_of_mapM ofMessages inPlans with ⟨entry, -, result⟩
    refine ⟨entry, (mem_entries_iff entered).mpr (Or.inr (Or.inl ⟨plan, inPlans, result⟩)), ?_⟩
    rw [(messageEntry_eq_ok result).2.1, SchemaContext.name_of_plan own]
  · have inEnums := mem_keepWhere selected declared isWritten
    rcases exists_mem_of_mapM ofEnums inEnums with ⟨entry, -, result⟩
    refine ⟨entry, (mem_entries_iff entered).mpr (Or.inr (Or.inr ⟨enum, inEnums, result⟩)), ?_⟩
    exact Except.ok.inj ((enumEntry_eq_ok result).1.symm.trans named)

/-- The template of an alias that is written as a message has an entry. -/
theorem defines_of_target (entered : entries view = .ok listed) {plan : MessagePlan}
    (inPlans : plan ∈ view.plans) {name : String}
    (aliased : plan.composite.target? = some (.text name))
    (declared : ∃ template ∈ view.context.model.composites, template.name = .text name) :
    Defines listed name := by
  have found : ∃ template, view.context.model.composite? (.text name) = some template := by
    rcases declared with ⟨template, member, named⟩
    rw [← Option.isSome_iff_exists, Model.composite?, List.find?_isSome]
    exact ⟨template, member, Value.beq_text_iff.mpr named⟩
  rcases found with ⟨template, found⟩
  have same := List.find?_some found
  have named : template.name = .text name := Value.beq_text_iff.mp same
  have target : view.planTemplate? plan = some template := by
    rw [Composite.target?] at aliased
    split at aliased
    · rename_i given
      rw [SchemaView.planTemplate?, if_pos (Bool.and_eq_true_iff.mp given).1,
        Option.some.inj aliased, found]
    · cases aliased
  rcases SchemaView.exists_mem_templates inPlans target named with ⟨other, member, same⟩
  rcases bind_eq_ok_iff.mp entered with ⟨templates, ofTemplates, -⟩
  rcases exists_mem_of_mapM ofTemplates member with ⟨entry, -, result⟩
  exact ⟨entry, (mem_entries_iff entered).mpr (Or.inl ⟨other, member, result⟩),
    (templateEntry_eq_ok result).1.trans same⟩

/-- Every entry of a model that refers to what is declared is sound. -/
theorem isSound_of_mem_entries (silent : context.types.IsUnconfigured)
    (referable : ∀ composite ∈ context.model.composites, composite.IsReferable context)
    (documented : context.IsPlainlyDocumented)
    (viewed : SchemaView.of context context.model.wholeUnit = .ok view)
    (entered : entries view = .ok listed) {entry : Entry} (member : entry ∈ listed) :
    entry.IsSound (Defines listed) := by
  have more : ∀ name, context.model.Writes name → Defines listed name := fun _ =>
    defines_of_writes viewed entered
  have documents : ∀ composite ∈ context.model.composites, composite.doc.isSingle = true ∧
      ∀ field ∈ composite.fields, field.doc.isSingle = true := fun composite declared =>
    (documented.composites composite declared).imp_right And.right
  rcases SchemaView.plans_of viewed with ⟨same, planned, selected⟩
  rcases (mem_entries_iff entered).mp member with
    ⟨template, among, own⟩ | ⟨plan, inPlans, own⟩ | ⟨enum, inEnums, own⟩
  · have declared := SchemaView.mem_composites_of_mem_templates viewed among
    rcases templateEntry_eq_ok own with ⟨-, none, defined⟩
    subst same
    exact ⟨isClosed_templateDefinition silent (referable template declared)
      (documents template declared) more defined, fun given => absurd none given⟩
  · rcases messageEntry_eq_ok own with ⟨isText, named, defined⟩
    rcases SchemaContext.exists_of_mem_messagePlans planned inPlans with
      ⟨composite, declared, names, written, message, inNames, made⟩
    have templates : ∀ name, composite.target? = some (.text name) → Defines listed name := by
      intro name aliased
      rcases (referable composite declared).target _ aliased with
        ⟨template, among, other, called, target⟩
      cases target
      refine defines_of_target entered inPlans ?_ ⟨template, same ▸ among, called⟩
      rw [SchemaContext.composite_of_plan made]
      exact aliased
    rw [same] at defined
    exact ⟨isClosed_messageDefinition silent (referable composite declared)
      (documents composite declared) written inNames made more templates defined,
      fun _ => ⟨_, named.trans isText⟩⟩
  · rcases enumEntry_eq_ok own with ⟨-, isText, defined⟩
    exact ⟨isClosed_enumDefinition (documented.enums enum (mem_of_mem_keepWhere selected inEnums))
      defined, fun _ => ⟨_, isText⟩⟩

end Entries

/-- Where options state no schema types and the declared types name what is written, every reference
in the document of a model leads to one of its definitions. -/
theorem exists_closed_document (context : SchemaContext) (text : String)
    (silent : context.types.IsUnconfigured)
    (referable : ∀ composite ∈ context.model.composites, composite.IsReferable context)
    (documented : context.IsPlainlyDocumented)
    (written : emit context context.model.wholeUnit = .ok text) :
    ∃ document, IsPrinted document text ∧ ∀ target, RefersTo target document →
      ∃ name, target = "#/definitions/" ++ name ∧ (definition? document name).isSome = true := by
  rcases bind_eq_ok_iff.mp written with ⟨view, viewed, rest⟩
  rcases bind_eq_ok_iff.mp rest with ⟨made, entered, rest⟩
  rcases bind_eq_ok_iff.mp rest with ⟨body, printed, final⟩
  have title : view.title.isSingle = true := by
    rcases bind_eq_ok_iff.mp viewed with ⟨package, named, rest⟩
    rcases bind_eq_ok_iff.mp rest with ⟨plans, -, rest⟩
    rcases bind_eq_ok_iff.mp rest with ⟨templates, -, rest⟩
    rcases bind_eq_ok_iff.mp rest with ⟨enums, -, rest⟩
    rcases bind_eq_ok_iff.mp rest with ⟨services, -, final⟩
    cases final
    exact Value.isSingle_orElse (ProtoText.isSingle_of_packageName documented named) rfl
  have closed := isClosed_document title fun entry member =>
    isSound_of_mem_entries silent referable documented viewed entered member
  refine ⟨_, ⟨body, printed, (Except.ok.inj final).symm⟩, fun target refers => ?_⟩
  rcases closed target refers with ⟨name, place, defined⟩
  exact ⟨name, place, isSome_definition?_iff.mpr defined⟩

/-! ### A model that refers to what it declares -/

/-- A template whose fields are of its parameter and of a message. -/
def sheetTemplate : Composite :=
  { name := .text "Sheet", typeParams := [.text "T"]
    fields :=
      [{ name := .text "Rows", type := .mapping (.named "string" "") (.sequence (.named "T" "")) },
       { name := .text "Owner", type := .pointer (.named "Clerk" "") }] }

/-- A message with fields of an enumeration and of a built-in type. -/
def clerkType : Composite :=
  { name := .text "Clerk"
    fields :=
      [{ name := .text "Rank", type := .named "Rank" "" },
       { name := .text "Since", type := .named "Time" "time" }] }

def clerkSheet : Composite :=
  { name := .text "ClerkSheet", isAlias := .bool true, aliasTarget := .text "Sheet"
    aliasArgs := [.named "Clerk" ""] }

/-- A message with a field that is an instantiation of the template. -/
def archiveType : Composite :=
  { name := .text "Archive"
    fields := [{ name := .text "Clerks", type := .generic "Sheet" [.named "Clerk" ""] }] }

def archiveModel : Model :=
  { composites := [sheetTemplate, clerkType, clerkSheet, archiveType]
    enums := [{ name := .text "Rank", values := [{ name := .text "Junior", index := .int 0 }] }] }

def archiveContext : SchemaContext := .of archiveModel {}

private theorem isUnconfigured_archiveContext : archiveContext.types.IsUnconfigured where
  override := by rintro name type ⟨⟩
  known := by rintro name type ⟨⟩

private theorem writes_clerk : archiveModel.Writes "Clerk" :=
  Or.inl ⟨clerkType, by simp [archiveModel], [.text "Clerk"], rfl, rfl, List.mem_cons_self⟩

private theorem writes_clerkSheet : archiveModel.Writes "ClerkSheet" :=
  Or.inl ⟨clerkSheet, by simp [archiveModel], [.text "ClerkSheet"], rfl, rfl, List.mem_cons_self⟩

private theorem writes_rank : archiveModel.Writes "Rank" :=
  Or.inr ⟨_, List.mem_cons_self, rfl, rfl⟩

private theorem isReferable_archiveModel :
    ∀ composite ∈ archiveContext.model.composites, composite.IsReferable archiveContext := by
  have silent : ∀ field : DeclaredField, field.annotations = [] → field.tag = .text "" →
      field.StatesNoType archiveModel ∧ field.annotatedMap? = .ok none := by
    rintro ⟨⟩ rfl rfl
    exact ⟨⟨by cbv, {}, by cbv, rfl⟩, by cbv⟩
  have unmapped : ∀ {name qualifier : String}, (TypeExpr.named name qualifier).MapsOutermost := by
    rintro name qualifier key value ⟨⟩
  have sheet : sheetTemplate.IsReferable archiveContext := by
    refine ⟨List.forall_mem_cons.mpr ⟨?_, List.forall_mem_singleton.mpr ?_⟩, by rintro ⟨⟩,
      by rintro target ⟨⟩⟩
    · exact .mapping (.sequence (.parameter List.mem_cons_self))
    · exact .pointer (.named writes_clerk)
  have clerk : clerkType.IsReferable archiveContext := by
    refine ⟨List.forall_mem_cons.mpr ⟨?_, List.forall_mem_singleton.mpr ?_⟩, fun _ => ?_,
      by rintro target ⟨⟩⟩
    · exact .named writes_rank
    · exact .builtin (by decide)
    · exact List.forall_mem_cons.mpr ⟨⟨(silent _ rfl rfl).1, (silent _ rfl rfl).2, unmapped⟩,
        List.forall_mem_singleton.mpr ⟨(silent _ rfl rfl).1, (silent _ rfl rfl).2, unmapped⟩⟩
  have clerks : clerkSheet.IsReferable archiveContext := by
    refine ⟨List.forall_mem_nil _, fun _ => List.forall_mem_nil _, ?_⟩
    rintro target ⟨⟩
    exact ⟨sheetTemplate, List.mem_cons_self, "Sheet", rfl, rfl⟩
  have archive : archiveType.IsReferable archiveContext := by
    refine ⟨List.forall_mem_singleton.mpr ?_, fun _ => List.forall_mem_singleton.mpr ?_,
      by rintro target ⟨⟩⟩
    · exact .aliased (by cbv) writes_clerkSheet
    · exact ⟨(silent _ rfl rfl).1, (silent _ rfl rfl).2, by rintro key value ⟨⟩⟩
  simp only [archiveContext, SchemaContext.of, archiveModel, List.forall_mem_cons]
  exact ⟨sheet, clerk, clerks, archive, List.forall_mem_nil _⟩

private theorem isPlainlyDocumented_archiveContext : archiveContext.IsPlainlyDocumented where
  composites := by decide +kernel
  enums := by decide +kernel
  package := rfl

theorem exists_closed_document_archiveModel :
    ∃ text document, archiveContext.types.IsUnconfigured ∧
      (∀ composite ∈ archiveContext.model.composites, composite.IsReferable archiveContext) ∧
      archiveContext.IsPlainlyDocumented ∧
      emit archiveContext archiveContext.model.wholeUnit = .ok text ∧ IsPrinted document text ∧
      ∀ target, RefersTo target document →
        ∃ name, target = "#/definitions/" ++ name ∧ (definition? document name).isSome = true := by
  have emitted : (emit archiveContext archiveContext.model.wholeUnit).toOption.isSome = true := by
    decide +kernel
  rcases exists_of_isSome_toOption emitted with ⟨text, written⟩
  rcases exists_closed_document archiveContext text isUnconfigured_archiveContext
    isReferable_archiveModel isPlainlyDocumented_archiveContext written with
    ⟨document, printed, closed⟩
  exact ⟨text, document, isUnconfigured_archiveContext, isReferable_archiveModel,
    isPlainlyDocumented_archiveContext, written, printed, closed⟩

/-! ### A template inside itself -/

/-- The value under a path of names. -/
def at? (value : Value) : List String → Option Value
  | [] => some value
  | name :: names => (value.member? name).bind fun inner => at? inner names

/-- What stands as a reference under a path of names is a reference of the whole value. -/
theorem refersTo_of_at? {target : String} {names : List String} {value : Value}
    (found : at? value (names ++ ["$ref"]) = some (.text target)) : RefersTo target value := by
  have member : ∀ {name : String} {value inner : Value}, value.member? name = some inner →
      ∃ members, value = .map members ∧ (.text name, inner) ∈ members := by
    intro name value inner found
    rcases Option.bind_eq_some_iff.mp found with ⟨members, own, looked⟩
    cases value with
    | map others =>
        cases own
        exact ⟨members, rfl, mem_of_lookupKey?_text looked⟩
    | _ => cases own
  induction names generalizing value with
  | nil =>
      rcases Option.bind_eq_some_iff.mp found with ⟨inner, own, final⟩
      rcases member own with ⟨members, rfl, stands⟩
      cases final
      exact .here stands
  | cons name names ih =>
      rcases Option.bind_eq_some_iff.mp found with ⟨inner, own, rest⟩
      rcases member own with ⟨members, rfl, among⟩
      exact .member among (ih rest)

/-- A template with a field of its own instantiation. -/
def chainModel : Model :=
  { composites :=
      [{ name := .text "Node", typeParams := [.text "T"]
         fields :=
          [{ name := .text "Next", type := .pointer (.generic "Node" [.named "T" ""]) }] },
       { name := .text "User", fields := [{ name := .text "Id", type := .named "int64" "" }] },
       { name := .text "UserNode", isAlias := .bool true, aliasTarget := .text "Node"
         aliasArgs := [.named "User" ""] }] }

def chainContext : SchemaContext := .of chainModel {}

/-- The field refers to a definition of the composed name, and only the template has one. -/
theorem exists_closed_document_chainModel :
    ∃ text document, emit chainContext chainContext.model.wholeUnit = .ok text ∧
      IsPrinted document text ∧ RefersTo "#/definitions/NodeT" document ∧
      definition? document "NodeT" = none ∧ (definition? document "Node").isSome = true := by
  have shown : (SchemaView.of chainContext chainContext.model.wholeUnit).toOption.map (fun view =>
      (entries view).toOption.map fun listed =>
        ((Json.indented 0 (document view.title listed)).toOption.isSome,
          (at? (document view.title listed)
            (["definitions", "Node", "properties", "next"] ++ ["$ref"])).bind Value.text?,
          (definition? (document view.title listed) "NodeT").isSome,
          (definition? (document view.title listed) "Node").isSome)) =
      some (some (true, some "#/definitions/NodeT", false, true)) := by
    decide +kernel
  rcases exists_of_toOption_map shown with ⟨view, viewed, rest⟩
  rcases exists_of_toOption_map rest with ⟨listed, entered, seen⟩
  simp only [Prod.mk.injEq] at seen
  rcases seen with ⟨printable, reference, absent, present⟩
  rcases exists_of_isSome_toOption printable with ⟨body, printed⟩
  rcases Option.bind_eq_some_iff.mp reference with ⟨value, found, isText⟩
  have text : value = .text "#/definitions/NodeT" := by
    cases value <;> cases isText
    rfl
  refine ⟨body ++ "\n", document view.title listed, ?_, ⟨body, printed, rfl⟩,
    refersTo_of_at? (text ▸ found), by simpa using absent, present⟩
  rw [emit, viewed, ok_bind, entered, ok_bind, printed, ok_bind, pure_eq_ok]

end JsonSchema

end WireSchema
