import WireSchema.Format.JsonSchema
import WireSchema.Proofs.Document.Order
import WireSchema.Proofs.Document.Pointwise
import WireSchema.Proofs.Document.Table
import WireSchema.Proofs.Format.Listing

namespace WireSchema

/-!
# Definitions in a JSON Schema document

A document keeps one definition under a name: the one that is entered last.  Templates are entered
before messages and enumerations after them, so the definition under the name of a message is that
of its plan once no two messages have one name and no enumeration has the name of a message.  A
definition describes a property for each field of the message and requires those that cannot be
absent.
-/

open Asked

/-- No enumeration that is written has the name of a message.  Definitions of
both kinds stand in one mapping, in which the later one of two with the same
name replaces the other. -/
def HasDisjointNames (context : SchemaContext) (schema : SchemaUnit) : Prop :=
  ∀ plans enums, context.messagePlans schema.composites = .ok plans →
    writtenEnums schema.enums = .ok enums →
      ∀ plan ∈ plans, ∀ enum ∈ enums, enum.schemaName ≠ .ok plan.name

/-- Names are disjoint when they are so in writing. -/
theorem hasDisjointNames_of_display {context : SchemaContext} {schema : SchemaUnit}
    {names enumNames : List String}
    (ofPlans : (context.messagePlans schema.composites).toOption.map (·.map (·.name.display)) =
      some names)
    (ofEnums : (writtenEnums schema.enums).toOption.map
      (·.map (·.schemaName.toOption.map (·.display))) = some (enumNames.map some))
    (disjoint : ∀ name ∈ names, name ∉ enumNames) : HasDisjointNames context schema := by
  intro plans enums planned written plan member enum among same
  rw [planned] at ofPlans
  rw [written] at ofEnums
  have ofPlan : plan.name.display ∈ names := Option.some.inj ofPlans ▸ List.mem_map_of_mem member
  have ofEnum : enum.schemaName.toOption.map (·.display) ∈ enumNames.map some :=
    Option.some.inj ofEnums ▸ List.mem_map_of_mem among
  rw [same] at ofEnum
  rcases List.mem_map.mp ofEnum with ⟨name, listed, written⟩
  cases Option.some.inj written
  exact disjoint plan.name.display ofPlan listed

namespace JsonSchema

/-! ## Reading a document -/

def definition? (document : Value) (name : String) : Option Value :=
  (document.member? "definitions").bind (·.member? name)

/-- The names of the properties that a definition describes, in order.  They are
read from the document itself, as another program would read them. -/
def propertyNames (definition : Value) : List Value :=
  (((definition.member? "properties").bind Value.members?).getD []).map (·.1)

/-- The names of the properties that a definition requires.  A definition without
such a list requires none, which is how the absence of required fields is
written. -/
def requiredBy (definition : Value) : List Value :=
  match definition.member? "required" with
  | some (.list names) => names
  | _ => []

/-- A text is a document in writing, with two blanks of indentation for each
level and one line feed at the end. -/
def IsPrinted (document : Value) (text : String) : Prop :=
  ∃ body, Json.indented 0 document = .ok body ∧ text = body ++ "\n"

/-! ## The definition of a message -/

theorem lookupKey?_described {name : String} (other : name ≠ "description") (fragment : Members)
    (description : Value) :
    lookupKey? (.text name) (described fragment description) =
      lookupKey? (.text name) fragment := by
  unfold described
  split
  · exact lookupKey?_setKey_of_ne (fun same => other (Value.text.inj same).symm)
      description fragment
  · rfl

/-- A definition of properties, with its description and with the names that it requires. -/
def withProperties (description : Value) (properties : Members) (required : List Value) : Members :=
  described (typed "object") description
    ++ Members.ofTexts ([("properties", .map properties)]
      ++ (if required.isEmpty then [] else [("required", .list required)]))

theorem propertyNames_withProperties (description : Value) (properties : Members)
    (required : List Value) :
    propertyNames (.map (withProperties description properties required)) =
      properties.map (·.1) := by
  have found : lookupKey? (.text "properties") (withProperties description properties required) =
      some (.map properties) := by
    rw [withProperties, lookupKey?_append, lookupKey?_described (by decide)]
    rfl
  rw [propertyNames, Value.member?, Value.members?, Option.bind_some, Members.get?, found]
  rfl

theorem requiredBy_withProperties (description : Value) (properties : Members)
    (required : List Value) :
    requiredBy (.map (withProperties description properties required)) = required := by
  have found : lookupKey? (.text "required") (withProperties description properties required) =
      if required.isEmpty then none else some (.list required) := by
    rw [withProperties, lookupKey?_append, lookupKey?_described (by decide)]
    split <;> rfl
  rw [requiredBy, Value.member?, Value.members?, Option.bind_some, Members.get?, found]
  cases required <;> rfl

section Messages

variable {model : Model} {plan : MessagePlan} {names : List String} {definition : Members}

/-- The properties of fields stand under the names of the fields. -/
theorem keys_of_properties {fields : List PlannedField} {properties : Members}
    (named : fields.mapM (·.field.jsonName model) = .ok names)
    (each : fields.mapM (fieldProperty model) = .ok properties) :
    properties.map (·.1) = names.map .text := by
  rw [← List.forall₂_eq_eq_eq, List.forall₂_map_left_iff, List.forall₂_map_right_iff]
  refine forall₂_of_common (mapM_eq_ok_iff.mp each) (mapM_eq_ok_iff.mp named) ?_
  intro planned property name made own
  rcases bind_eq_ok_iff.mp made with ⟨other, again, made⟩
  cases own.symm.trans again
  rcases bind_eq_ok_iff.mp made with ⟨fragment, -, final⟩
  cases final
  rfl

theorem requiredNames_eq {fields : List PlannedField} {properties : Members}
    (keys : properties.map (·.1) = names.map .text) :
    requiredNames fields properties =
      (((fields.zip names).filter fun entry => !entry.1.mayBeAbsent).map (·.2)).map .text := by
  have byKeys : requiredNames fields properties =
      ((fields.zip (properties.map (·.1))).filter fun entry => !entry.1.mayBeAbsent).map (·.2) := by
    rw [List.zip_map_right, List.filter_map, List.map_map]
    rfl
  rw [byKeys, keys, List.zip_map_right, List.filter_map, List.map_map, List.map_map]
  rfl

/-- Among fields with different names, one cannot be absent exactly when its name is required. -/
theorem mayBeAbsent_eq_of_mem_zip {fields : List PlannedField} {properties : Members}
    (keys : properties.map (·.1) = names.map .text) (count : fields.length = names.length)
    (distinct : names.Nodup) {planned : PlannedField} {name : String}
    (member : (planned, name) ∈ fields.zip names) :
    planned.mayBeAbsent = !(requiredNames fields properties).contains (.text name) := by
  have alone : ((fields.zip names).map (·.2)).Nodup := by
    rw [List.map_snd_zip (Nat.le_of_eq count.symm)]
    exact distinct
  have required : ((((fields.zip names).filter fun entry => !entry.1.mayBeAbsent).map
      (·.2)).contains name = true) ↔ (!planned.mayBeAbsent) = true := by
    rw [List.contains_iff_mem, List.mem_map]
    constructor
    · rintro ⟨entry, kept, same⟩
      rcases List.mem_filter.mp kept with ⟨among, present⟩
      rw [List.inj_on_of_nodup_map alone among member same] at present
      exact present
    · intro present
      exact ⟨(planned, name), List.mem_filter.mpr ⟨member, present⟩, rfl⟩
  rw [requiredNames_eq keys, Value.contains_map_text, Bool.eq_iff_iff.mpr required, Bool.not_not]

/-- The definition of a message that is no alias describes a property for each of its fields. -/
theorem exists_of_messageDefinition (plain : plan.composite.target? = none)
    (named : plan.fields.mapM (·.field.jsonName model) = .ok names) (distinct : names.Nodup)
    (made : messageDefinition model plan = .ok definition) :
    propertyNames (.map definition) = names.map .text ∧
      List.Forall₂ (fun planned name => planned.field.jsonName model = .ok name ∧
        planned.mayBeAbsent = !(requiredBy (.map definition)).contains (.text name))
        plan.fields names := by
  rw [messageDefinition, plain] at made
  rcases bind_eq_ok_iff.mp made with ⟨properties, each, final⟩
  cases final
  have keys := keys_of_properties named each
  have ordered : properties.Pairwise fun earlier later => (earlier.1 == later.1) = false := by
    rw [← List.pairwise_map (R := fun earlier later => (earlier == later) = false), keys,
      List.pairwise_map]
    exact distinct.imp fun different => by simpa using different
  have made : described (typed "object") plan.description ++ Members.ofTexts
      ([("properties", .map (setKeys properties))] ++
        (if (requiredNames plan.fields properties).isEmpty then []
          else [("required", .list (requiredNames plan.fields properties))])) =
      withProperties plan.description properties (requiredNames plan.fields properties) := by
    rw [setKeys_eq_self ordered, withProperties]
  rw [made, propertyNames_withProperties, requiredBy_withProperties]
  rcases List.forall₂_iff_zip.mp (mapM_eq_ok_iff.mp named) with ⟨count, own⟩
  exact ⟨keys, List.forall₂_iff_zip.mpr ⟨count, fun member =>
    ⟨own member, mayBeAbsent_eq_of_mem_zip keys count distinct member⟩⟩⟩

end Messages

/-! ## The definitions of a unit -/

/-- An entry that is a property stands under a text. -/
theorem namedEntry_eq_ok {name : Value} {definition : Members} {entry : Entry}
    (made : namedEntry name definition = .ok entry) :
    name = .text name.display ∧ entry.name = name ∧ entry.definition = definition := by
  rcases bind_eq_ok_iff.mp made with ⟨key, asked, made⟩
  rcases bind_eq_ok_iff.mp made with ⟨snake, worded, final⟩
  cases final
  rw [Value.eq_of_askKey asked] at worded ⊢
  rcases eq_text_of_snakeCaseOf worded with ⟨content, isText, -⟩
  exact ⟨by rw [isText]; rfl, rfl, rfl⟩

theorem messageEntry_eq_ok {model : Model} {plan : MessagePlan} {entry : Entry}
    (made : messageEntry model plan = .ok entry) :
    plan.name = .text plan.name.display ∧ entry.name = plan.name ∧
      messageDefinition model plan = .ok entry.definition := by
  rcases bind_eq_ok_iff.mp made with ⟨definition, defined, made⟩
  rcases namedEntry_eq_ok made with ⟨isText, named, rfl⟩
  exact ⟨isText, named, defined⟩

theorem enumEntry_eq_ok {enum : EnumType} {entry : Entry} (made : enumEntry enum = .ok entry) :
    enum.schemaName = .ok entry.name ∧ entry.name = .text entry.name.display ∧
      enumDefinition enum = .ok entry.definition := by
  rcases bind_eq_ok_iff.mp made with ⟨name, named, made⟩
  rcases bind_eq_ok_iff.mp made with ⟨definition, defined, made⟩
  rcases namedEntry_eq_ok made with ⟨isText, rfl, rfl⟩
  exact ⟨named, isText, defined⟩

theorem definition?_document (title : Value) (entries : List Entry) (name : String) :
    definition? (document title entries) name = lookupKey? (.text name) (definitions entries) :=
  rfl

variable {context : SchemaContext} {schema : SchemaUnit} {plans : List MessagePlan}

theorem names_of_messageEntries {model : Model} {entries : List Entry}
    (each : plans.mapM (messageEntry model) = .ok entries) :
    entries.map (·.name) = plans.map (·.name) := by
  rw [← List.forall₂_eq_eq_eq, List.forall₂_map_left_iff, List.forall₂_map_right_iff]
  exact (mapM_eq_ok_iff.mp each).flip.imp fun _ _ made => (messageEntry_eq_ok made).2.1

/-- The definition that is entered last under a text counts. -/
theorem lookupKey?_definitions {before after : List Entry} {entry : Entry} {name : String}
    (named : entry.name = .text name) (last : .text name ∉ after.map (·.name)) :
    lookupKey? (.text name) (definitions (before ++ entry :: after)) =
      some (.map entry.definition) := by
  rw [definitions, List.map_append, List.map_cons, named]
  refine lookupKey?_setKeys_of_last fun pair present same => last ?_
  rcases List.mem_map.mp present with ⟨other, among, rfl⟩
  rw [← same]
  exact List.mem_map_of_mem among

/-- The entry of a message is not covered by what is entered after it. -/
theorem exists_definition_of_mem {model : Model} {enums : List EnumType}
    {templateEntries messageEntries enumEntries : List Entry} {plan : MessagePlan}
    (distinct : Value.Distinct (plans.map (·.name)))
    (apart : ∀ enum ∈ enums, enum.schemaName ≠ .ok plan.name) (member : plan ∈ plans)
    (ofMessages : plans.mapM (messageEntry model) = .ok messageEntries)
    (ofEnums : enums.mapM enumEntry = .ok enumEntries) :
    ∃ definition, messageDefinition model plan = .ok definition ∧
      lookupKey? (.text plan.name.display)
        (definitions (templateEntries ++ messageEntries ++ enumEntries)) =
          some (.map definition) := by
  rcases exists_mem_of_mapM ofMessages member with ⟨entry, entered, own⟩
  rcases messageEntry_eq_ok own with ⟨isText, named, defined⟩
  rw [← names_of_messageEntries ofMessages] at distinct
  rcases List.append_of_mem entered with ⟨early, late, rfl⟩
  rw [List.map_append, List.map_cons, named, isText] at distinct
  refine ⟨entry.definition, defined, ?_⟩
  rw [← List.append_assoc, List.append_assoc _ (entry :: late), List.cons_append]
  refine lookupKey?_definitions (named.trans isText) ?_
  rw [List.map_append, List.mem_append, not_or]
  refine ⟨Value.notMem_of_distinct_append distinct, fun isEnum => ?_⟩
  rcases List.mem_map.mp isEnum with ⟨other, among, same⟩
  rcases exists_of_mem_mapM ofEnums among with ⟨enum, written, made⟩
  exact apart enum written ((enumEntry_eq_ok made).1.trans (by rw [same, isText]; rfl))

/-- The document of a unit has the definition of each of its messages under the message's name. -/
theorem exists_document_of_emit {text : String}
    (planned : context.messagePlans schema.composites = .ok plans)
    (distinct : Value.Distinct (plans.map (·.name))) (apart : HasDisjointNames context schema)
    (written : emit context schema = .ok text) :
    ∃ document, IsPrinted document text ∧ ∀ plan ∈ plans, ∃ definition,
      messageDefinition context.model plan = .ok definition ∧
        definition? document plan.name.display = some (.map definition) := by
  rcases bind_eq_ok_iff.mp written with ⟨view, viewed, written⟩
  rcases SchemaView.plans_of viewed with ⟨same, again, selected⟩
  cases planned.symm.trans again
  rcases bind_eq_ok_iff.mp written with ⟨entries, entered, written⟩
  rcases bind_eq_ok_iff.mp written with ⟨body, printed, final⟩
  rcases bind_eq_ok_iff.mp entered with ⟨templates, -, entered⟩
  rcases bind_eq_ok_iff.mp entered with ⟨messages, ofMessages, entered⟩
  rcases bind_eq_ok_iff.mp entered with ⟨enums, ofEnums, entered⟩
  cases entered
  refine ⟨_, ⟨body, printed, (Except.ok.inj final).symm⟩, fun plan member => ?_⟩
  rw [same] at ofMessages
  exact exists_definition_of_mem distinct (apart _ _ planned selected plan member) member ofMessages
    ofEnums

end JsonSchema

end WireSchema
