import WireSchema.Proofs.Document.Layout
import WireSchema.Proofs.Format.Properties
import WireSchema.Proofs.Validation.Plans

namespace WireSchema

/-!
# The outputs of a unit agree

A unit that is accepted is written as schema text, as a reference document, as TypeScript, as a JSON
Schema document and as stub data.  All of them hold the same messages with the same fields, in the
order of the plans.  Where the names of a message's fields in JSON differ, the properties of its
JSON Schema definition and the members of its interface in TypeScript have these names in order, and
a member is marked exactly when its name is not required.
-/

open Asked

/-- The interface of a message whose fields have some names in JSON: it has one member for each
field in order, under the field's name, and marked when the name is not required. -/
def TypeScript.IsInterface (context : SchemaContext) (plan : MessagePlan) (names : List String)
    (required : List Value) (definition : String) : Prop :=
  ∃ members, List.Forall₂ (fun (entry : PlannedField × String) member =>
      ∃ type, fieldType context.types entry.1 = .ok type ∧
        IsMemberLine entry.1.description entry.2 (!required.contains (.text entry.2)) type member)
      (plan.fields.zip names) members ∧
    IsInterfaceText plan.description plan.name.display members definition

/-- A text is a JSON document in writing, with one line feed at its end.  Its brackets, quotes and
line feeds are those of the grammar of JSON, so that its names can be told from the text alone. -/
def JsonSchema.IsWritten (document : Value) (text : String) : Prop :=
  ∃ body, Json.IsLaidOut 0 document body ∧ text = body ++ "\n"

theorem JsonSchema.isWritten_of_isPrinted {document : Value} {text : String}
    (printed : IsPrinted document text) : IsWritten document text := by
  rcases printed with ⟨body, written, rfl⟩
  exact ⟨body, Json.isLaidOut_of_indented written, rfl⟩

/-- A message that is no alias and whose fields have different names in JSON has properties under
these names in a JSON Schema document, in order. -/
def JsonSchema.HasProperties (context : SchemaContext) (document : Value) (plan : MessagePlan) :
    Prop :=
  plan.composite.target? = none →
    ∀ names, plan.fields.mapM (·.field.jsonName context.model) = .ok names → names.Nodup →
      ∃ schema, definition? document plan.name.display = some schema ∧
        propertyNames schema = names.map .text

/-- The properties of such a message are the members of its interface too, and those that are not
required are the members that are marked. -/
def SameMembers (context : SchemaContext) (document : Value) (plan : MessagePlan)
    (definition : String) : Prop :=
  plan.composite.target? = none →
    ∀ names, plan.fields.mapM (·.field.jsonName context.model) = .ok names → names.Nodup →
      ∃ schema, JsonSchema.definition? document plan.name.display = some schema ∧
        JsonSchema.propertyNames schema = names.map .text ∧
        TypeScript.IsInterface context plan names (JsonSchema.requiredBy schema) definition

/-- All outputs of a unit hold the messages of the given plans, in order and field by field.  Stub
data is made of a whole model, so its types are compared where the unit has all composite types of
the model, and otherwise the descriptors of the unit's own ones. -/
structure OutputsAgree (context : SchemaContext) (schema : SchemaUnit) (plans : List MessagePlan) :
    Prop where
  schemaText : ∀ text, ProtoText.generate context schema = .ok text →
    ProtoText.Lists context schema plans text
  reference : ∀ text, Markdown.emit context schema = .ok text →
    Markdown.Lists context schema plans text
  typeScript : ∀ text, TypeScript.emit context schema = .ok text →
    ∃ definitions, TypeScript.Lists context schema plans definitions text
  jsonSchema : ∀ text, JsonSchema.emit context schema = .ok text →
    ∃ document, JsonSchema.IsWritten document text ∧
      ∀ plan ∈ plans, JsonSchema.HasProperties context document plan
  descriptors : ∀ types lists,
    schema.composites.mapM (Stub.messageInfos context types) = .ok lists →
      List.Forall₂ Stub.IsTypeInfoOf plans lists.flatten
  stubs : schema.composites = context.model.composites → ∀ stubs commandLine data,
    Stub.StubData.of context stubs commandLine = .ok data →
      List.Forall₂ Stub.IsTypeInfoOf plans data.types
  members : ∀ json script, JsonSchema.emit context schema = .ok json →
    TypeScript.emit context schema = .ok script →
      ∃ document definitions, JsonSchema.IsWritten document json ∧
        TypeScript.Lists context schema plans definitions script ∧
        List.Forall₂ (SameMembers context document) plans definitions

variable {context : SchemaContext} {schema : SchemaUnit}

/-- What a message requires in JSON decides which members of its interface are marked. -/
theorem sameMembers_of_definitions {document : Value} {plan : MessagePlan} {fields : Members}
    {definition : String} (defined : JsonSchema.messageDefinition context.model plan = .ok fields)
    (found : JsonSchema.definition? document plan.name.display = some (.map fields))
    (own : TypeScript.IsDefinitionOf context plan definition) :
    SameMembers context document plan definition := by
  intro plain names named distinct
  rcases JsonSchema.exists_of_messageDefinition plain named distinct defined with ⟨keys, marked⟩
  refine ⟨_, found, keys, ?_⟩
  cases own with
  | instantiation isAlias => cases plain.symm.trans isAlias
  | @interface members _ _ each text =>
      refine ⟨members, forall₂_of_common (forall₂_zip marked) each ?_, text⟩
      rintro planned ⟨_, name⟩ member ⟨rfl, own, same⟩ ⟨other, type, again, typed, line⟩
      cases own.symm.trans again
      exact ⟨type, typed, same ▸ line⟩

/-- A unit that is accepted has plans for its messages, and all of its outputs agree on them as long
as no enumeration has the name of a message. -/
theorem exists_outputsAgree {found : List Finding}
    (accepted : Validation.check context schema = .ok found)
    (apart : HasDisjointNames context schema) :
    ∃ plans, context.messagePlans schema.composites = .ok plans ∧
      OutputsAgree context schema plans := by
  rcases Validation.exists_messagePlans_of_check accepted with ⟨plans, planned, distinct⟩
  refine ⟨plans, planned, ?_, ?_, ?_, ?_, ?_, ?_, ?_⟩
  · exact fun text written => ProtoText.lists_of_generate planned written
  · exact fun text written => Markdown.lists_of_emit planned written
  · exact fun text written => TypeScript.exists_definitions_of_emit planned written
  · intro text written
    rcases JsonSchema.exists_document_of_emit planned distinct apart written with
      ⟨document, printed, each⟩
    refine ⟨document, JsonSchema.isWritten_of_isPrinted printed,
      fun plan member plain names named different => ?_⟩
    rcases each plan member with ⟨fields, defined, found⟩
    exact ⟨_, found, (JsonSchema.exists_of_messageDefinition plain named different defined).1⟩
  · exact fun types lists described => Stub.typeInfos_of_messageInfos planned described
  · intro whole stubs commandLine data made
    rw [whole] at planned
    exact Stub.types_of_stubData planned made
  · intro json script ofJson ofScript
    rcases JsonSchema.exists_document_of_emit planned distinct apart ofJson with
      ⟨document, printed, each⟩
    rcases TypeScript.exists_definitions_of_emit planned ofScript with ⟨definitions, listed⟩
    refine ⟨document, definitions, JsonSchema.isWritten_of_isPrinted printed, listed, ?_⟩
    rcases listed with ⟨view, enums, templates, -, -, -, related, -⟩
    rcases List.forall₂_iff_zip.mp related with ⟨count, own⟩
    refine List.forall₂_iff_zip.mpr ⟨count, fun {plan definition} member => ?_⟩
    rcases each plan (List.of_mem_zip member).1 with ⟨fields, defined, found⟩
    exact sameMembers_of_definitions defined found (own member)

/-- A model with a type that is written as two messages, one of which lacks a field, with a template
and with an enumeration. -/
def shopModel : Model :=
  { composites :=
      [{ name := .text "Item"
         annotations :=
           [{ name := .text "message", params := [("name", .text "Item")] },
            { name := .text "message", params := [("name", .text "ItemLabel")] }]
         fields :=
           [{ name := .text "id", type := .named "int" "" },
            { name := .text "note", type := .pointer (.named "str" "")
              annotations :=
                [{ name := .text "field", params := [("json_name", .text "remark")] }] },
            { name := .text "price", type := .named "Price" ""
              annotations :=
                [{ name := .text "ignore", params := [("for", .text "ItemLabel")] }] }] },
       { name := .text "Page", typeParams := [.text "T"]
         fields := [{ name := .text "items", type := .sequence (.named "T" "") }] }]
    enums := [{ name := .text "Price" }] }

def shopContext : SchemaContext := .of shopModel {}

theorem hasDisjointNames_shopModel : HasDisjointNames shopContext shopModel.wholeUnit := by
  have names : (shopContext.messagePlans shopModel.wholeUnit.composites).toOption.map
      (·.map (·.name.display)) = some ["Item", "ItemLabel"] := by decide +kernel
  have enumNames : (writtenEnums shopModel.wholeUnit.enums).toOption.map
      (·.map (·.schemaName.toOption.map (·.display))) = some (["Price"].map some) := by
    decide +kernel
  exact hasDisjointNames_of_display names enumNames (by decide)

theorem exists_outputsAgree_shopModel :
    ∃ plans text reference script json data document definitions,
      shopContext.messagePlans shopModel.composites = .ok plans ∧
      plans.map (fun plan => (plan.name.display, plan.fields.map (·.name))) =
        [("Item", ["id", "note", "price"]), ("ItemLabel", ["id", "note"])] ∧
      ProtoText.generate shopContext shopModel.wholeUnit = .ok text ∧
      ProtoText.Lists shopContext shopModel.wholeUnit plans text ∧
      Markdown.emit shopContext shopModel.wholeUnit = .ok reference ∧
      Markdown.Lists shopContext shopModel.wholeUnit plans reference ∧
      TypeScript.emit shopContext shopModel.wholeUnit = .ok script ∧
      TypeScript.Lists shopContext shopModel.wholeUnit plans definitions script ∧
      JsonSchema.emit shopContext shopModel.wholeUnit = .ok json ∧
      JsonSchema.IsWritten document json ∧
      List.Forall₂ (SameMembers shopContext document) plans definitions ∧
      Stub.StubData.of shopContext {} "gen" = .ok data ∧
      List.Forall₂ Stub.IsTypeInfoOf plans data.types := by
  have accepted : (Validation.check shopContext shopModel.wholeUnit).toOption.isSome = true := by
    decide +kernel
  have written : (ProtoText.generate shopContext shopModel.wholeUnit).toOption.isSome = true := by
    decide +kernel
  have documented : (Markdown.emit shopContext shopModel.wholeUnit).toOption.isSome = true := by
    decide +kernel
  have typed : (TypeScript.emit shopContext shopModel.wholeUnit).toOption.isSome = true := by
    decide +kernel
  have described : (JsonSchema.emit shopContext shopModel.wholeUnit).toOption.isSome = true := by
    decide +kernel
  have adapted : (Stub.StubData.of shopContext {} "gen").toOption.isSome = true := by
    decide +kernel
  have held : (shopContext.messagePlans shopModel.composites).toOption.map
      (·.map fun plan => (plan.name.display, plan.fields.map (·.name))) =
        some [("Item", ["id", "note", "price"]), ("ItemLabel", ["id", "note"])] := by
    decide +kernel
  rcases exists_of_isSome_toOption accepted with ⟨found, accepted⟩
  rcases exists_of_isSome_toOption written with ⟨text, written⟩
  rcases exists_of_isSome_toOption documented with ⟨reference, documented⟩
  rcases exists_of_isSome_toOption typed with ⟨script, typed⟩
  rcases exists_of_isSome_toOption described with ⟨json, described⟩
  rcases exists_of_isSome_toOption adapted with ⟨data, adapted⟩
  rcases exists_of_toOption_map held with ⟨plans, planned, held⟩
  rcases exists_outputsAgree accepted hasDisjointNames_shopModel with ⟨others, again, agree⟩
  cases planned.symm.trans again
  rcases agree.members json script described typed with
    ⟨document, definitions, printed, listed, same⟩
  exact ⟨plans, text, reference, script, json, data, document, definitions, planned, held, written,
    agree.schemaText text written, documented, agree.reference reference documented, typed, listed,
    described, printed, same, adapted, agree.stubs rfl {} "gen" data adapted⟩

end WireSchema
