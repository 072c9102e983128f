import WireSchema.Proofs.ProtoText.Declarations
import WireSchema.Proofs.Schema.Origin
import WireSchema.Proofs.Text.Words

namespace WireSchema

/-!
# The names of fields and values

A field goes by the name that an annotation or its tag gives, or else by the words of its identifier
in small letters; a value of an enumeration by an annotated name or the words of its identifier in
capitals.  The validation compares numbers only, so nothing keeps names apart.  What does is the
parts that names have: the names in a message or an enumeration are different exactly when their
parts are, and identifiers with the same words, such as `UserID` and `UserId`, share a name.
-/

open Asked

/-! ## Parts -/

/-- The parts of the name of a field: those of a given name, or else the words of the identifier in
small letters. -/
def DeclaredField.nameParts (model : Model) (field : DeclaredField) : Asked (List (List Char)) := do
  match ← firstString? ["field"] "name" field.annotations with
  | some name => return Text.partsOfName name
  | none =>
      match nonempty? (← model.tagOf field).name with
      | some name => return Text.partsOfName name
      | none => return Text.smallWords (← field.name.askReplaceable)

/-- The parts of the name of a value: those of a given name, or else the words of the identifier in
capitals. -/
def EnumValue.nameParts (value : EnumValue) : Asked (List (List Char)) := do
  match ← firstString? ["enumvalue"] "name" value.annotations with
  | some name => return Text.partsOfName name
  | none => return Text.capitalWords (← value.name.askReplaceable)

theorem DeclaredField.nameParts_of_schemaName {model : Model} {field : DeclaredField}
    {name : String} (named : field.schemaName model = .ok name) :
    field.nameParts model = .ok (Text.partsOfName name) := by
  rcases bind_eq_ok_iff.mp named with ⟨given?, annotated, rest⟩
  rw [nameParts, annotated, ok_bind]
  cases given? with
  | some given =>
      cases rest
      rfl
  | none =>
      rcases bind_eq_ok_iff.mp rest with ⟨tag, read, rest⟩
      simp only [read, ok_bind]
      cases tagged : nonempty? tag.name with
      | some given =>
          rw [tagged] at rest
          cases rest
          rfl
      | none =>
          rw [tagged] at rest
          rcases bind_eq_ok_iff.mp rest with ⟨identifier, asked, final⟩
          rw [← Except.ok.inj final, Text.partsOfName_toSnakeCase]
          simp only [asked, ok_bind, pure_eq_ok]

theorem EnumValue.nameParts_of_schemaName {value : EnumValue} {name : String}
    (named : value.schemaName = .ok name) : value.nameParts = .ok (Text.partsOfName name) := by
  rcases bind_eq_ok_iff.mp named with ⟨given?, annotated, rest⟩
  rw [nameParts, annotated, ok_bind]
  cases given? with
  | some given =>
      cases rest
      rfl
  | none =>
      rcases bind_eq_ok_iff.mp rest with ⟨identifier, asked, final⟩
      rw [← Except.ok.inj final, Text.partsOfName_toScreamingSnakeCase]
      simp only [asked, ok_bind, pure_eq_ok]

/-- The parts of names that steps give for items, one by one. -/
theorem mapM_partsOfName {α : Type} {items : List α} {nameOf : α → Asked String}
    {partsOf : α → Asked (List (List Char))} {names : List String}
    (each : items.mapM nameOf = .ok names)
    (parts : ∀ item name, nameOf item = .ok name → partsOf item = .ok (Text.partsOfName name)) :
    items.mapM partsOf = .ok (names.map Text.partsOfName) := by
  rw [mapM_eq_ok_iff] at each ⊢
  rw [List.forall₂_map_right_iff]
  exact each.imp fun item name named => parts item name named

/-! ## Messages and enumerations -/

/-- The fields of a message have different names exactly when their names have different parts, and
the reserved names among them are those that have the parts of one. -/
def MessagePlan.IsNamedByParts (model : Model) (plan : MessagePlan) : Prop :=
  ∃ parts, plan.fields.mapM (fun planned => planned.field.nameParts model) = .ok parts ∧
    ((plan.fields.map (·.name)).Nodup ↔ parts.Nodup) ∧
    ∀ reserved ∈ plan.reservedNames,
      reserved ∈ plan.fields.map (·.name) ↔ Text.partsOfName reserved ∈ parts

/-- The values of an enumeration have different names exactly when their names have different
parts. -/
def EnumType.IsNamedByParts (enum : EnumType) : Prop :=
  ∃ names parts, enum.values.mapM EnumValue.schemaName = .ok names ∧
    enum.values.mapM EnumValue.nameParts = .ok parts ∧ (names.Nodup ↔ parts.Nodup)

namespace SchemaContext

theorem isNamedByParts_of_plan {context : SchemaContext} {composite : Composite} {message : Value}
    {plan : MessagePlan} (made : context.plan composite message = .ok plan) :
    plan.IsNamedByParts context.model := by
  have names : plan.fields.mapM (fun planned => planned.field.schemaName context.model) =
      .ok (plan.fields.map (·.name)) := by
    rw [mapM_eq_ok_iff, List.forall₂_map_right_iff, List.forall₂_same]
    intro planned member
    rcases exists_resolveField_of_plan made member with ⟨_, -, declared, -, next, resolved⟩
    exact (parts_of_resolveField resolved).1
  have parts := mapM_partsOfName names fun planned name => DeclaredField.nameParts_of_schemaName
  refine ⟨_, parts, ?_, ?_⟩
  · rw [List.nodup_map_iff Text.partsOfName_injective]
  · intro reserved _
    rw [List.mem_map_of_injective Text.partsOfName_injective]

end SchemaContext

theorem EnumType.isNamedByParts_of_enumBlock {enum : EnumType} {block : String}
    (written : ProtoText.enumBlock enum = .ok block) : enum.IsNamedByParts := by
  have named : (enum.values.mapM EnumValue.schemaName).Succeeds := by
    rcases ProtoText.exists_of_enumBlock written with ⟨_, values, -, each, -⟩
    apply succeeds_mapM
    intro value member
    rcases exists_mem_of_mapM each member with ⟨own, -, valueLines⟩
    rcases bind_eq_ok_iff.mp valueLines with ⟨_, -, rest⟩
    rcases bind_eq_ok_iff.mp rest with ⟨name, given, -⟩
    exact ⟨name, given⟩
  rcases named with ⟨names, named⟩
  have parts := mapM_partsOfName named fun value name => EnumValue.nameParts_of_schemaName
  refine ⟨names, _, named, parts, ?_⟩
  rw [List.nodup_map_iff Text.partsOfName_injective]

namespace ProtoText

/-- Whenever a file is written, the names of fields in each of its messages, and those of values in
each of its enumerations, are different exactly when their parts are, and a field has a reserved
name exactly when it has its parts. -/
theorem isNamedByParts_of_generate (context : SchemaContext) (schema : SchemaUnit) (text : String)
    (written : generate context schema = .ok text) :
    ∃ plans enums blocks, context.messagePlans schema.composites = .ok plans ∧
      Lists context schema plans text ∧
      writtenEnums schema.enums = .ok enums ∧ enums.mapM enumBlock = .ok blocks ∧
      (∀ plan ∈ plans, plan.IsNamedByParts context.model) ∧
      ∀ enum ∈ enums, enum.IsNamedByParts := by
  rcases bind_eq_ok_iff.mp written with ⟨found, accepted, -⟩
  rcases Validation.exists_messagePlans_of_check accepted with ⟨plans, planned, -⟩
  have lists := lists_of_generate planned written
  have ⟨_, _, _, _, _, _, _, ofEnums, _⟩ := lists
  rcases exists_enumBlocks ofEnums with ⟨enums, blocks, selected, each, -⟩
  refine ⟨plans, enums, blocks, planned, lists, selected, each, ?_, ?_⟩
  · intro plan member
    rcases SchemaContext.exists_of_mem_messagePlans planned member with
      ⟨composite, -, names, -, message, -, made⟩
    exact SchemaContext.isNamedByParts_of_plan made
  · intro enum member
    rcases exists_mem_of_mapM each member with ⟨block, -, own⟩
    exact EnumType.isNamedByParts_of_enumBlock own

/-- A model with a message and an enumeration of two members each, and a reserved name. -/
def ledgerModel : Model :=
  { composites :=
      [{ name := .text "Entry"
         fields :=
           [{ name := .text "EntryID", type := .named "int64" "" },
            { name := .text "Note", type := .named "string" ""
              annotations :=
                [{ name := .text "field", params := [("name", .text "entry_note")] }] }]
         annotations :=
          [{ name := .text "reserved", params := [("names", .list ["entry_date"])] }] }]
    enums :=
      [{ name := .text "Side"
         values :=
          [{ name := .text "Debit", index := .int 0 },
            { name := .text "Credit", index := .int 1 }] }] }

theorem isNamedByParts_of_generate_ledgerModel :
    ∃ text plans enums, generate (.of ledgerModel {}) ledgerModel.wholeUnit = .ok text ∧
      Lists (.of ledgerModel {}) ledgerModel.wholeUnit plans text ∧
      plans.map (fun plan => (plan.fields.map (·.name), plan.reservedNames)) =
        [(["entry_id", "entry_note"], ["entry_date"])] ∧
      writtenEnums ledgerModel.enums = .ok enums ∧
      (∀ plan ∈ plans, plan.IsNamedByParts ledgerModel) ∧ ∀ enum ∈ enums, enum.IsNamedByParts := by
  have generated :
      (generate (.of ledgerModel {}) ledgerModel.wholeUnit).toOption.isSome = true := by
    decide +kernel
  have named : ((SchemaContext.of ledgerModel {}).messagePlans ledgerModel.composites).toOption.map
      (·.map fun plan => (plan.fields.map (·.name), plan.reservedNames)) =
        some [(["entry_id", "entry_note"], ["entry_date"])] := by
    decide +kernel
  rcases exists_of_isSome_toOption generated with ⟨text, written⟩
  rcases exists_of_toOption_map named with ⟨plans, planned, shown⟩
  rcases isNamedByParts_of_generate (.of ledgerModel {}) ledgerModel.wholeUnit text written with
    ⟨others, enums, blocks, again, lists, selected, -, ofPlans, ofEnums⟩
  cases planned.symm.trans again
  exact ⟨text, plans, enums, written, lists, shown, selected, ofPlans, ofEnums⟩

/-- A model in which two fields, and two values, have identifiers with the same words. -/
def collidingModel : Model :=
  { composites :=
      [{ name := .text "User"
         fields :=
           [{ name := .text "UserID", type := .named "string" "" },
            { name := .text "UserId", type := .named "string" "" }]
         annotations := [{ name := .text "reserved", params := [("names", .list ["user_id"])] }] }]
    enums :=
      [{ name := .text "State"
         values :=
          [{ name := .text "InUse", index := .int 0 },
            { name := .text "in_use", index := .int 1 }] }] }

/-- Fields and values with one name pass the validation and are written, even under a name that is
reserved. -/
theorem isNamedByParts_of_generate_collidingModel :
    ∃ plans enums, generate (.of collidingModel {}) collidingModel.wholeUnit =
        .ok ("syntax = \"proto3\";\n\nmessage User \x7b\n  string user_id = 1;\n" ++
          "  string user_id = 2;\n  reserved \"user_id\";\n\x7d\n\n" ++
          "enum State \x7b\n  IN_USE = 0;\n  IN_USE = 1;\n\x7d\n\n") ∧
      (SchemaContext.of collidingModel {}).messagePlans collidingModel.composites = .ok plans ∧
      plans.map (fun plan => (plan.fields.map (·.name), plan.reservedNames)) =
        [(["user_id", "user_id"], ["user_id"])] ∧
      writtenEnums collidingModel.enums = .ok enums ∧
      enums.map (fun enum => (enum.values.mapM EnumValue.schemaName).toOption) =
        [some ["IN_USE", "IN_USE"]] := by
  have generated : (generate (.of collidingModel {}) collidingModel.wholeUnit).toOption.map id =
      some ("syntax = \"proto3\";\n\nmessage User \x7b\n  string user_id = 1;\n" ++
        "  string user_id = 2;\n  reserved \"user_id\";\n\x7d\n\n" ++
        "enum State \x7b\n  IN_USE = 0;\n  IN_USE = 1;\n\x7d\n\n") := by
    decide +kernel
  have named : ((SchemaContext.of collidingModel {}).messagePlans
      collidingModel.composites).toOption.map
      (·.map fun plan => (plan.fields.map (·.name), plan.reservedNames)) =
        some [(["user_id", "user_id"], ["user_id"])] := by
    decide +kernel
  have valued : (writtenEnums collidingModel.enums).toOption.map
      (·.map fun enum => (enum.values.mapM EnumValue.schemaName).toOption) =
        some [some ["IN_USE", "IN_USE"]] := by
    decide +kernel
  rcases exists_of_toOption_map generated with ⟨text, written, same⟩
  rcases exists_of_toOption_map named with ⟨plans, planned, shown⟩
  rcases exists_of_toOption_map valued with ⟨enums, selected, values⟩
  exact ⟨plans, enums, written.trans (congrArg Except.ok same), planned, shown, selected, values⟩

end ProtoText

end WireSchema
