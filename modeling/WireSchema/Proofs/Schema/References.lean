import Mathlib
import WireSchema.Proofs.Schema.Naming
import WireSchema.Proofs.Schema.Origin
import WireSchema.Proofs.TypeExpr.Grammar

namespace WireSchema

/-!
# References to declared types

A field refers to an enumeration or a message by the name that its declared type has, while the
declaration itself is written under the name that its annotations give it.  Nothing compares the two
names.  So a reference is the name of what it refers to as long as the declaration keeps its name,
and leads nowhere once an annotation renames it.
-/

open Asked

namespace Text

theorem afterLast_of_not_mem {separator : Char} {text : String} (absent : separator ∉ text.toList) :
    afterLast separator text = text := by
  rw [afterLast, breakAtLast?_of_not_mem absent]

theorem afterLast_append {separator : Char} {before after : List Char}
    (absent : separator ∉ after) :
    afterLast separator (String.ofList (before ++ separator :: after)) = String.ofList after := by
  rw [afterLast, String.toList_ofList, breakAtLast?_append absent]

end Text

namespace TypeExpr

theorem afterLast_qualify {name : String} (pointless : '.' ∉ name.toList) (package : String) :
    Text.afterLast '.' (qualify name package) = name := by
  rw [qualify]
  split
  · exact Text.afterLast_of_not_mem pointless
  · have split : package ++ "." ++ name =
        String.ofList (package.toList ++ '.' :: name.toList) := by
      rw [← String.toList_inj]
      simp
    rw [split, Text.afterLast_append pointless, String.ofList_toList]

end TypeExpr

namespace TypeTable

variable {table : TypeTable}

/-- A name for which neither options nor built-in types have a schema type.  Only
such a name can be one that the model declares. -/
structure LeavesOpen (table : TypeTable) (name : String) : Prop where
  override : table.override? name = .ok none
  known : table.knownSchemaType? name = .ok none
  builtin : lookupKey? name builtinTypes = none

theorem mapName_of_leavesOpen {name : String} (leavesOpen : table.LeavesOpen name) :
    table.mapName name = .ok (.text (Text.afterLast '.' name)) := by
  rw [mapName, leavesOpen.override, ok_bind]
  simp only [leavesOpen.known, leavesOpen.builtin, ok_bind, Option.getD_none, pure_eq_ok]

/-- Pointers and sequences are looked through. -/
theorem schemaType_unwrap (table : TypeTable) :
    ∀ type : TypeExpr, table.schemaType type.unwrap = table.schemaType type
  | .named _ _ | .mapping _ _ | .generic _ _ => by
      rw [TypeExpr.unwrap]
      all_goals nofun
  | .pointer elem => by rw [TypeExpr.unwrap, schemaType, schemaType_unwrap table elem]
  | .sequence elem => by
      rw [TypeExpr.unwrap]
      split
      · rfl
      · rename_i values
        rw [schemaType, if_neg values, schemaType_unwrap table elem]

theorem schemaType_of_unwrap {name package : String} {type : TypeExpr}
    (inside : type.unwrap = .named name package) :
    table.schemaType type = table.mapName (TypeExpr.qualify name package) := by
  rw [← schemaType_unwrap, inside, schemaType]

end TypeTable

/-- A field whose type neither an annotation nor its tag states.  An empty type
counts as none in either place. -/
structure DeclaredField.StatesNoType (model : Model) (field : DeclaredField) : Prop where
  annotated : firstString? ["field"] "type" field.annotations = .ok none
  tagged : ∃ tag, model.tagOf field = .ok tag ∧ nonempty? tag.type = none

theorem DeclaredField.schemaType_of_statesNoType {context : SchemaContext} {field : DeclaredField}
    (silent : field.StatesNoType context.model) :
    field.schemaType context = context.types.schemaType field.type := by
  rcases silent.tagged with ⟨tag, read, typeless⟩
  rw [schemaType, silent.annotated, ok_bind]
  simp only [read, ok_bind, typeless]

namespace SchemaContext

/-- A field whose type is a name under pointers and sequences, for which nothing else states a
schema type, is written with that name.  So an enumeration is written under the name by which the
field refers to it exactly when no annotation gives it another one, and the only message of a
composite type exactly when it is named like the type. -/
theorem plan_reference (context : SchemaContext) (composite : Composite) (message : Value)
    (plan : MessagePlan) (planned : PlannedField) (name package : String)
    (made : context.plan composite message = .ok plan) (member : planned ∈ plan.fields)
    (silent : planned.field.StatesNoType context.model)
    (inside : planned.field.type.unwrap = .named name package) (pointless : '.' ∉ name.toList)
    (leavesOpen : context.types.LeavesOpen (TypeExpr.qualify name package)) :
    planned.type = .text name ∧
      (∀ (enum : EnumType) (given? : Option String), enum.name = .text name →
        firstString? ["enum"] "name" enum.annotations = .ok given? →
        (enum.schemaName = .ok planned.type ↔ ∀ given ∈ given?, given = name)) ∧
      ∀ (other : Composite) (declared : Value), other.name = .text name →
        other.messageNames = .ok [declared] →
          (planned.type = declared ↔ declared = other.name) := by
  have type : planned.type = .text name := by
    rcases exists_isFrom_of_plan made member with ⟨fields, -, declared, -, isFrom⟩
    have found := isFrom.type
    rw [DeclaredField.schemaType_of_statesNoType silent, TypeTable.schemaType_of_unwrap inside,
      TypeTable.mapName_of_leavesOpen leavesOpen, TypeExpr.afterLast_qualify pointless] at found
    exact (Except.ok.inj found).symm
  refine ⟨type, ?_, ?_⟩
  · intro enum given? named annotated
    rw [EnumType.schemaName, renamed, annotated, ok_bind, pure_eq_ok, type, Except.ok.injEq]
    cases given? with
    | none =>
        refine ⟨?_, fun _ => named⟩
        rintro _ given ⟨⟩
    | some given =>
        rw [Option.map_some, Option.getD_some, Value.text.injEq]
        exact ⟨fun same _ found => Option.some.inj found ▸ same, fun all => all given rfl⟩
  · intro other declared named _
    rw [type, named, eq_comm]

def roleField : DeclaredField :=
  { name := .text "Role", type := .pointer (.named "Role" "") }

def referringType : Composite :=
  { name := .text "User", fields := [roleField] }

/-- An enumeration that is written under another name than its own. -/
def renamedEnum : EnumType :=
  { name := .text "Role"
    annotations := [{ name := .text "enum", params := [("name", .text "UserRole")] }]
    values := [{ name := .text "Guest", index := .int 0 }] }

def renamedModel : Model :=
  { composites := [referringType], enums := [renamedEnum] }

def plannedRole : PlannedField :=
  { field := roleField, name := "role", number := 1, isExplicit := false, type := .text "Role"
    shape := .optional, mapTypes := DeclaredField.noMapTypes, options := []
    description := .text "" }

private theorem plan_referringType :
    ((SchemaContext.of renamedModel {}).plan referringType (.text "User")).toOption.map (·.fields) =
      some [plannedRole] := by
  cbv

theorem plan_reference_renamedEnum :
    plannedRole.field.StatesNoType renamedModel ∧ plannedRole.field.type.unwrap = .named "Role" "" ∧
      (SchemaContext.of renamedModel {}).types.LeavesOpen "Role" ∧
      plannedRole.type = .text "Role" ∧ renamedEnum.schemaName ≠ .ok plannedRole.type := by
  have silent : plannedRole.field.StatesNoType renamedModel := ⟨by cbv, {}, by cbv, rfl⟩
  have leavesOpen : (SchemaContext.of renamedModel {}).types.LeavesOpen "Role" :=
    ⟨rfl, rfl, by decide⟩
  have annotated : firstString? ["enum"] "name" renamedEnum.annotations =
      .ok (some "UserRole") := by
    cbv
  rcases exists_of_toOption_map plan_referringType with ⟨plan, made, fields⟩
  have member : plannedRole ∈ plan.fields := fields ▸ List.mem_cons_self
  rcases plan_reference (.of renamedModel {}) referringType (.text "User") plan
    plannedRole "Role" ""
    made member silent rfl (by decide) leavesOpen with ⟨type, ofEnum, -⟩
  refine ⟨silent, rfl, leavesOpen, type, ?_⟩
  rw [ne_eq, ofEnum renamedEnum _ rfl annotated]
  exact fun all => absurd (all "UserRole" rfl) (by decide)

/-- The field refers to the enumeration by the name that the enumeration does not have in the
output. -/
theorem plan_reference_dangling :
    ∃ plan, (SchemaContext.of renamedModel {}).plan referringType (.text "User") = .ok plan ∧
      plan.fields.map (·.type) = [.text "Role"] ∧ renamedEnum ∈ renamedModel.enums ∧
      renamedEnum.isWritten = .ok true ∧ renamedEnum.schemaName = .ok (.text "UserRole") := by
  rcases exists_of_toOption_map plan_referringType with ⟨plan, made, fields⟩
  refine ⟨plan, made, ?_, List.mem_cons_self, by cbv, by cbv⟩
  rw [fields]
  rfl

end SchemaContext

end WireSchema
