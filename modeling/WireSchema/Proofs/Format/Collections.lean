import WireSchema.Format.JsonSchema
import WireSchema.Format.TypeScript
import WireSchema.Proofs.ProtoText.FieldText
import WireSchema.Proofs.ProtoText.Imports
import WireSchema.Proofs.Schema.Shapes

namespace WireSchema

/-!
# Collections in every format

The kind of a planned field says how its type is nested: a type by itself, a list of it, or a map
to it.  The schema file and the JSON Schema document write a field from its kind alone.  A
TypeScript definition reads the declared type once more, so it nests a field like the others only
when the declared type nests no deeper than the kind and states the same type in the same place.
`IsFlat` is this condition.  A type that is stated otherwise than by the declared type is no part of
the problem: then the declared type is not read.
-/

open Asked

/-! ## The type of a kind -/

namespace TypeScript

/-- The type of fields of a kind as it is declared, with its label.  It depends
on the kind alone, while TypeScript looks at the declared type too. -/
def kindType : FieldKind → Asked String
  | .single type | .optional type => typeName type
  | .repeated type => do return arrayOf (← typeName type)
  | .map _ value => do return recordOf (← typeName value)

end TypeScript

namespace JsonSchema

def kindFragment : FieldKind → Asked Members
  | .single type | .optional type => typeFragment type
  | .repeated type => do return arrayOf (← typeFragment type)
  | .map _ value => do return objectOf (← typeFragment value)

/-- The fragment of a field is that of its kind, with the description of the field. -/
theorem fieldFragment_eq (planned : PlannedField) :
    fieldFragment planned =
      (kindFragment planned.kind).map fun fragment => described fragment planned.description := by
  unfold fieldFragment kindFragment PlannedField.kind
  cases planned.shape with
  | map => cases found : typeFragment planned.mapTypes.2 <;> simp [found, Except.map]
  | scalar | repeated | optional | unsupported =>
      cases found : typeFragment planned.type <;> simp [found, Except.map]

end JsonSchema

namespace ProtoText

/-- The type of fields of a kind as it is declared, with its label. -/
def kindType (options : Options) : FieldKind → Asked String
  | .single type => type.admitText
  | .repeated type => do return "repeated " ++ (← type.admitText)
  | .optional type => do return labelOf options .optional ++ (← type.admitText)
  | .map key value => .ok ("map<" ++ key.display ++ ", " ++ value.display ++ ">")

/-- A field is declared with the type of its kind. -/
theorem declaredType_eq (options : Options) (planned : PlannedField) :
    declaredType options planned = kindType options planned.kind := by
  have unlabelled : ∀ type : Value, (do return "" ++ (← type.admitText) : Asked String) =
      type.admitText := by
    intro type
    cases type.admitText with
    | error fault => rfl
    | ok name => rw [ok_bind, String.empty_append, pure_eq_ok]
  unfold declaredType kindType PlannedField.kind
  cases planned.shape with
  | map | repeated | optional => rfl
  | scalar | unsupported => exact unlabelled planned.type

end ProtoText

/-! ## Types without nesting -/

namespace TypeExpr

/-- A type that holds one value: a name, possibly under pointers, or a sequence
of bytes.  Such a type nests nothing, however many pointers lead to it. -/
def isSingle : TypeExpr → Bool
  | named _ _ => true
  | pointer elem => elem.isSingle
  | sequence elem => (sequence elem).isByteSequence
  | mapping _ _ | generic _ _ => false

/-- A sequence of single values, possibly under pointers.  A sequence of bytes is
a single value and not a row, as the schema has one type for it. -/
def isRow : TypeExpr → Bool
  | pointer elem => elem.isRow
  | sequence elem => !(sequence elem).isByteSequence && elem.isSingle
  | named _ _ | mapping _ _ | generic _ _ => false

theorem isCollection_of_isSingle {type : TypeExpr} (single : type.isSingle = true) :
    type.isCollection = false := by
  cases type with
  | sequence elem =>
      rw [isSingle] at single
      rw [isCollection, single, Bool.not_true]
  | named | pointer | mapping | generic => rfl

end TypeExpr

namespace Text

theorem endsWith_append (text mark : String) : endsWith (text ++ mark) mark = true := by
  have cut : afterLeading? mark.toList.reverse (text ++ mark).toList.reverse =
      some text.toList.reverse := by
    rw [afterLeading?_eq_some_iff, String.toList_append, List.reverse_append]
  rw [endsWith, cut, Option.isSome_some]

end Text

namespace TypeScript

variable {table : TypeTable} {type : TypeExpr}

theorem endsWith_arrayOf (element : String) : Text.endsWith (arrayOf element) "[]" = true := by
  rw [arrayOf]
  split
  · have brackets : "(" ++ element ++ ")[]" = "(" ++ element ++ ")" ++ "[]" := by
      rw [← String.toList_inj]
      simp
    rw [brackets, Text.endsWith_append]
  · exact Text.endsWith_append element "[]"

/-- A type that holds one value has the counterpart of its schema type. -/
theorem exprType_of_isSingle : ∀ {type : TypeExpr}, type.isSingle = true →
    exprType table [] type = table.schemaType type >>= typeName
  | .named name package, _ => by
      rw [exprType, List.contains_nil, Bool.and_false, if_neg Bool.false_ne_true]
  | .pointer elem, single => by
      rw [TypeExpr.isSingle] at single
      rw [exprType, TypeTable.schemaType, exprType_of_isSingle single]
  | .sequence elem, single => by
      rw [TypeExpr.isSingle] at single
      rw [exprType, TypeTable.schemaType, if_pos single, if_pos single, ok_bind]
      rfl

/-- A sequence of single values has an array of the counterpart of its schema type. -/
theorem exprType_of_isRow : ∀ {type : TypeExpr}, type.isRow = true →
    exprType table [] type = do return arrayOf (← table.schemaType type >>= typeName)
  | .pointer elem, row => by
      rw [TypeExpr.isRow] at row
      rw [exprType, TypeTable.schemaType, exprType_of_isRow row]
  | .sequence elem, row => by
      rw [TypeExpr.isRow, Bool.and_eq_true, Bool.not_eq_true'] at row
      have values : ¬(TypeExpr.sequence elem).isByteSequence = true :=
        Bool.eq_false_iff.mp row.1
      rw [exprType, TypeTable.schemaType, if_neg values, if_neg values,
        exprType_of_isSingle row.2]

theorem typeName_text (content : String) : typeName (.text content) = .ok (textName content) := rfl

mutual

/-- Every type has a counterpart. -/
theorem succeeds_exprType (typed : table.IsTyped) (parameters : List Value) :
    ∀ type : TypeExpr, (exprType table parameters type).Succeeds
  | .named name package => by
      rcases table.exists_schemaType typed (.named name package) with ⟨content, found⟩
      rw [exprType]
      split
      · exact succeeds_ok name
      · rw [found, ok_bind, typeName_text]
        exact succeeds_ok _
  | .pointer elem => by
      rw [exprType]
      exact succeeds_exprType typed parameters elem
  | .sequence elem => by
      rw [exprType]
      split
      · exact succeeds_ok _
      · exact (succeeds_exprType typed parameters elem).bind fun _ _ => succeeds_ok _
  | .mapping _ value => by
      rw [exprType]
      exact (succeeds_exprType typed parameters value).bind fun _ _ => succeeds_ok _
  | .generic name args => by
      rw [exprType]
      exact (succeeds_exprTypes typed parameters args).bind fun _ _ => succeeds_ok _

theorem succeeds_exprTypes (typed : table.IsTyped) (parameters : List Value) :
    ∀ args : List TypeExpr, (exprTypes table parameters args).Succeeds
  | [] => by
      rw [exprTypes]
      exact succeeds_ok []
  | arg :: args => by
      rw [exprTypes]
      apply (succeeds_exprType typed parameters arg).bind
      intro first _
      exact (succeeds_exprTypes typed parameters args).bind fun _ _ => succeeds_ok _

end

end TypeScript

/-! ## Fields that nest like their kind -/

namespace PlannedField

variable {context : SchemaContext} {table : TypeTable} {planned : PlannedField}

/-- A field whose type is stated otherwise than by its declared type: by an
annotation or by a tag.  The further formats read the declared type again, so
that they can differ for such fields. -/
def IsRetyped (table : TypeTable) (planned : PlannedField) : Prop :=
  table.schemaType planned.field.type ≠ .ok planned.type

/-- The declared type of a field nests no deeper than the kind of the field: it is not read, or it
holds a single value where the kind has one.  The declared type of a map by annotation also has the
value type of the annotation.  The name of a repeated type is not one of arrays already, unless the
declared type makes it an array. -/
def IsFlat (table : TypeTable) (planned : PlannedField) : Prop :=
  match planned.kind with
  | .single _ | .optional _ => planned.IsRetyped table ∨ planned.field.type.isSingle = true
  | .repeated type =>
      (planned.IsRetyped table ∨ planned.field.type.isSingle = true ∨
        planned.field.type.isRow = true) ∧
      (planned.field.type.isCollection = true ∨
        ∀ name, TypeScript.typeName type = .ok name → Text.endsWith name "[]" = false)
  | .map _ value =>
      ∀ key declared, planned.field.type = .mapping key declared → declared.isSingle = true ∧
        (planned.field.annotatedMap? = .ok none ∨ table.schemaType declared = .ok value)

end PlannedField

namespace TypeScript

variable {context : SchemaContext} {composite : Composite} {message : Value}
  {declared : DeclaredField} {planned : PlannedField} {text : String}

/-- A type that is the same as the schema type of the declared type is that type: what is stated
otherwise is a text. -/
theorem schemaType_of_beq {mapped : Value}
    (isFrom : planned.IsFrom context composite message declared)
    (found : context.types.schemaType planned.field.type = .ok mapped)
    (same : (planned.type == mapped) = true) :
    context.types.schemaType planned.field.type = .ok planned.type := by
  rcases bind_eq_ok_iff.mp isFrom.type with ⟨annotated, -, rest⟩
  cases annotated with
  | some content =>
      rw [← Except.ok.inj rest, Value.text_beq_iff] at same
      rw [found, same, ← Except.ok.inj rest]
  | none =>
      rcases bind_eq_ok_iff.mp rest with ⟨tag, -, rest⟩
      split at rest
      · rename_i content _
        rw [← Except.ok.inj rest, Value.text_beq_iff] at same
        rw [found, same, ← Except.ok.inj rest]
      · exact rest

/-- Before repetition is made sure of, a field has the counterpart of its declared type when its
type is that of the declared type, and otherwise the counterpart of its type. -/
theorem of_plainFieldType (isFrom : planned.IsFrom context composite message declared)
    (found : plainFieldType context.types planned = .ok text) :
    (¬planned.IsRetyped context.types ∧ exprType context.types [] planned.field.type = .ok text) ∨
      ∃ name, typeName planned.type = .ok name ∧
        text = if planned.field.type.isCollection then arrayOf name else name := by
  rcases bind_eq_ok_iff.mp found with ⟨mapped, schemaType, rest⟩
  split at rest
  · rename_i same
    have own := schemaType_of_beq isFrom schemaType same
    exact .inl ⟨fun retyped => retyped own, rest⟩
  · split at rest
    · rename_i collection
      rcases bind_eq_ok_iff.mp rest with ⟨name, named, final⟩
      exact .inr ⟨name, named, by rw [if_pos collection, Except.ok.inj final]⟩
    · rename_i single
      exact .inr ⟨text, rest, (if_neg single).symm⟩

/-- A field that is no collection has the counterpart of its type. -/
theorem typeName_of_plainFieldType (isFrom : planned.IsFrom context composite message declared)
    (flat : planned.IsRetyped context.types ∨ planned.field.type.isSingle = true)
    (single : planned.field.type.isCollection = false)
    (found : plainFieldType context.types planned = .ok text) :
    typeName planned.type = .ok text := by
  rcases of_plainFieldType isFrom found with ⟨own, read⟩ | ⟨name, named, rfl⟩
  · have one := flat.resolve_left own
    rw [exprType_of_isSingle one, not_not.mp own, ok_bind] at read
    exact read
  · rw [single, if_neg Bool.false_ne_true]
    exact named

/-- A repeated field is an array of the counterpart of its type. -/
theorem arrayOf_of_plainFieldType (isFrom : planned.IsFrom context composite message declared)
    (flat : planned.IsRetyped context.types ∨ planned.field.type.isSingle = true ∨
      planned.field.type.isRow = true)
    (unbracketed : planned.field.type.isCollection = true ∨
      ∀ name, typeName planned.type = .ok name → Text.endsWith name "[]" = false)
    (found : plainFieldType context.types planned = .ok text) :
    ∃ name, typeName planned.type = .ok name ∧
      (if Text.endsWith text "[]" then text else arrayOf text) = arrayOf name := by
  rcases of_plainFieldType isFrom found with ⟨own, read⟩ | ⟨name, named, rfl⟩
  · rcases flat.resolve_left own with one | row
    · rw [exprType_of_isSingle one, not_not.mp own, ok_bind] at read
      rcases unbracketed with collection | unbracketed
      · rw [TypeExpr.isCollection_of_isSingle one] at collection
        cases collection
      · exact ⟨text, read, by rw [unbracketed text read, if_neg Bool.false_ne_true]⟩
    · rw [exprType_of_isRow row, not_not.mp own, ok_bind] at read
      rcases bind_eq_ok_iff.mp read with ⟨name, named, final⟩
      rw [← Except.ok.inj final, endsWith_arrayOf, if_pos rfl]
      exact ⟨name, named, rfl⟩
  · refine ⟨name, named, ?_⟩
    by_cases collection : planned.field.type.isCollection = true
    · rw [if_pos collection, endsWith_arrayOf, if_pos rfl]
    · rw [if_neg collection, unbracketed.resolve_left collection name named,
        if_neg Bool.false_ne_true]

/-- A map has records of the counterpart of its value type. -/
theorem recordOf_of_fieldType (isFrom : planned.IsFrom context composite message declared)
    (mapped : planned.shape = .map)
    (flat : ∀ key value, planned.field.type = .mapping key value → value.isSingle = true ∧
      (planned.field.annotatedMap? = .ok none ∨
        context.types.schemaType value = .ok planned.mapTypes.2))
    (found : fieldType context.types planned = .ok text) :
    ∃ name, typeName planned.mapTypes.2 = .ok name ∧ text = recordOf name := by
  rw [fieldType, mapped] at found
  simp only at found
  split at found
  · rename_i key value type
    rcases flat key value type with ⟨one, valued⟩
    have schemaType : context.types.schemaType value = .ok planned.mapTypes.2 := by
      rcases valued with bare | stated
      · have types := isFrom.mapTypes mapped
        simp only [DeclaredField.mapTypes, bare, ok_bind, type] at types
        rcases bind_eq_ok_iff.mp types with ⟨keyType, -, rest⟩
        rcases bind_eq_ok_iff.mp rest with ⟨valueType, read, final⟩
        rw [read, ← Except.ok.inj final]
      · exact stated
    rcases bind_eq_ok_iff.mp found with ⟨name, read, final⟩
    rw [exprType_of_isSingle one, schemaType, ok_bind] at read
    exact ⟨name, read, (Except.ok.inj final).symm⟩
  · rcases bind_eq_ok_iff.mp found with ⟨name, named, final⟩
    exact ⟨name, named, (Except.ok.inj final).symm⟩

/-- A field that nests like its kind has the type of its kind. -/
theorem kindType_of_fieldType (isFrom : planned.IsFrom context composite message declared)
    (flat : planned.IsFlat context.types)
    (found : fieldType context.types planned = .ok text) : kindType planned.kind = .ok text := by
  have shaped := DeclaredField.hasShape_of_shape isFrom.shape
  unfold PlannedField.IsFlat at flat
  unfold PlannedField.kind at flat ⊢
  cases shape : planned.shape with
  | map =>
      rw [shape] at flat
      rcases recordOf_of_fieldType isFrom shape flat found with ⟨name, named, rfl⟩
      simp only [kindType, named, ok_bind, pure_eq_ok]
  | repeated =>
      rw [shape] at flat
      simp only [fieldType, shape] at found
      rcases bind_eq_ok_iff.mp found with ⟨plain, read, final⟩
      rcases arrayOf_of_plainFieldType isFrom flat.1 flat.2 read with ⟨name, named, same⟩
      simp only [kindType, named, ok_bind, pure_eq_ok, ← same]
      exact final
  | optional | scalar | unsupported =>
      rw [shape] at flat shaped
      simp only [fieldType, shape] at found
      have single := shaped.isCollection_eq_false (by decide) (by decide)
      exact typeName_of_plainFieldType isFrom flat single found

/-- Every field of a typed context has a type. -/
theorem succeeds_fieldType (typed : context.types.IsTyped)
    (isFrom : planned.IsFrom context composite message declared) :
    (fieldType context.types planned).Succeeds := by
  have named : (typeName planned.type).Succeeds := by
    rcases DeclaredField.isText_schemaType typed isFrom.type with ⟨content, text⟩
    rw [text, typeName_text]
    exact succeeds_ok _
  have plain : (plainFieldType context.types planned).Succeeds := by
    apply (context.types.succeeds_schemaType typed planned.field.type).bind
    intro mapped _
    split
    · exact succeeds_exprType typed [] planned.field.type
    · split
      · exact named.bind fun _ _ => succeeds_ok _
      · exact named
  unfold fieldType
  split
  · rename_i mapped
    split
    · exact (succeeds_exprType typed [] _).bind fun _ _ => succeeds_ok _
    · rcases DeclaredField.isText_mapTypes typed (isFrom.mapTypes mapped) with ⟨content, text⟩
      rw [text, typeName_text]
      exact succeeds_ok _
  · exact plain.bind fun _ _ => succeeds_ok _
  · exact plain

end TypeScript

namespace SchemaContext

/-- Fields that nest like their kind nest alike in all formats: an array of one type in TypeScript
where the schema file repeats it and the JSON Schema document has an array of it, a record where
they have a map, and the type by itself otherwise. -/
theorem plan_nesting (context : SchemaContext) (composite : Composite) (message : Value)
    (plan : MessagePlan) (planned : PlannedField)
    (made : context.plan composite message = .ok plan) (member : planned ∈ plan.fields)
    (flat : planned.IsFlat context.types) :
    (∀ type, TypeScript.fieldType context.types planned = .ok type →
        TypeScript.kindType planned.kind = .ok type) ∧
      (context.types.IsTyped → (TypeScript.fieldType context.types planned).Succeeds) ∧
      ProtoText.declaredType context.options planned =
        ProtoText.kindType context.options planned.kind ∧
      JsonSchema.fieldFragment planned = (JsonSchema.kindFragment planned.kind).map
        fun fragment => JsonSchema.described fragment planned.description := by
  rcases exists_isFrom_of_plan made member with ⟨fields, -, declared, -, isFrom⟩
  exact ⟨fun type found => TypeScript.kindType_of_fieldType isFrom flat found,
    fun typed => TypeScript.succeeds_fieldType typed isFrom,
    ProtoText.declaredType_eq context.options planned, JsonSchema.fieldFragment_eq planned⟩

/-- Rows of texts whose type is stated to be an integer. -/
def retypedRows : DeclaredField where
  name := .text "Ids"
  type := .sequence (.sequence (.named "string" ""))
  annotations := [{ name := .text "field", params := [("type", .text "int64")] }]

/-- A map to texts that is stated to be one to integers. -/
def restatedMap : DeclaredField where
  name := .text "Scores"
  type := .mapping (.named "string" "") (.named "string" "")
  annotations :=
    [{ name := .text "map", params := [("key", .text "string"), ("value", .text "int32")] }]

def nestedRows : DeclaredField where
  name := .text "Rows"
  type := .sequence (.sequence (.named "string" ""))

def nestingType : Composite where
  name := .text "Table"
  fields := [retypedRows, restatedMap, nestedRows]

def nestingContext : SchemaContext :=
  .of { composites := [nestingType] } {}

def plannedRows : PlannedField :=
  { field := retypedRows, name := "ids", number := 1, isExplicit := false, type := .text "int64"
    shape := .repeated, mapTypes := DeclaredField.noMapTypes, options := []
    description := .text "" }

private theorem isTyped_nestingContext : nestingContext.IsTyped := by
  refine SchemaContext.of_isTyped (Model.isTyped_single ⟨Value.isText_text _, rfl, ?_, ?_⟩)
    (Options.isTyped_of_empty rfl rfl)
  · intro field member
    simp only [nestingType, List.mem_cons, List.not_mem_nil, or_false] at member
    rcases member with rfl | rfl | rfl <;>
      exact ⟨Value.isText_text _, Value.isText_text _, rfl⟩
  · rintro param ⟨⟩

theorem plan_nesting_retypedRows :
    plannedRows.IsFlat nestingContext.types ∧
      TypeScript.fieldType nestingContext.types plannedRows = .ok "number[]" ∧
      ProtoText.declaredType {} plannedRows = .ok "repeated int64" := by
  have planned : (nestingContext.plan nestingType (.text "Table")).toOption.map (·.fields.head?) =
      some (some plannedRows) := by
    cbv
  rcases exists_of_toOption_map planned with ⟨plan, made, first⟩
  have declaredType : nestingContext.types.schemaType plannedRows.field.type =
      .ok (.text "string") := by
    cbv
  have retyped : plannedRows.IsRetyped nestingContext.types := by
    rw [PlannedField.IsRetyped, declaredType]
    exact fun same => absurd (Value.text.inj (Except.ok.inj same)) (by decide)
  have flat : plannedRows.IsFlat nestingContext.types := ⟨.inl retyped, .inl rfl⟩
  rcases plan_nesting nestingContext nestingType (.text "Table") plan plannedRows made
    (List.mem_of_head? first) flat with ⟨same, succeeds, declared, -⟩
  rcases succeeds isTyped_nestingContext.types with ⟨type, found⟩
  have kind : (TypeScript.kindType plannedRows.kind).toOption = some "number[]" := by
    decide +kernel
  rw [same type found] at kind
  exact ⟨flat, Option.some.inj kind ▸ found, declared.trans rfl⟩

/-- A stated value type is passed over where the declared type is a map of its own, and rows of rows
stay nested, while the schema file has the stated value type and repeats the rows once. -/
theorem plan_nesting_restatedMap :
    ∃ plan, nestingContext.plan nestingType (.text "Table") = .ok plan ∧
      plan.composite.target?.isSome = false ∧
      plan.fields.map (fun planned =>
        ((TypeScript.fieldType nestingContext.types planned).toOption,
          (TypeScript.kindType planned.kind).toOption,
          (ProtoText.declaredType {} planned).toOption)) =
        [(some "number[]", some "number[]", some "repeated int64"),
          (some "Record<string, string>", some "Record<string, number>", some "map<string, int32>"),
          (some "string[][]", some "string[]", some "repeated string")] := by
  have planned : (nestingContext.plan nestingType (.text "Table")).toOption.map (fun plan =>
      (plan.composite.target?.isSome, plan.fields.map fun planned =>
        ((TypeScript.fieldType nestingContext.types planned).toOption,
          (TypeScript.kindType planned.kind).toOption,
          (ProtoText.declaredType {} planned).toOption))) =
      some (false,
        [(some "number[]", some "number[]", some "repeated int64"),
          (some "Record<string, string>", some "Record<string, number>", some "map<string, int32>"),
          (some "string[][]", some "string[]", some "repeated string")]) := by
    decide +kernel
  rcases exists_of_toOption_map planned with ⟨plan, made, shown⟩
  exact ⟨plan, made, (Prod.mk.inj shown).1, (Prod.mk.inj shown).2⟩

end SchemaContext

end WireSchema
