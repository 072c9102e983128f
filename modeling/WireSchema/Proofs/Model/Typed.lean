import WireSchema.Proofs.Annotation.Query
import WireSchema.Schema.FieldRules

namespace WireSchema

/-!
# Models whose values have their expected kinds

A model is read from a document that is not checked, so a name may turn out to be no text and an
index no number.  A typed model is one in which every value that the schema needs as a text, a
number or a table is one.  These are the kinds that the declarations of a model state, and no more:
documentation, packages and whatever else is only passed on may be of any kind.

Typedness decides only whether a step has a result.  No law about results assumes it.
-/

/-- A field whose name and tag are texts, like the names of its annotations.  A
document may hold any values there, and what it holds is kept as it is until it
is used. -/
structure DeclaredField.IsTyped (field : DeclaredField) : Prop where
  name : field.name.IsText
  tag : field.tag.IsText
  notes : field.annotations.all Annotation.hasTextName = true

/-- A composite type whose names are texts, with typed fields.  Documents may
have other values in these places, on which several steps fail. -/
structure Composite.IsTyped (composite : Composite) : Prop where
  name : composite.name.IsText
  notes : composite.annotations.all Annotation.hasTextName = true
  fields : ∀ field ∈ composite.fields, field.IsTyped
  typeParams : ∀ param ∈ composite.typeParams, param.IsText

/-- A value of an enumeration with a text for a name and an integer for an
index.  So its number is an integer whether it is stated or not. -/
structure EnumValue.IsTyped (value : EnumValue) : Prop where
  name : value.name.IsText
  index : ∃ number, value.index = .int number
  notes : value.annotations.all Annotation.hasTextName = true

/-- An enumeration whose names are texts, with typed values. -/
structure EnumType.IsTyped (enum : EnumType) : Prop where
  name : enum.name.IsText
  notes : enum.annotations.all Annotation.hasTextName = true
  values : ∀ value ∈ enum.values, value.IsTyped

/-- A method whose annotations have texts for names. -/
def Method.IsTyped (method : Method) : Prop :=
  method.annotations.all Annotation.hasTextName = true

/-- A contract whose names are texts, with typed methods.  The types of
parameters and results need no condition of their own. -/
structure ServiceContract.IsTyped (contract : ServiceContract) : Prop where
  name : contract.name.IsText
  notes : contract.annotations.all Annotation.hasTextName = true
  methods : ∀ method ∈ contract.methods, method.IsTyped

/-- A model of typed composite types and functions.  Enumerations and contracts
are conditions on units, which declare them. -/
structure Model.IsTyped (model : Model) : Prop where
  composites : ∀ composite ∈ model.composites, composite.IsTyped
  functions : ∀ function ∈ model.functions, function.toMethod.IsTyped

/-- A unit of typed declarations within a typed model.  The model is named on its
own, since types and templates are looked up in all of it. -/
structure SchemaUnit.IsTyped (schema : SchemaUnit) : Prop where
  model : schema.model.IsTyped
  composites : ∀ composite ∈ schema.composites, composite.IsTyped
  enums : ∀ enum ∈ schema.enums, enum.IsTyped
  services : ∀ contract ∈ schema.services, contract.IsTyped

/-- Options with a mapping to texts for overrides, and with known types that are
read.  The schema types that they give have to be texts, as they are taken
without a look at their kind. -/
structure Options.IsTyped (options : Options) : Prop where
  overrides : ∃ members, options.typeMappings = some (.map members) ∧
    ∀ member ∈ members, member.2.IsText
  known : ∃ entries, options.knownTypes = .read entries ∧ ∀ entry ∈ entries, entry.2.type.IsText

structure TypeTable.IsTyped (table : TypeTable) : Prop where
  overrides : ∃ members, table.overrides = some (.map members) ∧ ∀ member ∈ members, member.2.IsText
  known : ∃ entries, table.known = .read entries ∧ ∀ entry ∈ entries, entry.2.type.IsText
  aliases : ∀ entry ∈ table.aliases, entry.2.IsText

/-- A typed model with a typed table. -/
structure SchemaContext.IsTyped (context : SchemaContext) : Prop where
  model : context.model.IsTyped
  types : context.types.IsTyped

/-- Every name in the table of aliases is that of a composite type. -/
theorem mem_aliasesOf {entry : String × Value} {composites : List Composite}
    (member : entry ∈ TypeTable.aliasesOf composites) :
    ∃ composite ∈ composites, entry.2 = composite.name := by
  rcases List.mem_filterMap.mp member with ⟨composite, declared, found⟩
  rcases Option.map_eq_some_iff.mp found with ⟨target, _, rfl⟩
  exact ⟨composite, declared, rfl⟩

/-- Typed options make a typed context of a typed model. -/
theorem SchemaContext.of_isTyped {model : Model} {options : Options} (modelTyped : model.IsTyped)
    (optionsTyped : options.IsTyped) : (SchemaContext.of model options).IsTyped where
  model := modelTyped
  types :=
    { overrides := optionsTyped.overrides
      known := optionsTyped.known
      aliases := by
        intro entry member
        rcases mem_aliasesOf member with ⟨composite, declared, name⟩
        rw [name]
        exact (modelTyped.composites composite declared).name }

theorem Model.isTyped_single {composite : Composite} (typed : composite.IsTyped) :
    Model.IsTyped { composites := [composite] } where
  composites := by
    intro other member
    rw [List.mem_singleton.mp member]
    exact typed
  functions := by rintro function ⟨⟩

/-- Options without overrides and known types are typed. -/
theorem Options.isTyped_of_empty {options : Options}
    (overrides : options.typeMappings = some (.map [])) (known : options.knownTypes = .read []) :
    options.IsTyped where
  overrides := ⟨[], overrides, by rintro member ⟨⟩⟩
  known := ⟨[], known, by rintro entry ⟨⟩⟩

/-! ## Texts among values -/

theorem Value.isText_text (content : String) : (Value.text content).IsText :=
  ⟨content, rfl⟩

theorem Value.IsText.succeeds_askText {value : Value} (isText : value.IsText) :
    value.askText.Succeeds := by
  rcases isText with ⟨content, rfl⟩
  exact Asked.succeeds_ok content

theorem Value.IsText.succeeds_askReplaceable {value : Value} (isText : value.IsText) :
    value.askReplaceable.Succeeds := by
  rcases isText with ⟨content, rfl⟩
  exact Asked.succeeds_ok content

theorem Value.IsText.succeeds_askKey {value : Value} (isText : value.IsText) :
    value.askKey.Succeeds := by
  rcases isText with ⟨content, rfl⟩
  exact Asked.succeeds_ok _

theorem Value.IsText.orElse {value other : Value} (isText : value.IsText)
    (otherText : other.IsText) :
    (value.orElse other).IsText := by
  unfold Value.orElse
  split
  · exact isText
  · exact otherText

end WireSchema
