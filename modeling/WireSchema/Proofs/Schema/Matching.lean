import WireSchema.Proofs.Document.Pointwise
import WireSchema.Proofs.Schema.Outcome

namespace WireSchema

/-!
# Models that match type by type

A change of annotations or of single fields leaves everything else of a model in its place: the
types stand in the same order under the same names, aliases have the same targets and arguments, and
templates the same parameters.  Then the fields of every type, those of an alias included,
correspond one by one, and they are related as the declared ones are.
-/

open Asked

/-- A composite type before and after a change of its annotations and its fields, which are related
one by one. -/
structure Composite.Matches (relation : DeclaredField → DeclaredField → Prop)
    (before after : Composite) : Prop where
  others : after = { before with fields := after.fields, annotations := after.annotations }
  fields : List.Forall₂ relation before.fields after.fields

/-- A model before and after such changes of its composite types.  Nothing else
of the model changes, and no composite type is added or moved. -/
structure Model.Matches (relation : DeclaredField → DeclaredField → Prop)
    (before after : Model) : Prop where
  others : after = { before with composites := after.composites }
  composites : List.Forall₂ (Composite.Matches relation) before.composites after.composites

/-- A relation that holds on when two fields get other types in the same way.
Fields of a template get the arguments of an alias put in, before anything else
is asked of them. -/
def IsKeptByTypes (relation : DeclaredField → DeclaredField → Prop) : Prop :=
  ∀ {before after : DeclaredField}, relation before after → ∀ retype : TypeExpr → TypeExpr,
    relation { before with type := retype before.type } { after with type := retype after.type }

namespace Model.Matches

variable {relation : DeclaredField → DeclaredField → Prop} {model changed : Model}
  {composite edited : Composite}

theorem composite? (models : model.Matches relation changed) (name : Value) :
    Option.Rel (Composite.Matches relation) (model.composite? name) (changed.composite? name) := by
  apply find?_of_forall₂ _ _ models.composites
  intro before after same
  rw [same.others]

theorem aliasesOf (models : model.Matches relation changed) :
    TypeTable.aliasesOf changed.composites = TypeTable.aliasesOf model.composites := by
  apply filterMap_of_forall₂ _ _ models.composites
  intro before after same
  rw [same.others]
  rfl

/-- An alias stands for the matching template with the same arguments. -/
theorem aliasBinding? (models : model.Matches relation changed)
    (types : composite.Matches relation edited) :
    Related (Option.Rel fun binding after => after.bindings = binding.bindings ∧
        Option.Rel (Composite.Matches relation) binding.template after.template)
      (model.aliasBinding? composite) (changed.aliasBinding? edited) := by
  have target : edited.target? = composite.target? := by
    rw [types.others]
    rfl
  rw [Model.aliasBinding?, Model.aliasBinding?, target]
  cases composite.target? with
  | none => exact .ok .none
  | some name =>
    dsimp only
    have found := models.composite? name
    revert found
    generalize model.composite? name = template
    generalize changed.composite? name = templateAfter
    intro found
    cases found with
    | none => exact .ok (.some ⟨rfl, .none⟩)
    | @some before after templates =>
        have bound : bindArguments after edited = bindArguments before composite := by
          rw [templates.others, types.others]
          rfl
        apply Related.bind (related_of_eq bound)
        rintro _ bindings rfl
        exact .ok (.some ⟨rfl, .some templates⟩)

theorem inherited {template after : Option Composite}
    (templates : Option.Rel (Composite.Matches relation) template after) :
    List.Forall₂ relation ((template.map (·.fields)).getD []) ((after.map (·.fields)).getD []) := by
  cases templates with
  | none => exact .nil
  | some same => exact same.fields

/-- The fields of matching types are related one by one, also where templates give them. -/
theorem resolvedFields (models : model.Matches relation changed)
    (types : composite.Matches relation edited) (kept : IsKeptByTypes relation) :
    Related (List.Forall₂ relation) (model.resolvedFields composite)
      (changed.resolvedFields edited) := by
  apply Related.bind (models.aliasBinding? types)
  intro binding after bindings
  cases bindings with
  | none => exact .ok types.fields
  | some agree =>
      simp only [isEmpty_of_forall₂ types.fields, agree.1]
      apply Related.ok
      apply List.forall₂_map_left_iff.mpr
      apply List.forall₂_map_right_iff.mpr
      split
      · exact (inherited agree.2).imp fun _ _ field => kept field _
      · exact types.fields.imp fun _ _ field => kept field _

end Model.Matches

end WireSchema
