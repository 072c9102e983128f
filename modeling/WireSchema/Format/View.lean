import WireSchema.ProtoText.File

namespace WireSchema

/-!
What further formats read of a unit.

Every format beside the schema text is written from the same plans, enumerations and services, so
that all of them agree on what a message holds.  Generic templates, of which the schema text knows
nothing, are part of the view too, since some formats can express them.
-/

/-- What a format reads of a unit.  All formats look at the same view, so that
they agree on which declarations are written and under which names. -/
structure SchemaView where
  context : SchemaContext
  package : Value
  plans : List MessagePlan
  templates : List Composite
  enums : List EnumType
  services : List Service
deriving Repr

/-- Whether a composite type is a generic template that is not left out. -/
def Composite.isOpenTemplate (composite : Composite) : Asked Bool := do
  if composite.isGeneric then return !(← isSkipped composite.annotations) else return false

/-- Whether a field is kept by a template under the template's own name.
Annotations for other messages do not count for a template. -/
def DeclaredField.isKeptBy (model : Model) (template : Composite) (field : DeclaredField) :
    Asked Bool := do
  return (← field.inclusion model template template.name) == .keep

namespace SchemaView

def of (context : SchemaContext) (schema : SchemaUnit) : Asked SchemaView := do
  let package ← ProtoText.packageName context.options schema
  let plans ← context.messagePlans schema.composites
  let templates ← keepWhere Composite.isOpenTemplate schema.composites
  let enums ← writtenEnums schema.enums
  let services ← ProtoText.writtenServices context schema
  return { context, package, plans, templates, enums, services }

/-- The title of a document: the package, if there is one. -/
def title (view : SchemaView) : Value :=
  view.package.orElse (.text "generated")

def templateFields (view : SchemaView) (template : Composite) : Asked (List DeclaredField) := do
  let kept ← keepWhere (·.isKeptBy view.context.model template) template.fields
  kept.mapM (·.forMessage template.name)

/-- The template that the composite type of a plan names, if it is an alias.  It
need not be declared in the unit of the plan. -/
def planTemplate? (view : SchemaView) (plan : MessagePlan) : Option Composite :=
  if plan.composite.isAlias.isTruthy then
    view.context.model.composite? plan.composite.aliasTarget
  else none

/-- The templates that messages of the unit refer to and that it does not
declare itself.  Only aliases are looked at here, not the instantiations inside
of fields. -/
def foreignTemplates (view : SchemaView) : List Composite :=
  (view.plans.filterMap view.planTemplate?).foldl
    (fun found template =>
      if view.templates.contains template || found.contains template then found
      else found ++ [template])
    []

end SchemaView

end WireSchema
