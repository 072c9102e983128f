import WireSchema.Model.Basic

namespace WireSchema

/-!
Generic templates and their aliases.

An alias binds the type parameters of a template to arguments.  The binding is made once, from the
declaration of the alias, and the fields of the alias are those of the template with every
parameter replaced by its argument.  Replacement is simultaneous: an argument is put in as it
stands, whatever names it mentions.  An alias that declares fields of its own keeps them.
-/

namespace TypeExpr

/-- Types by the names that stand for them.  There is one for each name, the last
one that was given. -/
abbrev Bindings := List (Value × TypeExpr)

mutual

/-- A type with every unqualified name that is bound replaced by what it stands
for.  Qualified names and the heads of generic types are no parameters, whatever
they are called. -/
def substitute (bindings : Bindings) : TypeExpr → TypeExpr
  | named name package =>
      if package = "" then (lookupKey? (.text name) bindings).getD (named name package)
      else named name package
  | pointer elem => pointer (substitute bindings elem)
  | sequence elem => sequence (substitute bindings elem)
  | mapping key value => mapping (substitute bindings key) (substitute bindings value)
  | generic name args => generic name (substituteAll bindings args)

/-- Several types with their bound names replaced. -/
def substituteAll (bindings : Bindings) : List TypeExpr → List TypeExpr
  | [] => []
  | arg :: args => substitute bindings arg :: substituteAll bindings args

end

end TypeExpr

/-- What an alias stands for: its template, if the model declares it, and the arguments by the
names of the template's parameters. -/
structure AliasBinding where
  template : Option Composite
  bindings : TypeExpr.Bindings
deriving Repr, Inhabited

/-- What is wrong with an alias.  It can be used all the same. -/
inductive AliasWarning where
  /-- The model does not declare the template. -/
  | missingTemplate (template aliasName : Value)
  /-- The alias has another number of arguments than the template has parameters. -/
  | argumentCount (aliasName : Value) (given : Nat) (template : Value) (declared : Nat)
deriving Repr, BEq

def AliasWarning.message : AliasWarning → String
  | missingTemplate template aliasName =>
      "Generic template " ++ template.display ++ " for alias " ++ aliasName.display
        ++ " not found"
  | argumentCount aliasName given template declared =>
      "Alias " ++ aliasName.display ++ " binds " ++ toString given
        ++ " type argument(s) but " ++ template.display ++ " declares " ++ toString declared
        ++ " type parameter(s)"

namespace Model

/-- The arguments of an alias by the parameters of its template, each of which must be usable as
a key.  Parameters without an argument stay unbound, and arguments without a parameter are not
used. -/
def bindArguments (template aliased : Composite) : Asked TypeExpr.Bindings := do
  let pairs := template.typeParams.zip aliased.aliasArgs
  let _ ← Value.askKeys (pairs.map (·.1))
  return setKeys pairs

/-- What a composite type stands for, if it is an alias.  A target that the model
does not declare leaves it an alias without fields; this is worth a warning and
no failure. -/
def aliasBinding? (model : Model) (composite : Composite) : Asked (Option AliasBinding) :=
  match composite.target? with
  | none => .ok none
  | some target =>
      match model.composite? target with
      | none => .ok (some { template := none, bindings := [] })
      | some template => do
          return some { template := some template
                        bindings := ← bindArguments template composite }

/-- The warnings about a composite type that is an alias.  They are logged and
not found, so they do not keep a unit from being written. -/
def aliasWarnings (model : Model) (composite : Composite) : List AliasWarning :=
  match composite.target? with
  | none => []
  | some target =>
      match model.composite? target with
      | none => [.missingTemplate target composite.name]
      | some template =>
          if template.typeParams.length = composite.aliasArgs.length then []
          else
            [.argumentCount composite.name composite.aliasArgs.length template.name
              template.typeParams.length]

/-- The fields of a composite type, those of an alias with its arguments put in.
Fields that the alias declares itself take the place of those of the
template. -/
def resolvedFields (model : Model) (composite : Composite) : Asked (List DeclaredField) := do
  match ← model.aliasBinding? composite with
  | none => return composite.fields
  | some binding =>
      let inherited := (binding.template.map (·.fields)).getD []
      let fields := if composite.fields.isEmpty then inherited else composite.fields
      return fields.map fun field => { field with type := field.type.substitute binding.bindings }

end Model

end WireSchema
