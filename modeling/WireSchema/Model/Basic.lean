import WireSchema.Annotation.Tag
import WireSchema.TypeExpr.Basic

namespace WireSchema

/-!
The annotated model.

A model holds the declarations of a program whose data is to be described: composite types with
their fields, enumerations, service contracts and functions, each with annotations.  It is read
once and never changed.  Names, packages and whatever else a declaration only passes on are kept as
the document gives them.  A schema unit is what one output file declares, seen together with the
whole model: functions, generic templates and level annotations are always those of the model.
-/

structure DeclaredField where
  name : Value
  type : TypeExpr
  tag : Value := .text ""
  annotations : List Annotation := []
  embedded : Value := .bool false
  doc : Value := .text ""
  exported : Value := .bool true
deriving Repr, BEq, Inhabited

/-- Whether a field is named, and not named privately. -/
def DeclaredField.isPublic (field : DeclaredField) : Asked Bool :=
  if field.name.isTruthy then do return !Text.startsWith (← field.name.askText) "_"
  else .ok false

/-- Whether a field is visible outside its package: marked so and named publicly. -/
def DeclaredField.isExported (field : DeclaredField) : Asked Bool :=
  if field.exported.isTruthy then field.isPublic else .ok false

/-- A record type.  One with type parameters is a generic template; an alias binds the parameters
of a template to arguments. -/
structure Composite where
  name : Value
  package : Value := .text ""
  namespaceName : Value := .text ""
  sourceFile : Value := .text ""
  fields : List DeclaredField := []
  annotations : List Annotation := []
  doc : Value := .text ""
  typeParams : List Value := []
  isAlias : Value := .bool false
  aliasTarget : Value := .text ""
  aliasArgs : List TypeExpr := []
deriving Repr, BEq, Inhabited

namespace Composite

/-- Whether the type is a generic template. -/
def isGeneric (composite : Composite) : Bool := !composite.typeParams.isEmpty

/-- The name of the template that an alias instantiates.  Both the mark of an
alias and the target have to count as given, or the type is an ordinary one. -/
def target? (composite : Composite) : Option Value :=
  if composite.isAlias.isTruthy && composite.aliasTarget.isTruthy then some composite.aliasTarget
  else none

def instantiation (composite : Composite) (target : Value) : TypeExpr :=
  .generic target.display composite.aliasArgs

end Composite

structure EnumValue where
  name : Value
  index : Value
  annotations : List Annotation := []
  doc : Value := .text ""
deriving Repr, BEq, Inhabited

structure EnumType where
  name : Value
  values : List EnumValue := []
  annotations : List Annotation := []
  package : Value := .text ""
  namespaceName : Value := .text ""
  sourceFile : Value := .text ""
  doc : Value := .text ""
deriving Repr, BEq, Inhabited

/-- A parameter or a result of a method. -/
structure Parameter where
  name : Value := .text ""
  type : TypeExpr
deriving Repr, BEq, Inhabited

structure Method where
  name : Value
  params : List Parameter := []
  results : List Parameter := []
  annotations : List Annotation := []
  doc : Value := .text ""
deriving Repr, BEq, Inhabited

structure ServiceContract where
  name : Value
  methods : List Method := []
  annotations : List Annotation := []
  package : Value := .text ""
  namespaceName : Value := .text ""
  sourceFile : Value := .text ""
  doc : Value := .text ""
deriving Repr, BEq, Inhabited

/-- A function that stands by itself or, with a receiver, a method of the
receiver's type.  Only the latter can become a method of a service. -/
structure ModelFunction where
  toMethod : Method
  receiver : Value := .text ""
deriving Repr, BEq, Inhabited

/-- Annotations that belong to a file or a package, by its name.  They say
something about the output as a whole. -/
abbrev LevelAnnotations := List (String × List Annotation)

/-- A whole annotated model.  It is what a front end has found in a program;
nothing here depends on the language of that program. -/
structure Model where
  composites : List Composite := []
  enums : List EnumType := []
  services : List ServiceContract := []
  functions : List ModelFunction := []
  fileAnnotations : LevelAnnotations := []
  packageAnnotations : LevelAnnotations := []
  tagName : Value := .text "proto"
deriving Repr, BEq, Inhabited

namespace Model

/-- The composite type of a name: the first one declared.  Names are compared as
values, so that one that is no text can be looked up as well. -/
def composite? (model : Model) (name : Value) : Option Composite :=
  model.composites.find? (·.name == name)

/-- What a field's tag says under the model's tag key. -/
def tagOf (model : Model) (field : DeclaredField) : Asked TagInfo :=
  TagInfo.ofValue model.tagName field.tag

def inOrder (level : LevelAnnotations) : List Annotation :=
  (level.mergeSort fun first second => decide (first.1 ≤ second.1)).flatMap (·.2)

/-- The annotations of packages and then those of files, each by name.  Later
ones override earlier ones, so that a file has the last word. -/
def levelAnnotations (model : Model) : List Annotation :=
  inOrder model.packageAnnotations ++ inOrder model.fileAnnotations

end Model

/-- What one output file declares, within its model.  `file` is its name and `typeFiles` tells
where each type is declared; both are empty when everything goes into one file. -/
structure SchemaUnit where
  model : Model
  composites : List Composite
  enums : List EnumType
  services : List ServiceContract
  file : String := ""
  typeFiles : List (Value × String) := []
deriving Repr, Inhabited

def Model.wholeUnit (model : Model) : SchemaUnit :=
  { model, composites := model.composites, enums := model.enums, services := model.services }

end WireSchema
