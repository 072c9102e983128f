import WireSchema.Model.Basic
import WireSchema.TypeExpr.Parser

namespace WireSchema.Model

/-!
Reading a model from a document.

A document lists composite types, enumerations, services and functions with their members by name.
What is absent takes a default; what does not count as given is read as an empty list or mapping.
Types are written in the notation of type expressions.  The readers look at the members of an
entry in a fixed order, which decides the fault that is reported when an entry has several.
-/

/-- Why a document is no model. -/
inductive ReadFault where
  /-- A value has the wrong kind, or a required member is missing. -/
  | shape (fault : ShapeFault)
  /-- A text stands for a type but is none. -/
  | typeText (text : String) (fault : TypeExpr.ParseFault)
deriving DecidableEq, Repr

/-- A step that can only fail by the shape of a value. -/
def ofShape {α : Type} (step : Asked α) : Except ReadFault α :=
  step.mapError .shape

/-- An optional member of a mapping that is a text by default. -/
def textMember (members : Members) (name : String) : Value :=
  members.getD name (.text "")

def readType (value : Value) : Except ReadFault TypeExpr :=
  (TypeExpr.parse value.display).mapError (.typeText value.display)

/-- The items of an optional member; a value that does not count as given has
none.  So an empty text is as good as an empty list. -/
def itemsMember (members : Members) (name : String) : Except ReadFault (List Value) :=
  ofShape (members.getD name .null).itemsIfGiven

/-! ## Annotations -/

/-- An annotation: its name alone, or a mapping with name and parameters.
Parameters of one name keep the place of the first one and the value of the
last. -/
def readAnnotation : Value → Asked Annotation
  | .text name => .ok { name := .text name }
  | entry => do
      let members ← entry.askMembers
      let params ← (members.getD "params" .null).membersIfGiven
      let name ← entry.require "name"
      return { name
               params := setKeys (params.map fun param =>
                 (param.1.display, ParamValue.ofValue param.2)) }

def readAnnotations (entries : Value) : Asked (List Annotation) := do
  (← entries.itemsIfGiven).mapM readAnnotation

/-- Annotations by the name of their file or package. -/
def readLevel (entries : Value) : Except ReadFault LevelAnnotations := do
  let levels ← (← ofShape entries.membersIfGiven).mapM fun member => do
    return (member.1.display, ← ofShape (readAnnotations member.2))
  return setKeys levels

def annotationsMember (members : Members) : Except ReadFault (List Annotation) :=
  ofShape (readAnnotations (members.getD "annotations" .null))

/-! ## Composite types -/

def readField (entry : Value) : Except ReadFault DeclaredField := do
  let name ← ofShape (entry.require "name")
  let type ← readType (← ofShape (entry.require "type"))
  let members ← ofShape entry.askMembers
  let annotations ← annotationsMember members
  return { name, type, annotations
           tag := textMember members "tag"
           embedded := members.getD "embedded" (.bool false)
           doc := textMember members "doc"
           exported := members.getD "exported" (.bool true) }

/-- A composite type.  The target and the arguments of an alias have two member
names each, the second of which counts only where the first one is absent. -/
def readComposite (entry : Value) : Except ReadFault Composite := do
  let members ← ofShape entry.askMembers
  let target := members.getD "alias_target" (members.getD "alias_of" (.text ""))
  let name ← ofShape (entry.require "name")
  let fields ← (← itemsMember members "fields").mapM readField
  let annotations ← annotationsMember members
  let typeParams ← itemsMember members "type_params"
  let arguments := members.getD "alias_type_args" (members.getD "alias_args" .null)
  let aliasArgs ← (← ofShape arguments.itemsIfGiven).mapM readType
  return { name, fields, annotations, aliasArgs
           package := textMember members "package"
           namespaceName := textMember members "namespace"
           sourceFile := textMember members "source_file"
           doc := textMember members "doc"
           typeParams
           isAlias := members.getD "is_alias" (.bool target.isTruthy)
           aliasTarget := target }

/-! ## Enumerations -/

/-- A value of an enumeration, which is numbered by its position unless it gives
an index.  A bare text is the name of a value. -/
def readEnumValue (position : Nat) : Value → Except ReadFault EnumValue
  | .text name => .ok { name := .text name, index := .int position }
  | entry => do
      let name ← ofShape (entry.require "name")
      let members ← ofShape entry.askMembers
      let annotations ← annotationsMember members
      return { name, annotations
               index := members.getD "index" (.int position)
               doc := textMember members "doc" }

/-- The values of an enumeration from a position on. -/
def readEnumValues (position : Nat) : List Value → Except ReadFault (List EnumValue)
  | [] => .ok []
  | entry :: entries => do
      let value ← readEnumValue position entry
      let values ← readEnumValues (position + 1) entries
      return value :: values

def readEnum (entry : Value) : Except ReadFault EnumType := do
  let members ← ofShape entry.askMembers
  let values ← readEnumValues 0 (← itemsMember members "values")
  let name ← ofShape (entry.require "name")
  let annotations ← annotationsMember members
  return { name, values, annotations
           package := textMember members "package"
           namespaceName := textMember members "namespace"
           sourceFile := textMember members "source_file"
           doc := textMember members "doc" }

/-! ## Services and functions -/

def readParameter (entry : Value) : Except ReadFault Parameter := do
  let members ← ofShape entry.askMembers
  let type ← readType (← ofShape (entry.require "type"))
  return { name := textMember members "name", type }

def readMethod (entry : Value) : Except ReadFault Method := do
  let name ← ofShape (entry.require "name")
  let members ← ofShape entry.askMembers
  let params ← (← itemsMember members "params").mapM readParameter
  let results ← (← itemsMember members "results").mapM readParameter
  let annotations ← annotationsMember members
  return { name, params, results, annotations
           doc := textMember members "doc" }

def readService (entry : Value) : Except ReadFault ServiceContract := do
  let name ← ofShape (entry.require "name")
  let members ← ofShape entry.askMembers
  let methods ← (← itemsMember members "methods").mapM readMethod
  let annotations ← annotationsMember members
  return { name, methods, annotations
           package := textMember members "package"
           namespaceName := textMember members "namespace"
           sourceFile := textMember members "source_file"
           doc := textMember members "doc" }

/-- A function, read like a method with a receiver. -/
def readFunction (entry : Value) : Except ReadFault ModelFunction := do
  let toMethod ← readMethod entry
  let members ← ofShape entry.askMembers
  return { toMethod, receiver := textMember members "receiver" }

/-! ## The whole model -/

/-- A model from a document.  Composite types stand under either of two names,
the second of which counts only where the first one is absent. -/
def read (value : Value) : Except ReadFault Model := do
  let document ← ofShape value.askMembers
  let entries := document.getD "composites" (document.getD "types" .null)
  let composites ← (← ofShape entries.itemsIfGiven).mapM readComposite
  let enums ← (← itemsMember document "enums").mapM readEnum
  let services ← (← itemsMember document "services").mapM readService
  let functions ← (← itemsMember document "functions").mapM readFunction
  let fileAnnotations ← readLevel (document.getD "file_annotations" .null)
  let packageAnnotations ← readLevel (document.getD "package_annotations" .null)
  return { composites, enums, services, functions, fileAnnotations, packageAnnotations
           tagName := document.getD "tag_name" (.text "proto") }

end WireSchema.Model
