import WireSchema.Model.Basic
import WireSchema.Text.Words

namespace WireSchema

/-!
Names and descriptions in the schema.

Annotations decide which declarations enter the schema and under which names.  A composite type
has one message for each of its `message` annotations, or a single one of its own name; an
enumeration and its values may be renamed.  A description comes from annotations first and from
the documentation of the declaration otherwise.  A name that no annotation gives is the declared
one, whatever its kind.
-/

/-- Whether annotations leave a declaration out.  The word that leaves out a
field for some messages, `omit`, has no meaning here. -/
def isSkipped (annotations : List Annotation) : Asked Bool :=
  isAnnotated ["ignore", "skip"] annotations

/-- Whether annotations make a declaration a service. -/
def isService (annotations : List Annotation) : Asked Bool :=
  isAnnotated ["service"] annotations

/-- The description of a declaration: from its annotations, or else its
documentation.  An empty description of an annotation does not hide the
documentation. -/
def descriptionOf (annotations : List Annotation) (doc : Value) : Asked Value := do
  return (Value.text (← describedBy annotations)).orElse doc

/-- A name that annotations may give, or else the declared one.  The given name
is a text, while the declared one is whatever value the document holds. -/
def renamed (names : List String) (annotations : List Annotation) (declared : Value) :
    Asked Value := do
  return ((← firstString? names "name" annotations).map Value.text).getD declared

/-- The name of a declaration in words joined by underscores, in small letters. -/
def snakeCaseOf (name : Value) : Asked String := do
  return Text.toSnakeCase (← name.askReplaceable)

/-- The items that pass a test, which may fail.  Then there is no selection at
all, even if the item had not been kept. -/
def keepWhere {α : Type} (test : α → Asked Bool) : List α → Asked (List α)
  | [] => .ok []
  | item :: items => do
      let kept ← test item
      let others ← keepWhere test items
      return if kept then item :: others else others

namespace Composite

/-- Whether a composite type is written as messages: it is no template, not left out, and is
neither a service nor an enumeration. -/
def isMessage (composite : Composite) : Asked Bool := do
  if composite.isGeneric then return false
  else if ← isSkipped composite.annotations then return false
  else return !(← isAnnotated ["service", "enum"] composite.annotations)

/-- The annotations that each make a message of a composite type. -/
def messageAnnotations (composite : Composite) : Asked (List Annotation) :=
  annotationsNamed ["message"] composite.annotations

/-- The name that an annotation gives to a message, or else another one. -/
def nameOr (declared : Value) (note : Annotation) : Value :=
  ((nonempty? (note.string "name")).map Value.text).getD declared

/-- The name of messages without one of their own: that of the first message, or else that of the
type. -/
def defaultMessageName (composite : Composite) : Asked Value := do
  return ((← annotationNamed? ["message"] composite.annotations).map
    (nameOr composite.name)).getD composite.name

/-- The names of the messages of a composite type, in order.  Each `message`
annotation makes a message of its own; without any there is one under the
default name. -/
def messageNames (composite : Composite) : Asked (List Value) := do
  let annotations ← composite.messageAnnotations
  let default ← composite.defaultMessageName
  return if annotations.isEmpty then [default] else annotations.map (nameOr default)

/-- Whether a message annotation describes a message: one of its own name, or the message named
like the type when it has none. -/
def describesMessage (composite : Composite) (message : Value) (note : Annotation) : Bool :=
  let name := note.string "name"
  Value.text name == message || (name == "" && composite.name == message)

def messageDescription (composite : Composite) (message : Value) : Asked Value := do
  let annotations ← composite.messageAnnotations
  let own := (annotations.filter (composite.describesMessage message)).findSome?
    fun note => nonempty? (note.string "description")
  match own with
  | some description => return .text description
  | none => descriptionOf composite.annotations composite.doc

end Composite

/-! ## Enumerations -/

namespace EnumType

def schemaName (enum : EnumType) : Asked Value :=
  renamed ["enum"] enum.annotations enum.name

/-- Whether several values of an enumeration may have one number.  One annotation
that says so is enough. -/
def allowsAlias (enum : EnumType) : Asked Bool := do
  return (← annotationsNamed ["enum"] enum.annotations).any (·.flag "allow_alias")

def description (enum : EnumType) : Asked Value :=
  descriptionOf enum.annotations enum.doc

/-- Whether an enumeration is not left out. -/
def isWritten (enum : EnumType) : Asked Bool := do
  return !(← isSkipped enum.annotations)

end EnumType

/-- The enumerations that are not left out. -/
def writtenEnums (enums : List EnumType) : Asked (List EnumType) :=
  keepWhere EnumType.isWritten enums

namespace EnumValue

/-- The number of a value: the first one of its annotations, or else its index.
The index is taken as it stands in the document, even where it is no integer. -/
def number (value : EnumValue) : Asked Value := do
  let stated := (← annotationsNamed ["enumvalue"] value.annotations).findSome?
    (·.integer? "number")
  return (stated.map Value.int).getD value.index

def schemaName (value : EnumValue) : Asked String := do
  match ← firstString? ["enumvalue"] "name" value.annotations with
  | some name => return name
  | none => return Text.toScreamingSnakeCase (← value.name.askReplaceable)

def description (value : EnumValue) : Asked Value :=
  descriptionOf value.annotations value.doc

end EnumValue

end WireSchema
