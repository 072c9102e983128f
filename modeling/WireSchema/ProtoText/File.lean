import WireSchema.Failure
import WireSchema.ProtoText.Block
import WireSchema.ProtoText.Header
import WireSchema.Validation.Check

namespace WireSchema.ProtoText

/-!
A whole schema file.

The file of a unit has its head and then the blocks of its messages, its enumerations and its
services, in declaration order.  Unless told otherwise a unit is validated first, and nothing is
written of a unit that is refused.
-/

/-- The services that are written of a unit; none when the options leave
services out.  They are left out of imports then, too. -/
def writtenServices (context : SchemaContext) (schema : SchemaUnit) : Asked (List Service) :=
  if context.options.writesServices then context.services schema.services schema.composites
  else .ok []

/-- The block of an enumeration, if it is not left out.  The empty text stands
for no block here, as it adds nothing to the file. -/
def writtenEnumBlock (enum : EnumType) : Asked String := do
  if ← enum.isWritten then enumBlock enum else return ""

/-- The blocks of a unit, one after the other.  Messages stand before
enumerations and these before services, whatever the order of the model. -/
def blocks (context : SchemaContext) (schema : SchemaUnit) (plans : List MessagePlan)
    (services : List Service) : Asked String := do
  let messages ← plans.mapM (messageBlock context.options)
  let enums ← schema.enums.mapM writtenEnumBlock
  return String.join (messages ++ enums ++ services.map serviceBlock)

/-- The statement of the edition of the schema language. -/
def editionLine (edition : Value) : String :=
  "syntax = \"" ++ edition.display ++ "\";\n\n"

/-- The statement of the package; none when there is no package. -/
def packageLine (package : Value) : String :=
  if package.isTruthy then "package " ++ package.display ++ ";\n\n" else ""

/-- The head of a unit's file: edition, package, file options and imports, in
this order.  The plans are given since only they tell which types are referred
to. -/
def header (context : SchemaContext) (schema : SchemaUnit) (plans : List MessagePlan)
    (services : List Service) : Asked String := do
  let package ← packageName context.options schema
  let (goal, settings) ← fileOptions context.options schema.model
  let optionPart ← optionLines goal settings
  let paths ← imports context schema plans services
  return editionLine context.options.edition ++ packageLine package ++ optionPart
    ++ importLines paths

/-- The file of a unit, without validation.  It fails where a value cannot be put
into a line, and never because of what the scan would find. -/
def write (context : SchemaContext) (schema : SchemaUnit) : Asked String := do
  let plans ← context.messagePlans schema.composites
  let services ← writtenServices context schema
  let head ← header context schema plans services
  let body ← blocks context schema plans services
  return head ++ body

/-- The file of a unit that is valid.  The scan comes first, so that no text is
made of a unit that is refused. -/
def generate (context : SchemaContext) (schema : SchemaUnit) : Outcome String := do
  let _ ← Validation.check context schema
  Failure.liftShape (write context schema)

end WireSchema.ProtoText
