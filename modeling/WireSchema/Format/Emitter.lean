import WireSchema.Format.JsonSchema
import WireSchema.Format.Markdown
import WireSchema.Format.TypeScript

namespace WireSchema

/-!
Further output formats.

A unit can be written in three formats beside the schema text.  The schema text itself is made with
validation and is no further format.
-/

/-- The formats that are written beside the schema text.  All of them read one
view of the unit, so that they need not agree by accident. -/
inductive FurtherFormat where
  | jsonSchema
  | markdown
  | typeScript
deriving DecidableEq, Repr

namespace FurtherFormat

def format : FurtherFormat → OutputFormat
  | jsonSchema => .jsonSchema
  | markdown => .markdown
  | typeScript => .typeScript

/-- The further format that an output format is; the schema text is none. -/
def ofFormat? : OutputFormat → Option FurtherFormat
  | .proto => none
  | .jsonSchema => some jsonSchema
  | .markdown => some markdown
  | .typeScript => some typeScript

/-- The end of the names of files in a format. -/
def extension : FurtherFormat → String
  | jsonSchema => ".schema.json"
  | markdown => ".md"
  | typeScript => ".ts"

def emit (format : FurtherFormat) (context : SchemaContext) (schema : SchemaUnit) :
    Asked String :=
  match format with
  | jsonSchema => JsonSchema.emit context schema
  | markdown => Markdown.emit context schema
  | typeScript => TypeScript.emit context schema

def ofWord (word : String) : Outcome FurtherFormat :=
  match Options.formatOfWord? (Options.plainWord word) with
  | none => .error (.generation (.unknownFormat word))
  | some format =>
      match ofFormat? format with
      | some further => .ok further
      | none => .error (.generation (.noEmitter format))

end FurtherFormat

end WireSchema
