import WireSchema.Format.View

namespace WireSchema.Markdown

/-!
Reference documents in Markdown.

A unit becomes a document with a table of contents and a section for each message, enumeration and
service.  Fields, values and methods stand in tables.  A description in a table must be a text as
soon as its row is made; a description that is a paragraph of its own is a line of the document,
and all lines must be texts when they are joined.
-/

/-! ## Headings and cells -/

/-- Characters that the anchor of a heading keeps.  The others vanish from it, so
that different headings can have one anchor. -/
def isAnchorChar (c : Char) : Bool :=
  ('a' ≤ c && c ≤ 'z') || c.isDigit || c == ' ' || c == '_' || c == '-'

def anchor (title : String) : String :=
  String.ofList (((Text.lower title).toList.filter isAnchorChar).map fun c =>
    if c = ' ' then '-' else c)

/-- A description inside a table, where bars are escaped and lines joined:
either of the two would end the cell. -/
def cell (description : Value) : Asked String := do
  return Text.replaceAll "\n" " " (Text.replaceAll "|" "\\|" (← description.askReplaceable))

/-- The mark around code. -/
def tick : String := String.singleton (Char.ofNat 0x60)

def code (text : String) : String :=
  tick ++ text ++ tick

def row (cells : List String) : String :=
  "| " ++ String.intercalate " | " cells ++ " |"

/-! ## Table of contents -/

def link (title : String) : String :=
  "[" ++ title ++ "](#" ++ anchor title ++ ")"

def contentsLine (name : Value) : Asked String := do
  return "  - " ++ link (← name.askText)

/-- The lines of a part of the table of contents; none when the part is empty. -/
def contentsPart (title : String) (names : List Value) : Asked (List String) := do
  if names.isEmpty then return []
  else return ("- " ++ link title) :: (← names.mapM contentsLine)

def contents (view : SchemaView) : Asked (List String) := do
  let enumNames ← view.enums.mapM (·.schemaName)
  let messages ← contentsPart "Messages" (view.plans.map (·.name))
  let enums ← contentsPart "Enums" enumNames
  let services ← contentsPart "Services" (view.services.map (·.name))
  return ["## Table of Contents", ""] ++ messages ++ enums ++ services ++ [""]

/-! ## Sections -/

def textLines (lines : List String) : List Value := lines.map .text

/-- A description as a paragraph; none when there is no description. -/
def descriptionLines (description : Value) : List Value :=
  if description.isTruthy then [description, .text ""] else []

/-- The heading of a section with the description below. -/
def headingLines (name description : Value) : List Value :=
  textLines ["### " ++ name.display, ""] ++ descriptionLines description

/-- The type of a field as its row shows it.  It is taken from the plan, like
that of the schema text, and so agrees with it also where the declared type is
restated. -/
def fieldType (planned : PlannedField) : String :=
  match planned.shape with
  | .map => "map<" ++ planned.mapTypes.1.display ++ ", " ++ planned.mapTypes.2.display ++ ">"
  | .repeated => "repeated " ++ planned.type.display
  | .optional => "optional " ++ planned.type.display
  | _ => planned.type.display

def fieldRow (planned : PlannedField) : Asked String := do
  return row [code planned.name, code (fieldType planned), ← cell planned.description]

/-- What an alias stands for; nothing for another composite type. -/
def aliasLines (composite : Composite) : List String :=
  match composite.target? with
  | some target => ["Type alias for " ++ code (composite.instantiation target).print ++ ".", ""]
  | none => []

/-- The table of a message's fields; none when it has no fields.  There is one
row for each field of the plan, in the same order. -/
def fieldTable (plan : MessagePlan) : Asked (List String) := do
  if plan.fields.isEmpty then return []
  else
    return ["| Field | Type | Description |", "|-------|------|-------------|"]
      ++ (← plan.fields.mapM fieldRow) ++ [""]

def messageSection (plan : MessagePlan) : Asked (List Value) := do
  return headingLines plan.name plan.description
    ++ textLines (aliasLines plan.composite ++ (← fieldTable plan))

def valueRow (value : EnumValue) : Asked String := do
  let description ← value.description
  let name ← value.schemaName
  let number ← (← value.number).askNumeral
  return row [code name, number, ← cell description]

def enumSection (enum : EnumType) : Asked (List Value) := do
  let name ← enum.schemaName
  let description ← enum.description
  return headingLines name description
    ++ textLines (["| Name | Value | Description |", "|------|-------|-------------|"]
      ++ (← enum.values.mapM valueRow) ++ [""])

def rpcRow (rpc : Rpc) : Asked String := do
  return row [rpc.name.display, code (streamed rpc.clientStreaming rpc.inputType),
    code (streamed rpc.serverStreaming rpc.outputType), ← cell rpc.description]

def serviceSection (service : Service) : Asked (List Value) := do
  return headingLines service.name service.description
    ++ textLines (["| Method | Input | Output | Description |",
        "|--------|-------|--------|-------------|"]
      ++ (← service.rpcs.mapM rpcRow) ++ [""])

/-- Sections under a common heading; nothing when there are none.  A document so
never has a heading without anything below. -/
def chapter {α : Type} (title : String) (items : List α) (lines : α → Asked (List Value)) :
    Asked (List Value) := do
  if items.isEmpty then return []
  else return textLines ["## " ++ title, ""] ++ (← items.mapM lines).flatten

/-! ## The document -/

def headLines (title : Value) : List String :=
  ["# " ++ title.display ++ " Protocol Buffer Documentation", "",
    "Generated from annotated source types.", ""]

/-- The lines of a unit's document. -/
def documentLines (view : SchemaView) : Asked (List Value) := do
  let listed ← contents view
  let messages ← chapter "Messages" view.plans messageSection
  let enums ← chapter "Enums" view.enums enumSection
  let services ← chapter "Services" view.services serviceSection
  return textLines (headLines view.title ++ listed) ++ messages ++ enums ++ services

def emit (context : SchemaContext) (schema : SchemaUnit) : Asked String := do
  let lines ← documentLines (← SchemaView.of context schema)
  return Text.endedOnce (String.intercalate "\n" (← lines.mapM (·.admitText)))

end WireSchema.Markdown
