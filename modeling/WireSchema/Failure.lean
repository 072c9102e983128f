import WireSchema.Model.Reader
import WireSchema.Options.Reader
import WireSchema.Validation.Finding
import WireSchema.Workspace.FileFault

namespace WireSchema

/-!
Failures of a run.

A run fails for a cause of the tool (a document that cannot be loaded, a schema that is not valid,
an output that cannot be made, a compiler that fails) or for an outer fault, which the tool only
passes on.  A failure inside a group of declarations or an output format keeps its cause.  The
wording of a failure is a function of it; how outer faults are called is left to the caller, since
they reach the user under names that are not the tool's own.
-/

inductive OuterFault where
  /-- A value has the wrong kind or content. -/
  | shape (fault : ShapeFault)
  | file (fault : FileFault)
  /-- Bytes are no text. -/
  | encoding
  /-- A text is no JSON document. -/
  | json
  /-- A text is no YAML document. -/
  | yaml
  /-- A text is no module of Python. -/
  | module
  /-- A text is no template. -/
  | template
  /-- A template looks something up in what is not defined. -/
  | undefined
  /-- A text is no command line. -/
  | commandLine
deriving DecidableEq, Repr

/-- Why a document or an option cannot be used. -/
inductive ConfigFault where
  /-- An option has a value that it does not admit. -/
  | option (fault : Options.ReadFault)
  /-- A text stands for a type but is none. -/
  | typeText (text : String) (fault : TypeExpr.ParseFault)
  /-- A model document lacks a required member. -/
  | missingMember (name : String)
  /-- A document cannot be read. -/
  | unreadable (path : String) (fault : FileFault)
  /-- A document is not well formed. -/
  | malformed (path : String) (fault : OuterFault)
  /-- A document is no mapping. -/
  | noMapping (path : String)
deriving Repr, BEq

/-- Why an output cannot be made.  These are faults of the output alone: the
model and the options have been read by then, and the scan has found nothing. -/
inductive GenerationFault where
  /-- Two groups have one output file. -/
  | sharedFile (first second file : String)
  /-- No output format has the word. -/
  | unknownFormat (word : String)
  /-- The format is not written by itself. -/
  | noEmitter (format : OutputFormat)
  /-- An option on stubs is missing that is needed for something. -/
  | missingOption (option purpose : String)
  | missingTemplate (name : String)
  | missingTemplateDirectory (path : String)
  | templateText (name : String) (line : Nat) (fault : OuterFault)
  | templateRun (name : String) (fault : OuterFault)
  /-- The content for a file is not well formed: the kind of content is given. -/
  | malformedContent (kind : String) (fault : OuterFault)
  /-- A check refuses the content for a file. -/
  | rejected (reason : String)
deriving DecidableEq, Repr

/-- Why an outer program has no result. -/
inductive ToolFault where
  | notFound (program : String)
  /-- The program ended with a code that reports failure. -/
  | failed (code : Int) (output : String)
deriving DecidableEq, Repr

/-- A failure of a run. -/
inductive Failure where
  | outer (fault : OuterFault)
  | config (fault : ConfigFault)
  | invalid (findings : List Finding)
  | generation (fault : GenerationFault)
  | tool (fault : ToolFault)
  /-- A failure while a group of declarations is written. -/
  | inGroup (key : String) (cause : Failure)
  /-- A failure while an output format is written. -/
  | inFormat (format : OutputFormat) (cause : Failure)
deriving Repr, BEq

/-- A step of a run. -/
abbrev Outcome (α : Type) := Except Failure α

namespace Failure

def ofShape (fault : ShapeFault) : Failure := outer (.shape fault)

def ofFile (fault : FileFault) : Failure := outer (.file fault)

/-- A step that can fail by the shape of a value. -/
def liftShape {α : Type} (step : Asked α) : Outcome α := step.mapError ofShape

/-- A model from a document.  A missing member is a fault of the document. -/
def readModel (document : Value) : Outcome Model :=
  (Model.read document).mapError fun
    | .shape (.missing name) => .config (.missingMember name)
    | .shape fault => .ofShape fault
    | .typeText text fault => .config (.typeText text fault)

def readOptions (document : Value) : Outcome Options :=
  (Options.read document).mapError fun
    | .shape fault => .ofShape fault
    | fault => .config (.option fault)

/-! ## Wording -/

/-- The text that reports why a text is no type.  It shows the whole text in
quotes, whichever part of it is wrong. -/
def typeTextMessage (text : String) : TypeExpr.ParseFault → String
  | .bracket position =>
      "Expected ']' at position " ++ toString position ++ " in type expression "
        ++ Text.quoted text
  | .name position =>
      "Expected a type name at position " ++ toString position ++ " in type expression "
        ++ Text.quoted text
  | .trailing => "Unexpected trailing input in type expression: " ++ Text.quoted text

/-- The text that reports a fault of a document or an option. -/
def configMessage (outerText : OuterFault → String) : ConfigFault → String
  | .option fault => fault.message?.getD ""
  | .typeText text fault => typeTextMessage text fault
  | .missingMember name => "Missing required key in IR document: " ++ Text.quoted name
  | .unreadable path fault => "Cannot read " ++ path ++ ": " ++ outerText (.file fault)
  | .malformed path fault => "Invalid document " ++ path ++ ": " ++ outerText fault
  | .noMapping path => "Expected a mapping at the top level of " ++ path

/-- The text that reports why an output cannot be made. -/
def generationMessage (outerText : OuterFault → String) : GenerationFault → String
  | .sharedFile first second file =>
      "groups '" ++ first ++ "' and '" ++ second ++ "' both map to output file '" ++ file ++ "'"
  | .unknownFormat word => "Unsupported output format: " ++ word
  | .noEmitter format => "No emitter for output format: " ++ format.word
  | .missingOption option purpose =>
      "generate_stubs." ++ option ++ " is required to generate " ++ purpose
  | .missingTemplate name => "Template not found: " ++ name
  | .missingTemplateDirectory path => "Template directory does not exist: " ++ path
  | .templateText name line fault =>
      "Template " ++ name ++ " has a syntax error at line " ++ toString line ++ ": "
        ++ outerText fault
  | .templateRun name fault => "Failed to render template " ++ name ++ ": " ++ outerText fault
  | .malformedContent kind fault => "Generated " ++ kind ++ " is not valid: " ++ outerText fault
  | .rejected reason => reason

/-- A text without the white space at its end. -/
def withoutTrailingBlanks (text : String) : String :=
  String.ofList (Text.trimEndWhile Text.isBlank text.toList)

/-- The text that reports why an outer program has no result. -/
def toolMessage : ToolFault → String
  | .notFound program => "protoc program not found: " ++ program
  | .failed code output =>
      let head := "protoc failed (exit code " ++ toString code ++ ")"
      if output = "" then head else head ++ "\n" ++ withoutTrailingBlanks output

def message (outerText : OuterFault → String) : Failure → String
  | outer fault => outerText fault
  | config fault => configMessage outerText fault
  | invalid findings =>
      "validation failed with " ++ toString (findings.filter (·.isError)).length ++ " error(s)"
  | generation fault => generationMessage outerText fault
  | tool fault => toolMessage fault
  | inGroup key cause => "failed to generate group '" ++ key ++ "': " ++ cause.message outerText
  | inFormat format cause => format.word ++ " output failed: " ++ cause.message outerText

end Failure

end WireSchema
