import WireSchema.Stub.Descriptor

namespace WireSchema.Stub

/-!
Lines of the modules of adapter stubs.

A module is a list of lines.  It begins with a comment that tells how it was made, followed by its
imports; every definition stands after two empty lines.  Conversions, modules that are imported and
the empty message are told from the text around them: whatever a line refers to beyond the names of
the program and of the schema is one of these.
-/

/-! ## The modules of a package -/

/-- A module that is made from stub data. -/
inductive StubModule where
  | types
  | adapter
  | client
  | bridge
  | registration
deriving DecidableEq, Repr, Inhabited

/-- All modules, in the order in which they are written. -/
def StubModule.all : List StubModule := [.types, .adapter, .client, .bridge, .registration]

def StubModule.word : StubModule → String
  | types => "types"
  | adapter => "adapter"
  | client => "client"
  | bridge => "bridge"
  | registration => "registration"

/-! ## Conversions -/

/-- A function of the module of conversions, by the name of what it converts.
Calls and definitions name conversions in this form, which lets them be compared
before they are written. -/
inductive Conversion where
  /-- The test of a message for its zero value. -/
  | zeroTest (snake : String)
  | toSchema (snake : String)
  | fromSchema (snake : String)
  | listToSchema (snake : String)
  | listFromSchema (snake : String)
  | pointerToSchema (pointer : String)
  | pointerFromSchema (pointer : String)
  /-- A conversion of maps, which has its name from both of their types. -/
  | ofMap (name : String)
deriving DecidableEq, Repr

def Conversion.name : Conversion → String
  | zeroTest snake => "is_zero_" ++ snake
  | toSchema snake => snake ++ "_to_proto"
  | fromSchema snake => snake ++ "_from_proto"
  | listToSchema snake => snake ++ "_slice_to_proto"
  | listFromSchema snake => snake ++ "_slice_from_proto"
  | pointerToSchema pointer => "convert_pointer_to_proto_" ++ pointer
  | pointerFromSchema pointer => "convert_pointer_from_proto_" ++ pointer
  | ofMap name => name

/-! ## Lines -/

inductive Part where
  | text (content : String)
  /-- A conversion that is called. -/
  | call (conversion : Conversion)
  | emptyMessage
deriving DecidableEq, Repr

def Part.print : Part → String
  | text content => content
  | call conversion => conversion.name
  | emptyMessage => "empty_pb2.Empty()"

inductive Import where
  /-- The import that lets the types of parameters be read late. -/
  | annotations
  /-- The module of the empty message. -/
  | emptyMessages
  /-- A module that the options name. -/
  | configured (path shortName : String)
  /-- Another module of the package. -/
  | sibling (module : StubModule) (shortName : String)
deriving DecidableEq, Repr

def Import.print : Import → String
  | annotations => "from __future__ import annotations"
  | emptyMessages => "from google.protobuf import empty_pb2"
  | configured path shortName => "import " ++ path ++ " as " ++ shortName
  | sibling module shortName => "from . import " ++ module.word ++ " as " ++ shortName

inductive Line where
  | load (loaded : Import)
  /-- The head of a conversion's definition. -/
  | define (conversion : Conversion) (parameters result : String)
  | code (parts : List Part)
deriving DecidableEq, Repr

namespace Line

def plain (content : String) : Line := code [.text content]

def blank : Line := code []

def print : Line → String
  | load loaded => loaded.print
  | define conversion parameters result =>
      "def " ++ conversion.name ++ "(" ++ parameters ++ ") -> " ++ result ++ ":"
  | code parts => String.join (parts.map Part.print)

end Line

def moduleText (lines : List Line) : String :=
  String.join (lines.map fun line => line.print ++ "\n")

/-- A definition after two empty lines. -/
def definition (lines : List Line) : List Line :=
  [.blank, .blank] ++ lines

/-! ## Common lines -/

/-- The comment and the first import of a module.  The command line is recorded
when there is one, as it stands and on the same line. -/
def headLines (data : StubData) : List Line :=
  [.plain "# Code generated by proto_schema_gen. DO NOT EDIT."]
    ++ (if data.commandLine = "" then [] else [.plain ("# Command: " ++ data.commandLine)])
    ++ [.blank, .load .annotations]

/-- The import of the service code of the schema. -/
def serviceImport (data : StubData) : Line :=
  .load (.configured data.grpcPackage.display data.grpcAlias.display)

/-- The imports of a module that talks to the service code of the schema. -/
def serviceImportLines (data : StubData) : List Line :=
  [.blank] ++ (if data.usesEmpty then [.load .emptyMessages, .blank] else [])
    ++ [serviceImport data]
    ++ (if data.types.isEmpty && data.enums.isEmpty then []
        else [.blank, .load (.sibling .types "convert")])

def callArguments (arguments : List String) : String :=
  String.intercalate ", " arguments

end WireSchema.Stub
