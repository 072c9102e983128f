import WireSchema.Document.Fault
import WireSchema.Options.Basic
import WireSchema.Text.Cut

namespace WireSchema.FilePlan

/-!
Names of output files.

The name of a group's schema file is a pattern in which `{schema_name}`, `{name}` and `{format}`
are put in.  Files of further formats are named by the pattern too when it has a place for the
format; otherwise their names are that of the schema file with another extension.
-/

/-! ## Parts of a path -/

def lastPart (path : String) : String := Text.afterLast '/' path

/-- Whether a name has a character other than a point. -/
def hasOtherThanPoint (cs : List Char) : Bool := cs.any (· != '.')

/-- The folder part of a path with its slash, and the name after it. -/
def splitFolder (cs : List Char) : List Char × List Char :=
  match Text.breakAtLast? '/' cs with
  | some parts => (parts.1 ++ ['/'], parts.2)
  | none => ([], cs)

/-- A path without the extension of its name.  Points at the start of a name
begin no extension, so that a hidden file keeps its name. -/
def withoutExtension (path : String) : String :=
  let parts := splitFolder path.toList
  match Text.breakAtLast? '.' parts.2 with
  | some (stem, _) => if hasOtherThanPoint stem then String.ofList (parts.1 ++ stem) else path
  | none => path

/-- A path without the extension of a schema file, or else without its
extension.  The files of further formats get their names in this way. -/
def withoutSchemaExtension (path : String) : String :=
  if Text.endsWith path ".proto" then String.ofList (path.toList.take (path.length - 6))
  else withoutExtension path

/-! ## Patterns -/

def schemaNamePlace : String := "\x7bschema_name\x7d"

/-- The place of the group's name in a pattern. -/
def namePlace : String := "\x7bname\x7d"

def formatPlace : String := "\x7bformat\x7d"

/-- The pattern that is used when there is none. -/
def defaultPattern : String := schemaNamePlace ++ ".proto"

def fillPattern (pattern schemaName name format : String) : String :=
  let effective := if pattern = "" then defaultPattern else pattern
  Text.replaceAll formatPlace format
    (Text.replaceAll namePlace name (Text.replaceAll schemaNamePlace schemaName effective))

/-- The pattern of the options; one that does not count as given is the default
one.  Its places are replaced later, which needs a text. -/
def readPattern (pattern : Value) : Asked String :=
  if pattern.isTruthy then pattern.askReplaceable else .ok defaultPattern

def hasFormatPlace : Value → Asked Bool
  | .text pattern => .ok (Text.contains pattern formatPlace)
  | .list _ => .ok false
  | .map _ => .ok false
  | _ => .error .wrongKind

def schemaFileName (pattern : Value) (name : String) : Asked String := do
  return fillPattern (← readPattern pattern) name name OutputFormat.proto.word

/-- The name of a file of a further format.  A pattern with a place for the
format is filled anew; otherwise the file stands beside the schema file, with an
extension of its own. -/
def formatFileName (schemaFile : String) (pattern : Value) (name : String)
    (format : OutputFormat) (extension : String) : Asked String := do
  if ← hasFormatPlace pattern then
    let filled := fillPattern (← readPattern pattern) name name format.word
    return withoutSchemaExtension filled ++ extension
  else return withoutSchemaExtension schemaFile ++ extension

/-! ## Names of groups -/

def withSlashes (path : String) : String :=
  String.ofList (path.toList.map fun c => if c = '\\' then '/' else c)

def withoutTrailingSlashes (path : String) : String :=
  String.ofList (Text.trimEndWhile (· == '/') path.toList)

/-- The name that a group's files are named by.  Where a key is a path, its last
part is taken, so that files of different folders can be given one name. -/
def groupName (strategy : Option Strategy) (key : Value) : Asked Value :=
  match strategy with
  | some .follow => do
      let path := withSlashes (← key.askReplaceable)
      return .text (withoutExtension (lastPart path))
  | some .package => do return .text (lastPart (withoutTrailingSlashes (← key.askText)))
  | _ => .ok key

end WireSchema.FilePlan
