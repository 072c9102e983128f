import WireSchema.Document.Fault
import WireSchema.Text.Quoted

namespace WireSchema.Json

/-!
Writing JSON documents.

Only characters of the basic Latin block are written as they are; every other one is escaped by its
UTF-16 units.  A document is written on one line, or with every member and item on a line of its
own.  Calendar days have no written form.
-/

def unitEscape (unit : Nat) : List Char :=
  ['\\', 'u'] ++ Text.hexDigits 4 unit

/-- How one character stands inside a JSON string. -/
def escapeChar (c : Char) : List Char :=
  if c = '"' then ['\\', '"']
  else if c = '\\' then ['\\', '\\']
  else if c = '\n' then ['\\', 'n']
  else if c = '\r' then ['\\', 'r']
  else if c = '\t' then ['\\', 't']
  else if c.toNat = 0x8 then ['\\', 'b']
  else if c.toNat = 0xc then ['\\', 'f']
  else if 0x20 ≤ c.toNat && c.toNat < 0x7f then [c]
  else if c.toNat < 0x10000 then unitEscape c.toNat
  else
    let offset := c.toNat - 0x10000
    unitEscape (0xd800 + offset / 0x400) ++ unitEscape (0xdc00 + offset % 0x400)

def stringText (text : String) : String :=
  String.ofList ('"' :: text.toList.flatMap escapeChar ++ ['"'])

/-- The text that a key is written as; none for a calendar day and for
collections.  Different keys can be written alike, such as a number and the text
of its digits. -/
def keyText? : Value → Option String
  | .text value => some value
  | .null => some "null"
  | .bool true => some "true"
  | .bool false => some "false"
  | .int value => some (toString value)
  | .float value => some value.jsonText
  | _ => none

def keyText (key : Value) : Asked String :=
  match keyText? key with
  | some text => .ok text
  | none => .error .wrongKind

/-- The written form of a value that holds no others; none for a calendar day. -/
def scalarText? : Value → Option String
  | .null => some "null"
  | .bool true => some "true"
  | .bool false => some "false"
  | .int value => some (toString value)
  | .float value => some value.jsonText
  | .text value => some (stringText value)
  | _ => none

mutual

/-- A value on one line, with a blank after commas and colons. -/
def compact : Value → Asked String
  | .list items => do
      let parts ← compactItems items
      return "[" ++ String.intercalate ", " parts ++ "]"
  | .map members => do
      let parts ← compactMembers members
      return "\x7b" ++ String.intercalate ", " parts ++ "\x7d"
  | value =>
      match scalarText? value with
      | some text => .ok text
      | none => .error .wrongKind

def compactItems : List Value → Asked (List String)
  | [] => .ok []
  | item :: items => do
      let first ← compact item
      let others ← compactItems items
      return first :: others

/-- The members of a mapping on one line. -/
def compactMembers : List (Value × Value) → Asked (List String)
  | [] => .ok []
  | (key, value) :: members => do
      let name ← keyText key
      let first ← compact value
      let others ← compactMembers members
      return (stringText name ++ ": " ++ first) :: others

end

/-- A line break followed by the blanks of a nesting depth, two for each level. -/
def lineAt (depth : Nat) : String :=
  String.ofList ('\n' :: List.replicate (2 * depth) ' ')

/-- Parts between brackets, each on a line of its own one level deeper than the
brackets.  Without parts the brackets stay together on one line. -/
def bracketLines (opening closing : String) (depth : Nat) (parts : List String) : String :=
  if parts.isEmpty then opening ++ closing
  else
    opening ++ lineAt (depth + 1) ++ String.intercalate ("," ++ lineAt (depth + 1)) parts
      ++ lineAt depth ++ closing

mutual

/-- A value with every member and item on a line of its own. -/
def indented (depth : Nat) : Value → Asked String
  | .list items => do
      let parts ← indentedItems (depth + 1) items
      return bracketLines "[" "]" depth parts
  | .map members => do
      let parts ← indentedMembers (depth + 1) members
      return bracketLines "\x7b" "\x7d" depth parts
  | value =>
      match scalarText? value with
      | some text => .ok text
      | none => .error .wrongKind

def indentedItems (depth : Nat) : List Value → Asked (List String)
  | [] => .ok []
  | item :: items => do
      let first ← indented depth item
      let others ← indentedItems depth items
      return first :: others

def indentedMembers (depth : Nat) : List (Value × Value) → Asked (List String)
  | [] => .ok []
  | (key, value) :: members => do
      let name ← keyText key
      let first ← indented depth value
      let others ← indentedMembers depth members
      return (stringText name ++ ": " ++ first) :: others

end

end WireSchema.Json
