import WireSchema.Compiler.Script.Files
import WireSchema.Compiler.Script.Pattern

namespace WireSchema.Script

/-!
Fields of words.

An expanded word is a row of pieces.  It is cut into fields where an unquoted expansion has a
separator, and a field with an unquoted mark of a pattern stands for the files that it matches, if
there are any.
-/

/-- A piece of an expanded word. -/
inductive Piece where
  /-- A character; `splits` tells that it separates fields when it is a separator. -/
  | character (c : Char) (quoted splits : Bool)
  /-- A quote: the field counts even when it is empty. -/
  | mark
  /-- The end of a field. -/
  | cut
  /-- A quoted list without items: the word does not count for its quotes. -/
  | absent
deriving DecidableEq, Repr, Inhabited

namespace Piece

def ofText (quoted : Bool) (text : String) : List Piece :=
  text.toList.map fun c => character c quoted (!quoted)

def ofItems (quoted : Bool) (items : List String) : List Piece :=
  if items.isEmpty then (if quoted then [absent] else [])
  else
    (items.map fun item => (if quoted then [mark] else []) ++ ofText quoted item).intersperse [cut]
      |>.flatten

/-- The text of pieces; fields are joined by blanks. -/
def text (pieces : List Piece) : String :=
  String.ofList (pieces.filterMap fun
    | character c _ _ => some c
    | cut => some ' '
    | _ => none)

def pattern (pieces : List Piece) : Pattern :=
  pieces.filterMap fun
    | character c quoted _ => some ⟨c, quoted⟩
    | cut => some ⟨' ', true⟩
    | _ => none

/-- What ended the field before. -/
inductive Gap where
  | none
  /-- Separators that are white space, after which another separator may follow. -/
  | blanks
deriving DecidableEq, Repr

/-- Whether a character is white space among separators. -/
def isBlank (c : Char) : Bool := c == ' ' || c == '\t' || c == '\n'

/-- Cuts pieces into fields.  `current` is the field so far, the last character first. -/
def fieldsFrom (separators : List Char) (current : Option Pattern) (gap : Gap) :
    List Piece → List Pattern
  | [] => (current.map List.reverse).toList
  | .mark :: rest => fieldsFrom separators (some (current.getD [])) .none rest
  | .absent :: rest => fieldsFrom separators current gap rest
  | .cut :: rest =>
      (current.map List.reverse).toList ++ fieldsFrom separators none .none rest
  | .character c quoted splits :: rest =>
      if !splits || !separators.contains c then
        fieldsFrom separators (some (⟨c, quoted⟩ :: current.getD [])) .none rest
      else if isBlank c then
        match current with
        | some field => field.reverse :: fieldsFrom separators none .blanks rest
        | none => fieldsFrom separators none gap rest
      else
        match current, gap with
        | some field, _ => field.reverse :: fieldsFrom separators none .none rest
        | none, .blanks => fieldsFrom separators none .none rest
        | none, .none => [] :: fieldsFrom separators none .none rest

def fields (separators : String) (pieces : List Piece) : List Pattern :=
  let counted := if pieces.contains .absent then pieces.filter (· != .mark) else pieces
  fieldsFrom separators.toList none .none counted

end Piece

/-! ## Files that a pattern matches -/

/-- The parts of a pattern between slashes. -/
def splitPattern : Pattern → List Pattern
  | [] => [[]]
  | next :: rest =>
      if next.c = '/' then [] :: splitPattern rest
      else
        match splitPattern rest with
        | [] => [[next]]
        | part :: parts => (next :: part) :: parts

/-- The names in a directory that a part of a pattern matches.  A name that begins with a point has
to be matched with the point. -/
def matchingNames (folder : Folder) (directory : String) (part : Pattern) : List String :=
  let names :=
    match folder.namesOf (if directory = "" then "." else directory) with
    | .ok names => folder.contents names
    | .error _ => []
  names.filter fun name =>
    part.covers name && (!name.startsWith "." || part.head?.any (·.c == '.'))

/-- The paths that the parts of a pattern match, after the start of a path. -/
def pathsFrom (folder : Folder) : List Pattern → String → List String
  | [], start => [start]
  | part :: parts, start =>
      let slash := if parts.isEmpty then "" else "/"
      let names := if part.hasMarks then matchingNames folder start part else [part.text]
      names.flatMap fun name =>
        let path := start ++ name
        if path = "" then pathsFrom folder parts slash
        else
          match folder.kindOf path with
          | .missing => []
          | .directory => pathsFrom folder parts (path ++ slash)
          | .file _ => if parts.isEmpty then [path] else []

def wordsOf (folder : Folder) (matchesFiles : Bool) (field : Pattern) : List String :=
  if matchesFiles && field.hasMarks then
    match pathsFrom folder (splitPattern field) "" with
    | [] => [field.text]
    | paths => paths
  else [field.text]

end WireSchema.Script
