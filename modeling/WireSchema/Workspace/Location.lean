import WireSchema.Text.Cut

namespace WireSchema

/-!
Locations of files.

A location is a list of names with a starting point: the working directory as the place to which
relative paths refer, the same directory by its full path, or the top of the file system.  Empty
names and single points are left out when a path is read; double points are kept, since what they
mean depends on the directories that exist.
-/

/-- Where the names of a location start.  Paths of the first two kinds lead to
the same places, but are shown in the way in which they were given. -/
inductive Anchor where
  /-- At the working directory, which is not written. -/
  | relative
  /-- At the working directory, which is written in full. -/
  | workspace
  /-- At the top of the file system. -/
  | top
deriving DecidableEq, Repr, Inhabited

/-- The location of a file or directory. -/
structure Location where
  anchor : Anchor
  names : List String
deriving DecidableEq, Repr, Inhabited

namespace Location

/-- The name of a directory that stands for the one above it. -/
def parentMark : String := ".."

def isName (part : String) : Bool := part != "" && part != "."

def namesOf (path : String) : List String :=
  ((Text.splitAtEach '/' path.toList).map String.ofList).filter isName

def ofText (path : String) : Location :=
  { anchor := if Text.startsWith path "/" then .top else .relative, names := namesOf path }

/-- The location of a path when the full path of the working directory is
`root`.  A full path into that directory is told from all others, as it leads to
a place that can be reached. -/
def ofTextIn (root path : String) : Location :=
  match Text.afterLeading? root.toList path.toList with
  | some [] => { anchor := .workspace, names := [] }
  | some ('/' :: rest) => { anchor := .workspace, names := namesOf (String.ofList rest) }
  | _ => ofText path

/-- A location seen from another one; a full location stays what it is. -/
def join (base inner : Location) : Location :=
  if inner.anchor = .relative then { base with names := base.names ++ inner.names } else inner

/-- The location of a path seen from another location.  A path from the top of
the file system is not put below it, but stays what it is. -/
def joinText (base : Location) (path : String) : Location :=
  base.join (ofText path)

/-- A location as a path; `root` is the full path of the working directory. -/
def print (root : String) (location : Location) : String :=
  let path := String.intercalate "/" location.names
  match location.anchor with
  | .relative => if location.names.isEmpty then "." else path
  | .workspace => if location.names.isEmpty then root else root ++ "/" ++ path
  | .top => "/" ++ path

/-- The last name of a location; empty when it has none. -/
def name (location : Location) : String :=
  location.names.getLast?.getD ""

/-- The location of the directory that holds a location. -/
def parent (location : Location) : Location :=
  { location with names := location.names.dropLast }

/-- The suffix of a name: its last point and what follows, unless the point is its first or last
character. -/
def suffixOf (name : String) : String :=
  match Text.breakAtLast? '.' name.toList with
  | some (stem, rest) =>
      if stem.isEmpty || rest.isEmpty then "" else String.ofList ('.' :: rest)
  | none => ""

def suffix (location : Location) : String := suffixOf location.name

/-! ## Limits -/

/-- The greatest length of a name in bytes. -/
def maxNameLength : Nat := 255

/-- The greatest length of a path in bytes. -/
def maxPathLength : Nat := 4095

/-- Whether a name is longer than the file system admits. -/
def isLongName (name : String) : Bool := maxNameLength < name.utf8ByteSize

/-- Whether the names of a location are together longer than the file system admits. -/
def isLongPath (location : Location) : Bool :=
  maxPathLength < (String.intercalate "/" location.names).utf8ByteSize

def holdsPathEnd (text : String) : Bool := text.toList.contains (Char.ofNat 0)

/-! ## Full locations -/

/-- Names with each double point and the name before it left out.  Nothing is
left out in front of the first name, so that names never lead above the place
where they start. -/
def normalNames (names : List String) : List String :=
  names.foldl (fun kept name => if name = parentMark then kept.dropLast else kept ++ [name]) []

/-- A location in full, without double points. -/
def resolved (location : Location) : Location :=
  { anchor := if location.anchor = .top then .top else .workspace
    names := normalNames location.names }

end Location

end WireSchema
