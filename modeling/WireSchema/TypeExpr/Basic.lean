namespace WireSchema

/-!
Type expressions of the annotated model.

A declared type is a name, possibly qualified by a package, a generic instantiation, or one of the
wrappers pointer, sequence and map around other types.  The printed form is the notation in which
documents write types, and it is also the key under which generic aliases are found.
-/

/-- A type expression. -/
inductive TypeExpr where
  /-- A name such as `User`, or `Time` in the package `time`. -/
  | named (name package : String)
  | pointer (elem : TypeExpr)
  | sequence (elem : TypeExpr)
  | mapping (key value : TypeExpr)
  /-- A generic type with its arguments, such as `Page[User]`. -/
  | generic (name : String) (args : List TypeExpr)
deriving Repr, Inhabited

namespace TypeExpr

mutual

def same : TypeExpr → TypeExpr → Bool
  | named name package, named other otherPackage => name == other && package == otherPackage
  | pointer elem, pointer other => same elem other
  | sequence elem, sequence other => same elem other
  | mapping key value, mapping otherKey otherValue => same key otherKey && same value otherValue
  | generic name args, generic other otherArgs => name == other && sameAll args otherArgs
  | _, _ => false

def sameAll : List TypeExpr → List TypeExpr → Bool
  | [], [] => true
  | arg :: args, other :: others => same arg other && sameAll args others
  | _, _ => false

end

instance : BEq TypeExpr := ⟨same⟩

/-- A name with its package in front, joined by a point. -/
def qualify (name package : String) : String :=
  if package = "" then name else package ++ "." ++ name

mutual

def print : TypeExpr → String
  | named name package => qualify name package
  | pointer elem => "*" ++ elem.print
  | sequence elem => "[]" ++ elem.print
  | mapping key value => "map[" ++ key.print ++ "]" ++ value.print
  | generic name args => name ++ "[" ++ String.intercalate ", " (printAll args) ++ "]"

/-- The notations of several types. -/
def printAll : List TypeExpr → List String
  | [] => []
  | arg :: args => arg.print :: printAll args

end

/-- The name of a named or generic type with its package; a wrapper has none. -/
def qualifiedName : TypeExpr → String
  | named name package => qualify name package
  | generic name _ => name
  | _ => ""

/-- The name of a named or generic type without its package; a wrapper has none. -/
def simpleName : TypeExpr → String
  | named name _ => name
  | generic name _ => name
  | _ => ""

/-- Whether a type is a sequence of bytes, which counts as one value and not as
a collection.  Only the name of the elements is looked at, not their package. -/
def isByteSequence : TypeExpr → Bool
  | sequence (named name _) => name == "byte" || name == "uint8"
  | _ => false

/-- The type inside all pointers and sequences; a sequence of bytes is left as
it is.  Maps and generic types end the search, whatever is inside them. -/
def unwrap : TypeExpr → TypeExpr
  | pointer elem => elem.unwrap
  | sequence elem => if (sequence elem).isByteSequence then sequence elem else elem.unwrap
  | expr => expr

def isPointer : TypeExpr → Bool
  | pointer _ => true
  | _ => false

/-- Whether a type is a sequence of values, bytes excepted. -/
def isCollection : TypeExpr → Bool
  | sequence elem => !(sequence elem).isByteSequence
  | _ => false

end TypeExpr

end WireSchema
