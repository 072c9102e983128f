import WireSchema.Annotation.ParamValue

namespace WireSchema

/-!
Annotations.

An annotation has a name, which may carry a qualifier in front (`proto.message`), and ordered
parameters.  Names are matched without regard to case, by the whole name or by what follows a
point; a name that is no text cannot be matched.  The queries on lists of annotations keep
declaration order, so that "first" always means first declared, and a search ends at the first
match.
-/

/-- A named annotation with its parameters in order.  The name may be any value
of a document; most questions about an annotation fail when it is no text. -/
structure Annotation where
  name : Value
  params : List (String × ParamValue) := []
deriving Repr, BEq, Inhabited

namespace Annotation

/-- Whether the annotation goes by one of the names, which are given in small
letters: by itself or behind a point, in any case.  A name that is no text has no
small letters and fails. -/
def goesBy (note : Annotation) (names : List String) : Asked Bool := do
  let lowered := Text.lower (← note.name.askText)
  return names.any fun name => lowered = name || Text.endsWith lowered ("." ++ name)

/-- A parameter, if it is present. -/
def get? (note : Annotation) (param : String) : Option ParamValue :=
  lookupKey? param note.params

/-- Whether a parameter is present, whatever its value.  A parameter without a
value is present as well. -/
def has (note : Annotation) (param : String) : Bool :=
  (note.get? param).isSome

/-- A parameter as a text; none when it is a list.  An empty text is given as
such, and it is for the caller to pass over it. -/
def string? (note : Annotation) (param : String) : Option String :=
  (note.get? param).bind ParamValue.asString?

/-- A parameter as a text, the empty text when there is none. -/
def string (note : Annotation) (param : String) : String :=
  (note.string? param).getD ""

/-- A parameter as a truth value. -/
def bool? (note : Annotation) (param : String) : Option Bool :=
  (note.get? param).bind ParamValue.asBool?

/-- Whether a parameter is a truth value that holds.  A text counts when it is
one of the words for it. -/
def flag (note : Annotation) (param : String) : Bool :=
  (note.bool? param).getD false

def integer? (note : Annotation) (param : String) : Option Int :=
  (note.get? param).bind ParamValue.asInteger?

/-- A parameter as a list of texts. -/
def list? (note : Annotation) (param : String) : Option (List String) :=
  (note.get? param).bind ParamValue.asList?

def paramSelects (note : Annotation) (param : String) (message : Value) : Bool :=
  match note.get? param with
  | some value => value.selects message
  | none => false

/-- Whether the annotation applies to a message: by its scope `for`, or by the default when it has
none. -/
def appliesTo (note : Annotation) (message : Value) (default : Bool) : Bool :=
  match note.get? "for" with
  | some scope => scope.selects message
  | none => default

end Annotation

/-! ## Lists of annotations -/

/-- The annotations that go by one of the names, in order.  All of them are asked
for their names, so that one without a text for a name fails even behind others
that match. -/
def annotationsNamed (names : List String) : List Annotation → Asked (List Annotation)
  | [] => .ok []
  | note :: notes => do
      let matched ← note.goesBy names
      let others ← annotationsNamed names notes
      return if matched then note :: others else others

def annotationNamed? (names : List String) : List Annotation → Asked (Option Annotation)
  | [] => .ok none
  | note :: notes => do
      if ← note.goesBy names then return some note else annotationNamed? names notes

def isAnnotated (names : List String) (annotations : List Annotation) : Asked Bool := do
  return (← annotationNamed? names annotations).isSome

def nonempty? (text : String) : Option String :=
  if text = "" then none else some text

/-- The first nonempty text of a parameter among the annotations that go by one
of the names.  An empty text does not hide a later annotation. -/
def firstString? (names : List String) (param : String) (annotations : List Annotation) :
    Asked (Option String) := do
  return (← annotationsNamed names annotations).findSome? fun note =>
    (note.string? param).bind nonempty?

/-- The description given by annotations: the first nonempty `description` of any of them, else
the first nonempty value of one that only documents. -/
def describedBy (annotations : List Annotation) : Asked String := do
  let described := annotations.findSome? fun note =>
    (note.string? "description").bind nonempty?
  match described with
  | some text => return text
  | none =>
      let documented ← firstString? ["description", "doc", "documentation"] "value" annotations
      return documented.getD ""

end WireSchema
