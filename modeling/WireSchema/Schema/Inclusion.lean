import WireSchema.Schema.Reservation

namespace WireSchema

/-!
Which fields enter a message.

For each message of a composite type a field is kept, dropped, or dropped with its number reserved.
A field that is not visible, or whose tag leaves it out, is dropped; so is one whose scoped `field`
annotations all concern other messages.  After that annotations that leave a field out, annotations
that include it elsewhere and the parameters of its `field` annotations may drop it, and then its
number is reserved when an annotation or the message asks for it.
-/

/-- What becomes of a field in a message.  A field can be dropped with its number
left free or with its number reserved, which decides whether it takes part in
the numbering. -/
inductive Inclusion where
  | keep
  | drop
  | dropAndReserve
deriving DecidableEq, Repr, Inhabited

def Inclusion.word : Inclusion → String
  | keep => "keep"
  | drop => "drop"
  | dropAndReserve => "drop_and_reserve"

namespace DeclaredField

/-- Whether a field has `field` annotations with a scope and none of the scopes
has the message.  Annotations without a scope neither help nor hinder. -/
def isScopedOut (field : DeclaredField) (message : Value) : Asked Bool := do
  let scopes := (← annotationsNamed ["field"] field.annotations).filter (·.has "for")
  return !scopes.isEmpty && !scopes.any (·.appliesTo message true)

/-- Whether a message sees an annotation: all but the `field` annotations of
other messages.  Those that leave fields out look at their scope themselves. -/
def concernsMessage (message : Value) (note : Annotation) : Asked Bool := do
  return !(← note.goesBy ["field"]) || note.appliesTo message true

/-- A field as a message sees it: without the `field` annotations of other
messages.  All that is planned for the field is asked of this view. -/
def forMessage (field : DeclaredField) (message : Value) : Asked DeclaredField := do
  return { field with annotations := ← keepWhere (concernsMessage message) field.annotations }

/-- The `field` annotations of a field that concern a message. -/
def fieldAnnotations (field : DeclaredField) (message : Value) : Asked (List Annotation) := do
  annotationsNamed ["field"] (← field.forMessage message).annotations

/-- The annotations that may leave a field out. -/
def skipAnnotations (field : DeclaredField) : Asked (List Annotation) :=
  annotationsNamed ["ignore", "skip", "omit"] field.annotations

/-- Whether the parameters of a `field` annotation leave the field out of a
message.  A list of messages that include the field leaves it out of all the
others. -/
def dropsByParameter (message : Value) (note : Annotation) : Bool :=
  note.paramSelects "ignore" message || note.paramSelects "omit" message
    || (note.has "include" && !note.paramSelects "include" message)

/-- Whether annotations leave a field out of a message.  There are three ways,
and each is enough: to be skipped, not to be included, and a parameter that
drops. -/
def isLeftOut (field : DeclaredField) (message : Value) : Asked Bool := do
  let skips ← field.skipAnnotations
  let includes ← annotationsNamed ["include"] field.annotations
  let own ← field.fieldAnnotations message
  return skips.any (·.appliesTo message true) || includes.any (!·.appliesTo message false)
    || own.any (dropsByParameter message)

/-- Whether annotations of a field ask that its number be reserved when it is
left out.  Every annotation that may leave it out is asked, whether or not it is
the one that does. -/
def asksReservation (field : DeclaredField) (message : Value) : Asked Bool := do
  let own ← field.fieldAnnotations message
  let skips ← field.skipAnnotations
  return (own ++ skips).any (·.paramSelects "reserved" message)

/-- Whether a field has no part in a message: it is not visible, its tag leaves it out, or its
annotations all concern other messages. -/
def isForeign (model : Model) (field : DeclaredField) (message : Value) : Asked Bool := do
  if !(← field.isExported) then return true
  else if (← model.tagOf field).ignored then return true
  else field.isScopedOut message

/-- What becomes of a field in a message of its composite type.  The number is
reserved when the field asks for it, or when the type asks for it on behalf of
the message. -/
def inclusion (model : Model) (composite : Composite) (message : Value)
    (field : DeclaredField) : Asked Inclusion := do
  if ← field.isForeign model message then return .drop
  else if !(← field.isLeftOut message) then return .keep
  else if ← field.asksReservation message then return .dropAndReserve
  else return if ← composite.reservesAll message then .dropAndReserve else .drop

end DeclaredField

end WireSchema
