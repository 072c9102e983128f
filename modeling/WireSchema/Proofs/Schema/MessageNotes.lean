import WireSchema.Proofs.Document.Distinct
import WireSchema.Proofs.Schema.Matching

namespace WireSchema

/-!
# What one message reserves

A composite type with several `message` annotations is written as several messages, and each of them
says by itself, with `reserved`, whether it reserves the numbers of the fields that it leaves out.
What the annotation of one message says must not be felt in another one, for it would give other
numbers to all fields behind a field that is left out.

For annotations with a name this holds: under all changes of `reserved` in annotations that name
other messages the plan stays the same.  An annotation without a name makes the message with the
default name, but it is asked for `reserved` by every message of its type.
-/

open Asked

/-! ## Changes that a message must not feel -/

/-- A composite type with other annotations. -/
def Composite.withAnnotations (composite : Composite) (annotations : List Annotation) : Composite :=
  { composite with annotations }

/-- The annotation of a message with another name, before and after a change of
`reserved`.  An annotation without a name is excluded: it concerns every message
of its type. -/
structure Annotation.ReservesElsewhere (message : Value) (before after : Annotation) : Prop where
  name : after.name = before.name
  params : ∀ param, param ≠ "reserved" → after.get? param = before.get? param
  ofMessage : before.isNamed ["message"] = true
  elsewhere : ∃ own, nonempty? (before.string "name") = some own ∧ Value.text own ≠ message

/-- Two annotations of a composite type that a message must not tell apart.  They
are the same, or they differ in `reserved` and speak of another message by
name. -/
def AlikeReserving (message : Value) (before after : Annotation) : Prop :=
  after = before ∨ before.ReservesElsewhere message after

/-- A composite type before and after changes of `reserved` in annotations of other messages. -/
structure Composite.ReservesElsewhere (message : Value) (before after : Composite) : Prop where
  others : after = before.withAnnotations after.annotations
  notes : List.Forall₂ (AlikeReserving message) before.annotations after.annotations

/-- A model before and after changes of the annotations of its composite types.
Fields stay as they are, so that templates can still be looked up and filled. -/
def Model.Reannotates (before after : Model) : Prop :=
  before.Matches Eq after

namespace AlikeReserving

variable {message : Value} {before after : Annotation}

theorem name (alike : AlikeReserving message before after) : after.name = before.name := by
  rcases alike with rfl | changes
  · rfl
  · exact changes.name

theorem string? (alike : AlikeReserving message before after) {param : String}
    (other : param ≠ "reserved") : after.string? param = before.string? param := by
  rcases alike with rfl | changes
  · rfl
  · unfold Annotation.string?
    rw [changes.params param other]

theorem string (alike : AlikeReserving message before after) {param : String}
    (other : param ≠ "reserved") : after.string param = before.string param := by
  unfold Annotation.string
  rw [alike.string? other]

/-- A query for other words than `message` finds no change. -/
theorem eq_or_isNamed_eq_false (alike : AlikeReserving message before after) {names : List String}
    (plain : ∀ word ∈ ["message"] ++ names, '.' ∉ word.toList)
    (disjoint : ∀ word ∈ ["message"], word ∉ names) :
    after = before ∨ after.name = before.name ∧ before.isNamed names = false := by
  rcases alike with same | changes
  · exact Or.inl same
  · exact Or.inr ⟨changes.name, Annotation.isNamed_eq_false plain disjoint changes.ofMessage⟩

/-- An annotation that concerns the message is the same before and after. -/
theorem eq_or_concerns_eq_false (alike : AlikeReserving message before after) :
    after = before ∨ Composite.concernsMessage message before = false ∧
      Composite.concernsMessage message after = false := by
  rcases alike with same | changes
  · exact Or.inl same
  · rcases changes.elsewhere with ⟨own, given, different⟩
    have sameName : after.string "name" = before.string "name" :=
      string (.inr changes) (by decide)
    have passed : Composite.concernsMessage message before = false := by
      unfold nonempty? at given
      split at given
      · cases given
      · rename_i nonempty
        cases given
        rw [Composite.concernsMessage, Bool.or_eq_false_iff]
        exact ⟨beq_eq_false_iff_ne.mpr nonempty,
          Bool.eq_false_iff.mpr fun same => different (Value.text_beq_iff.mp same).symm⟩
    refine Or.inr ⟨passed, ?_⟩
    rw [Composite.concernsMessage, sameName]
    exact passed

end AlikeReserving

namespace Composite.ReservesElsewhere

variable {message : Value} {composite edited : Composite}

theorem messageAnnotations (changes : composite.ReservesElsewhere message edited) :
    Related (List.Forall₂ fun note other => AlikeReserving message note other ∧
        note.isNamed ["message"] = true)
      composite.messageAnnotations edited.messageAnnotations :=
  annotationsNamed_of_forall₂ ["message"] AlikeReserving.name changes.notes

theorem reservedAnnotations (changes : composite.ReservesElsewhere message edited) :
    edited.reservedAnnotations message = composite.reservedAnnotations message := by
  have same := annotationsNamed_eq_of_forall₂ ["reserved"]
    (fun alike => alike.eq_or_isNamed_eq_false (by decide) (by decide)) changes.notes
  rw [Composite.reservedAnnotations, Composite.reservedAnnotations, same]

/-- The first annotation that concerns the message and says something about `reserved` is the
same. -/
theorem reservesAll (changes : composite.ReservesElsewhere message edited) :
    edited.reservesAll message = composite.reservesAll message := by
  apply Related.eq
  apply Related.bind changes.messageAnnotations
  intro notes others alike
  have same : others.find? (fun note => concernsMessage message note && note.has "reserved") =
      notes.find? fun note => concernsMessage message note && note.has "reserved" := by
    rw [← List.head?_filter, ← List.head?_filter]
    congr 1
    refine filter_eq_of_forall₂ _ ?_ alike
    rintro note other ⟨pair, -⟩
    rcases pair.eq_or_concerns_eq_false with same | ⟨before, after⟩
    · exact Or.inl same
    · exact Or.inr ⟨by rw [before, Bool.false_and], by rw [after, Bool.false_and]⟩
  simp only [same, changes.reservedAnnotations]
  exact related_of_eq rfl

theorem descriptionOf (changes : composite.ReservesElsewhere message edited) :
    WireSchema.descriptionOf edited.annotations edited.doc =
      WireSchema.descriptionOf composite.annotations composite.doc := by
  have doc : edited.doc = composite.doc := by
    rw [changes.others]
    rfl
  have described := findSome?_of_forall₂ (fun note => (note.string? "description").bind nonempty?)
    (fun alike => by rw [alike.string? (by decide)]) changes.notes
  have documented := annotationsNamed_eq_of_forall₂ ["description", "doc", "documentation"]
    (fun alike => alike.eq_or_isNamed_eq_false (by decide) (by decide)) changes.notes
  simp only [WireSchema.descriptionOf, describedBy, firstString?, described, documented, doc]

theorem messageDescription (changes : composite.ReservesElsewhere message edited) :
    edited.messageDescription message = composite.messageDescription message := by
  have name : edited.name = composite.name := by
    rw [changes.others]
    rfl
  apply Related.eq
  apply Related.bind changes.messageAnnotations
  intro notes others alike
  have own := filter_of_forall₂ (composite.describesMessage message)
    (fun pair => by rw [describesMessage, pair.1.string (by decide), describesMessage]) alike
  have found := findSome?_of_forall₂ (fun note => nonempty? (note.string "description"))
    (fun pair => by rw [pair.1.1.string (by decide)]) own
  have describes : edited.describesMessage message = composite.describesMessage message := by
    funext note
    simp only [describesMessage, name]
  simp only [describes, found, changes.descriptionOf]
  exact related_of_eq rfl

/-- What the type states about the message by itself is the same. -/
theorem statements (changes : composite.ReservesElsewhere message edited) :
    edited.statements message = composite.statements message := by
  simp only [Composite.statements, declaredNumbers, declaredNames, changes.reservedAnnotations,
    changes.messageDescription]

end Composite.ReservesElsewhere

/-! ## The plan of the message -/

theorem Composite.ReservesElsewhere.matches {message : Value} {composite edited : Composite}
    (changes : composite.ReservesElsewhere message edited) : composite.Matches Eq edited where
  others := by
    rw [changes.others]
    rfl
  fields := by
    rw [changes.others]
    exact List.forall₂_same.mpr fun _ _ => rfl

namespace SchemaContext

variable {model changed : Model} {composite edited : Composite} {message : Value} {next : Int}

/-- Annotations of types have no part in which fields a type has. -/
theorem resolvedFields_reannotated (models : model.Reannotates changed)
    (types : composite.Matches Eq edited) :
    changed.resolvedFields edited = model.resolvedFields composite := by
  have related := models.resolvedFields types (by rintro before _ rfl retype; rfl)
  rw [List.forall₂_eq_eq_eq] at related
  exact Related.eq (related.imp fun _ _ same => same.symm)

/-- Of the type itself a field asks just one thing: whether the numbers of all fields that are left
out are reserved. -/
theorem resolveFields_of_reservesAll (context : SchemaContext)
    (same : edited.reservesAll message = composite.reservesAll message)
    (fields : List DeclaredField) :
    context.resolveFields edited message next fields =
      context.resolveFields composite message next fields := by
  induction fields generalizing next with
  | nil => rfl
  | cons field fields ih =>
      have head : context.resolveField edited message next field =
          context.resolveField composite message next field := by
        simp only [resolveField, DeclaredField.inclusion, same]
      simp only [resolveFields, head, ih]

/-- Changes of `reserved` in annotations that name other messages, whatever annotations of other
types become, leave the plan of a message as it is. -/
theorem plan_reservedElsewhere (models : model.Reannotates changed)
    (changes : composite.ReservesElsewhere message edited) (options : Options) :
    (SchemaContext.of changed options).plan edited message =
      ((SchemaContext.of model options).plan composite message).map fun plan =>
        { plan with composite := edited } := by
  have context := of_withComposites options models.aliasesOf
  have run : ∀ fields, (SchemaContext.of changed options).resolveFields edited message
      options.startNumber fields = (SchemaContext.of model options).resolveFields composite message
        options.startNumber fields := by
    intro fields
    rw [resolveFields_of_reservesAll _ changes.reservesAll, models.others, context]
    exact resolveFields_withComposites _ _ _ composite.fields _ _ _
  apply Related.eq_map
  apply Related.bind (related_of_eq changes.statements)
  rintro _ stated rfl
  apply Related.bind (related_of_eq (resolvedFields_reannotated models changes.matches))
  rintro _ fields rfl
  apply Related.bind (related_of_eq (run fields))
  rintro _ outcomes rfl
  exact .ok rfl

/-- A type with two messages, a field that the second one leaves out, and annotations. -/
def profileType (notes : List Annotation) : Composite where
  name := .text "User"
  annotations := notes
  fields :=
    [{ name := .text "Id", type := .named "int64" "" },
      { name := .text "Secret", type := .named "string" ""
        annotations := [{ name := .text "ignore", params := [("for", .text "Profile")] }] },
      { name := .text "Name", type := .named "string" "" }]

def messageNote (params : List (String × ParamValue)) : Annotation where
  name := .text "message"
  params := params

def profileNames (notes : List Annotation) : Option (List String) :=
  (profileType notes).messageNames.toOption.map (List.map Value.display)

def profilePlan (notes : List Annotation) : Asked MessagePlan :=
  (SchemaContext.of { composites := [profileType notes] } {}).plan (profileType notes)
    (.text "Profile")

/-- The numbers of the fields of this message, and those that it reserves. -/
def profileNumbers (notes : List Annotation) : Option (List Int × List Int) :=
  (profilePlan notes).toOption.map fun plan => (plan.fields.map (·.number), plan.reservedNumbers)

theorem plan_reservedElsewhere_profileType :
    let before := [messageNote [("name", .text "User"), ("reserved", .bool true)],
      messageNote [("name", .text "Profile")]]
    let after := [messageNote [("name", .text "User")], messageNote [("name", .text "Profile")]]
    profilePlan after = (profilePlan before).map (fun plan =>
        { plan with composite := profileType after }) ∧
      profileNumbers before = some ([1, 2], []) := by
  intro before after
  have alike : AlikeReserving (.text "Profile")
      (messageNote [("name", .text "User"), ("reserved", .bool true)])
      (messageNote [("name", .text "User")]) := by
    refine .inr ⟨rfl, fun param other => ?_, by decide +kernel, "User", by decide +kernel, ?_⟩
    · have absent : ("reserved" == param) = false := beq_eq_false_iff_ne.mpr (Ne.symm other)
      simp only [lookupKey?, messageNote, Annotation.get?, List.find?_cons, absent]
    · simp
  have changes : (profileType before).ReservesElsewhere (.text "Profile") (profileType after) :=
    ⟨rfl, .cons alike (.cons (.inl rfl) .nil)⟩
  have models : Model.Reannotates { composites := [profileType before] }
      { composites := [profileType after] } :=
    ⟨rfl, .cons changes.matches .nil⟩
  exact ⟨plan_reservedElsewhere models changes {}, by decide +kernel⟩

/-- For an annotation without a name the law fails.  The first annotation makes the message `User`,
by default, and its `reserved` is felt in the message `Profile`, which numbers its last field
differently and reserves a number. -/
theorem profileNumbers_unnamed :
    let before := [messageNote [("reserved", .bool true)], messageNote [("name", .text "Profile")]]
    let after := [messageNote [], messageNote [("name", .text "Profile")]]
    profileNames before = some ["User", "Profile"] ∧
      profileNames after = some ["User", "Profile"] ∧
      profileNumbers before = some ([1, 3], [2]) ∧ profileNumbers after = some ([1, 2], []) := by
  decide +kernel

end SchemaContext

end WireSchema
