import Mathlib.Data.List.Perm.Basic
import WireSchema.Proofs.Schema.Retirement

namespace WireSchema

/-!
# How annotations decide whether a field enters a message

The decision on a field asks several questions of its annotations, one after the other.  None of
them depends on the order in which the annotations are declared.  An annotation that leaves fields
out is heard in two of them, whether the field is left out and whether its number is reserved; both
ask whether some annotation says so, and so one more of them can only turn the answers from no to
yes. In the order of keeping a field, dropping it, and dropping it with its number reserved, what is
decided then never goes down.
-/

open Asked

/-- How far a field is taken out of a message.  To reserve the number goes
further than to drop the field, so that further annotations which leave it out
can only raise the rank. -/
def Inclusion.rank : Inclusion → Nat
  | keep => 0
  | drop => 1
  | dropAndReserve => 2

/-- A field that is kept comes before one that is dropped, and that one before a field that is
dropped with its number reserved. -/
instance : LE Inclusion := ⟨fun first second => first.rank ≤ second.rank⟩

theorem Inclusion.le_refl (inclusion : Inclusion) : inclusion ≤ inclusion :=
  Nat.le_refl inclusion.rank

theorem Inclusion.keep_le (inclusion : Inclusion) : .keep ≤ inclusion :=
  Nat.zero_le inclusion.rank

theorem Inclusion.le_dropAndReserve (inclusion : Inclusion) : inclusion ≤ .dropAndReserve := by
  change inclusion.rank ≤ 2
  cases inclusion <;> decide

/-! ## The order of annotations -/

section Order

variable {notes others : List Annotation}

/-- What a query finds among annotations in another order is the same in another order. -/
theorem annotationsNamed_perm (names : List String) (order : others.Perm notes) :
    Related (fun found again => again.Perm found) (annotationsNamed names notes)
      (annotationsNamed names others) := by
  rw [annotationsNamed_eq, annotationsNamed_eq, order.all_eq]
  split
  · exact .ok (order.filter _)
  · exact .error _

namespace DeclaredField

variable {field : DeclaredField}

theorem isScopedOut_perm (order : others.Perm notes) (message : Value) :
    (field.withAnnotations others).isScopedOut message =
      (field.withAnnotations notes).isScopedOut message := by
  apply Related.eq
  apply Related.bind (annotationsNamed_perm ["field"] order)
  intro found again same
  have scopes := same.filter (·.has "for")
  simp only [scopes.isEmpty_eq, scopes.any_eq]
  exact related_of_eq rfl

theorem isForeign_perm (order : others.Perm notes) (model : Model) (message : Value) :
    (field.withAnnotations others).isForeign model message =
      (field.withAnnotations notes).isForeign model message := by
  rw [isForeign, isForeign, isScopedOut_perm order]
  rfl

theorem fieldAnnotations_perm (order : others.Perm notes) (message : Value) :
    Related (fun found again => again.Perm found)
      ((field.withAnnotations notes).fieldAnnotations message)
      ((field.withAnnotations others).fieldAnnotations message) := by
  rw [fieldAnnotations, fieldAnnotations, forMessage_eq, forMessage_eq]
  have texts : (field.withAnnotations others).annotations.all Annotation.hasTextName =
      (field.withAnnotations notes).annotations.all Annotation.hasTextName := order.all_eq
  rw [texts]
  split
  · exact annotationsNamed_perm ["field"] (order.filter _)
  · exact .error _

theorem isLeftOut_perm (order : others.Perm notes) (message : Value) :
    (field.withAnnotations others).isLeftOut message =
      (field.withAnnotations notes).isLeftOut message := by
  apply Related.eq
  apply Related.bind (annotationsNamed_perm ["ignore", "skip", "omit"] order)
  intro skips skipsAgain skipping
  apply Related.bind (annotationsNamed_perm ["include"] order)
  intro includes includesAgain including
  apply Related.bind (fieldAnnotations_perm order message)
  intro own ownAgain same
  simp only [skipping.any_eq, including.any_eq, same.any_eq]
  exact related_of_eq rfl

theorem asksReservation_perm (order : others.Perm notes) (message : Value) :
    (field.withAnnotations others).asksReservation message =
      (field.withAnnotations notes).asksReservation message := by
  apply Related.eq
  apply Related.bind (fieldAnnotations_perm order message)
  intro own ownAgain same
  apply Related.bind (annotationsNamed_perm ["ignore", "skip", "omit"] order)
  intro skips skipsAgain skipping
  rw [(same.append skipping).any_eq]
  exact related_of_eq rfl

/-- The order in which the annotations of a field are declared does not matter. -/
theorem inclusion_perm (order : others.Perm notes) (model : Model)
    (composite : Composite) (message : Value) :
    (field.withAnnotations others).inclusion model composite message =
      (field.withAnnotations notes).inclusion model composite message := by
  rw [inclusion, inclusion, isForeign_perm order, isLeftOut_perm order, asksReservation_perm order]

end DeclaredField

end Order

/-! ## One more annotation that leaves fields out -/

/-- An answer that does not turn from yes to no.  That a decision grows with a
scope is put together from answers of this kind. -/
def StaysTrue (answer after : Bool) : Prop :=
  answer = true → after = true

/-- What is said of some annotations is said of one more. -/
theorem staysTrue_any_cons (test : Annotation → Bool) (note : Annotation)
    (notes : List Annotation) : StaysTrue (notes.any test) ((note :: notes).any test) := by
  intro holds
  rw [List.any_cons, holds, Bool.or_true]

theorem StaysTrue.or_right {answer after : Bool} (stays : StaysTrue answer after) (other : Bool) :
    StaysTrue (answer || other) (after || other) := by
  intro holds
  rcases Bool.or_eq_true_iff.mp holds with own | further
  · rw [stays own, Bool.true_or]
  · rw [further, Bool.or_true]

theorem StaysTrue.or_left {answer after : Bool} (stays : StaysTrue answer after) (other : Bool) :
    StaysTrue (other || answer) (other || after) := by
  rw [Bool.or_comm other, Bool.or_comm other]
  exact stays.or_right other

/-- What becomes of a field that has a part in a message, by the answers to three questions: whether
it is left out, whether it asks for its number to be reserved then, and whether the message reserves
the numbers of all fields that are left out. -/
def Inclusion.ofAnswers (out asked all : Asked Bool) : Asked Inclusion := do
  if !(← out) then return .keep
  else if ← asked then return .dropAndReserve
  else return if ← all then .dropAndReserve else .drop

theorem DeclaredField.inclusion_eq (model : Model) (composite : Composite) (message : Value)
    (field : DeclaredField) :
    field.inclusion model composite message =
      (field.isForeign model message >>= fun foreign =>
        if foreign then .ok .drop
        else Inclusion.ofAnswers (field.isLeftOut message) (field.asksReservation message)
          (composite.reservesAll message)) :=
  rfl

section Answers

variable {out outAfter asked askedAfter all : Asked Bool} {before after : Inclusion}

/-- When no answer on the field turns from yes to no, the decision does not go down. -/
theorem Inclusion.le_of_ofAnswers (left : Related StaysTrue out outAfter)
    (asks : Related StaysTrue asked askedAfter) (decided : ofAnswers out asked all = .ok before)
    (decidedAfter : ofAnswers outAfter askedAfter all = .ok after) : before ≤ after := by
  cases left with
  | error fault => cases decided
  | @ok out outAfter stays =>
      cases out with
      | false =>
          cases decided
          exact keep_le after
      | true =>
          cases stays rfl
          cases asks with
          | error fault => cases decided
          | @ok asked askedAfter asking =>
              cases asked with
              | true =>
                  cases asking rfl
                  cases decided
                  cases decidedAfter
                  exact le_refl _
              | false =>
                  -- Only here the message is asked, unless the field asks for itself now.
                  cases askedAfter with
                  | true =>
                      cases decidedAfter
                      exact le_dropAndReserve before
                  | false =>
                      cases decided.symm.trans decidedAfter
                      exact le_refl _

theorem Inclusion.succeeds_ofAnswers (left : out.Succeeds) (asks : asked.Succeeds)
    (reserves : all.Succeeds) : (ofAnswers out asked all).Succeeds := by
  apply left.bind
  intro out _
  split
  · exact succeeds_ok _
  · apply asks.bind
    intro asked _
    split
    · exact succeeds_ok _
    · exact reserves.bind fun _ _ => succeeds_ok _

/-- Whoever can tell whether a field is left out can tell whether it asks for a reservation. -/
theorem DeclaredField.succeeds_asksReservation_of_isLeftOut {field : DeclaredField}
    {message : Value} (left : (field.isLeftOut message).Succeeds) :
    (field.asksReservation message).Succeeds := by
  rcases left with ⟨out, found⟩
  rcases bind_eq_ok_iff.mp found with ⟨skips, skipping, rest⟩
  rcases bind_eq_ok_iff.mp rest with ⟨includes, -, rest⟩
  rcases bind_eq_ok_iff.mp rest with ⟨own, annotated, -⟩
  rw [asksReservation, annotated, ok_bind, skipping]
  exact succeeds_ok _

end Answers

namespace Annotation.IsSkip

variable {skip : Annotation} {field : DeclaredField} {notes : List Annotation}

/-- It comes in front of those that there were. -/
theorem skipAnnotations_cons (leaves : skip.IsSkip) (notes : List Annotation) :
    Related (fun found more => more = skip :: found)
      (annotationsNamed ["ignore", "skip", "omit"] notes)
      (annotationsNamed ["ignore", "skip", "omit"] (skip :: notes)) := by
  rw [annotationsNamed_eq, annotationsNamed_eq, List.all_cons, leaves.hasTextName, Bool.true_and]
  split
  · exact .ok (List.filter_cons_of_pos leaves.isNamed)
  · exact .error _

theorem fieldAnnotations_cons (leaves : skip.IsSkip) (message : Value) :
    (field.withAnnotations (skip :: notes)).fieldAnnotations message =
      (field.withAnnotations notes).fieldAnnotations message := by
  rw [← List.nil_append (skip :: notes)]
  exact DeclaredField.fieldAnnotations_insert leaves.hasTextName leaves.isNamed_field message

theorem isForeign_cons (leaves : skip.IsSkip) (model : Model) (message : Value) :
    (field.withAnnotations (skip :: notes)).isForeign model message =
      (field.withAnnotations notes).isForeign model message := by
  rw [← List.nil_append (skip :: notes)]
  exact DeclaredField.isForeign_insert leaves.hasTextName leaves.isNamed_field model message

theorem isLeftOut_cons (leaves : skip.IsSkip) (message : Value) :
    Related StaysTrue ((field.withAnnotations notes).isLeftOut message)
      ((field.withAnnotations (skip :: notes)).isLeftOut message) := by
  apply Related.bind (leaves.skipAnnotations_cons notes)
  rintro skips _ rfl
  have includes : annotationsNamed ["include"] ([] ++ skip :: notes) =
      annotationsNamed ["include"] ([] ++ notes) :=
    annotationsNamed_insert leaves.hasTextName leaves.isNamed_include
  apply Related.bind (related_of_eq includes)
  rintro found _ rfl
  apply Related.bind (related_of_eq (leaves.fieldAnnotations_cons message))
  rintro own _ rfl
  exact .ok (((staysTrue_any_cons _ skip skips).or_right _).or_right _)

theorem asksReservation_cons (leaves : skip.IsSkip) (message : Value) :
    Related StaysTrue ((field.withAnnotations notes).asksReservation message)
      ((field.withAnnotations (skip :: notes)).asksReservation message) := by
  apply Related.bind (related_of_eq (leaves.fieldAnnotations_cons message))
  rintro own _ rfl
  apply Related.bind (leaves.skipAnnotations_cons notes)
  rintro skips _ rfl
  refine .ok ?_
  rw [List.any_append, List.any_append]
  exact (staysTrue_any_cons _ skip skips).or_left _

/-- What becomes of the field does not go down. -/
theorem inclusion_le (leaves : skip.IsSkip) {model : Model} {composite : Composite}
    {message : Value} {before after : Inclusion}
    (decided : (field.withAnnotations notes).inclusion model composite message = .ok before)
    (decidedAfter :
      (field.withAnnotations (skip :: notes)).inclusion model composite message = .ok after) :
    before ≤ after := by
  rw [DeclaredField.inclusion_eq] at decided decidedAfter
  rw [leaves.isForeign_cons] at decidedAfter
  rcases bind_eq_ok_iff.mp decided with ⟨foreign, own, rest⟩
  rw [own, ok_bind] at decidedAfter
  cases foreign with
  | true =>
      cases rest
      cases decidedAfter
      exact Inclusion.le_refl .drop
  | false =>
      exact Inclusion.le_of_ofAnswers (leaves.isLeftOut_cons message)
        (leaves.asksReservation_cons message) rest decidedAfter

/-- It can be decided as it could before, if the message can tell what it reserves. -/
theorem succeeds_inclusion_cons (leaves : skip.IsSkip) {model : Model} {composite : Composite}
    {message : Value} (reserves : (composite.reservesAll message).Succeeds)
    (decided : ((field.withAnnotations notes).inclusion model composite message).Succeeds) :
    ((field.withAnnotations (skip :: notes)).inclusion model composite message).Succeeds := by
  rcases decided with ⟨before, found⟩
  rcases bind_eq_ok_iff.mp found with ⟨foreign, own, rest⟩
  rw [DeclaredField.inclusion_eq, leaves.isForeign_cons, own, ok_bind]
  cases foreign with
  | true => exact succeeds_ok _
  | false =>
      rcases bind_eq_ok_iff.mp rest with ⟨out, left, -⟩
      have leftAfter : ((field.withAnnotations (skip :: notes)).isLeftOut message).Succeeds :=
        (leaves.isLeftOut_cons message).succeeds ⟨out, left⟩
      exact Inclusion.succeeds_ofAnswers leftAfter
        (DeclaredField.succeeds_asksReservation_of_isLeftOut leftAfter) reserves

end Annotation.IsSkip

/-- What becomes of a field does not depend on the order of its annotations, and does not go down
when an annotation that may leave it out is added among them. -/
theorem DeclaredField.inclusion_order_skip (field : DeclaredField) (model : Model)
    (composite : Composite) (message : Value) :
    (∀ notes, notes.Perm field.annotations →
      (field.withAnnotations notes).inclusion model composite message =
        field.inclusion model composite message) ∧
      ∀ skip notes before, skip.IsSkip → notes.Perm (skip :: field.annotations) →
        field.inclusion model composite message = .ok before →
        (∀ after, (field.withAnnotations notes).inclusion model composite message = .ok after →
          before ≤ after) ∧
        ((composite.reservesAll message).Succeeds →
          ((field.withAnnotations notes).inclusion model composite message).Succeeds) := by
  refine ⟨fun notes order => inclusion_perm order model composite message, ?_⟩
  intro skip notes before leaves order decided
  -- In which place the annotation is added does not matter, so it may come first.
  have first : (field.withAnnotations notes).inclusion model composite message =
      (field.withAnnotations (skip :: field.annotations)).inclusion model composite message :=
    inclusion_perm order model composite message
  rw [first]
  exact ⟨fun after decidedAfter => leaves.inclusion_le decided decidedAfter,
    fun reserves => leaves.succeeds_inclusion_cons reserves ⟨before, decided⟩⟩

/-- A field of its own number that is included in one message. -/
def loginField : DeclaredField :=
  { name := .text "Login", type := .named "string" ""
    annotations :=
      [{ name := .text "field", params := [("number", .text "3")] },
        { name := .text "include", params := [("for", .text "Profile")] }] }

/-- An annotation that leaves a field out and reserves its number. -/
def hiddenNote : Annotation :=
  { name := .text "proto.ignore", params := [("reserved", .bool true)] }

/-- The message keeps the field, also with its annotations the other way round; with the further
annotation in the midst of them it does not. -/
theorem inclusion_order_skip_loginField :
    loginField.annotations.reverse.Perm loginField.annotations ∧ hiddenNote.IsSkip ∧
      (loginField.annotations.insertIdx 1 hiddenNote).Perm
        (hiddenNote :: loginField.annotations) ∧
      loginField.inclusion {} { name := .text "Profile" } (.text "Profile") = .ok .keep ∧
      (Composite.reservesAll { name := .text "Profile" } (.text "Profile")).Succeeds ∧
      (loginField.withAnnotations loginField.annotations.reverse).inclusion {}
        { name := .text "Profile" } (.text "Profile") = .ok .keep ∧
      ∃ after, (loginField.withAnnotations
          (loginField.annotations.insertIdx 1 hiddenNote)).inclusion {}
        { name := .text "Profile" } (.text "Profile") = .ok after ∧ .keep ≤ after := by
  rcases loginField.inclusion_order_skip {} { name := .text "Profile" } (.text "Profile") with
    ⟨reordered, added⟩
  have turned : loginField.annotations.reverse.Perm loginField.annotations :=
    List.reverse_perm _
  have inserted : (loginField.annotations.insertIdx 1 hiddenNote).Perm
      (hiddenNote :: loginField.annotations) := .swap _ _ _
  have leaves : hiddenNote.IsSkip := by decide +kernel
  have kept : loginField.inclusion {} { name := .text "Profile" } (.text "Profile") =
      .ok .keep := by
    decide +kernel
  have reserves : (Composite.reservesAll { name := .text "Profile" } (.text "Profile")).Succeeds :=
    succeeds_ok false
  rcases added hiddenNote _ .keep leaves inserted kept with ⟨atLeast, decided⟩
  rcases decided reserves with ⟨after, found⟩
  exact ⟨turned, leaves, inserted, kept, reserves, (reordered _ turned).trans kept, after, found,
    atLeast after found⟩

end WireSchema
