import Mathlib.Data.List.Sort
import WireSchema.Proofs.Schema.Shapes

namespace WireSchema

/-!
# Maps that cannot be written

A map with a key type that the schema does not admit is never written.  A message that keeps it
skips it in the numbering, and so does one that drops it; deleted from its type, it is not missed.

The case apart is a map that the message drops with its number reserved.  There the shape of the
field is not asked for: like every retired field it reserves its own number, or else the next
automatic one. With a number of its own it still has no part in the numbers of other fields, and
with it goes just the reservation of that number.  Without one it takes an automatic number, which
the fields behind it would get if it were deleted.
-/

open Asked

namespace DeclaredField

/-- Whether a field is a map with a key type that the schema does not admit; not
if the shape cannot be asked, where planning fails as well. -/
def isUnsupported (table : TypeTable) (field : DeclaredField) : Bool :=
  match field.shape table with
  | .ok shape => shape == .unsupported
  | .error _ => false

/-- A field that a message drops with its number reserved, and the number that its annotations or
its tag give to it there. -/
structure IsRetiredWith (model : Model) (composite : Composite) (message : Value)
    (field : DeclaredField) (own? : Option Int) : Prop where
  included : field.inclusion model composite message = .ok .dropAndReserve
  own : (do (← field.forMessage message).explicitNumber? model) = .ok own?

instance (model : Model) (composite : Composite) (message : Value) (field : DeclaredField)
    (own? : Option Int) : Decidable (field.IsRetiredWith model composite message own?) :=
  decidable_of_iff
    (field.inclusion model composite message = .ok .dropAndReserve ∧
      (do (← field.forMessage message).explicitNumber? model) = .ok own?)
    ⟨fun both => ⟨both.1, both.2⟩, fun retired => ⟨retired.included, retired.own⟩⟩

variable {table : TypeTable} {field seen : DeclaredField} {message : Value}

theorem isUnsupported_iff :
    field.isUnsupported table = true ↔ field.shape table = .ok .unsupported := by
  unfold isUnsupported
  cases field.shape table <;> simp

/-- Every message sees such a map as one: which `field` annotations it sees has no part in that. -/
theorem shape_of_isUnsupported (unsupported : field.isUnsupported table = true)
    (view : field.forMessage message = .ok seen) : seen.shape table = .ok .unsupported := by
  have shaped := isUnsupported_iff.mp unsupported
  rw [forMessage_eq] at view
  split at view
  · cases view
    cases hasShape_of_shape shaped with
    | unsupported bare declared keyed refused =>
        rw [shape, ← withAnnotations, annotatedMap?_filter (isSeenBy message) bare, ok_bind]
        rw [shape, bare, ok_bind] at shaped
        simp only [declaredShape, withAnnotations, declared] at shaped ⊢
        exact shaped
  · cases view

end DeclaredField

/-! ## One step -/

/-- What becomes of a field that the other fields do not feel: it is not written, and takes no
automatic number. -/
structure FieldOutcome.IsPassive (outcome : FieldOutcome) : Prop where
  unwritten : outcome.planned? = none
  unnumbered : ∀ numbered ∈ outcome.retired?, numbered.isExplicit = true

theorem FieldOutcome.IsPassive.nextNumber {outcome : FieldOutcome} (passive : outcome.IsPassive)
    (next : Int) : outcome.nextNumber next = next := by
  cases outcome with
  | dropped => rfl
  | unsupported _ => rfl
  | planned _ => cases passive.unwritten
  | retired numbered =>
      have explicit := passive.unnumbered numbered rfl
      simp only [FieldOutcome.nextNumber, FieldOutcome.number?, explicit]

/-- The numbers that outcomes reserve. -/
theorem FieldOutcome.mem_retired_cons {outcome : FieldOutcome} {others : List FieldOutcome}
    {number : Int} :
    number ∈ ((outcome :: others).filterMap retired?).map (·.number) ↔
      outcome.retired?.map (·.number) = some number ∨
        number ∈ (others.filterMap retired?).map (·.number) := by
  cases outcome <;> simp [retired?, eq_comm]

namespace SchemaContext

variable {context : SchemaContext} {composite : Composite} {message : Value} {next : Int}

/-- The step at a map that cannot be written.  Kept or dropped, it is passed over.  Retired with a
number of its own, it reserves that number, and the counter stands where it stood. -/
theorem resolveField_of_isUnsupported {field : DeclaredField} {outcome : FieldOutcome}
    (unsupported : field.isUnsupported context.types = true)
    (numbered : ¬field.IsRetiredWith context.model composite message none)
    (resolved : context.resolveField composite message next field = .ok outcome) :
    outcome.IsPassive ∧ ∀ number, outcome.retired?.map (·.number) = some number ↔
      field.IsRetiredWith context.model composite message (some number) := by
  rcases bind_eq_ok_iff.mp resolved with ⟨inclusion, included, rest⟩
  cases inclusion with
  | drop =>
      cases rest
      refine ⟨⟨rfl, by rintro _ ⟨⟩⟩, fun number => ⟨by rintro ⟨⟩, fun retired => ?_⟩⟩
      cases included.symm.trans retired.included
  | keep =>
      rcases bind_eq_ok_iff.mp rest with ⟨seen, view, rest⟩
      rw [resolveDecided, DeclaredField.shape_of_isUnsupported unsupported view] at rest
      cases rest
      refine ⟨⟨rfl, by rintro _ ⟨⟩⟩, fun number => ⟨by rintro ⟨⟩, fun retired => ?_⟩⟩
      cases included.symm.trans retired.included
  | dropAndReserve =>
      rcases bind_eq_ok_iff.mp rest with ⟨seen, view, rest⟩
      rcases bind_eq_ok_iff.mp rest with ⟨shape, _, rest⟩
      rcases bind_eq_ok_iff.mp rest with ⟨found, own, final⟩
      cases final
      rcases numberField_eq_ok_iff.mp own with ⟨own?, stated, rfl⟩
      have read : (do (← field.forMessage message).explicitNumber? context.model) = .ok own? := by
        rw [view]
        exact stated
      cases own? with
      | none => exact absurd ⟨included, read⟩ numbered
      | some number =>
          refine ⟨⟨rfl, by rintro _ ⟨⟩; rfl⟩, fun other => ⟨?_, fun retired => ?_⟩⟩
          · rintro ⟨⟩
            exact ⟨included, read⟩
          · cases read.symm.trans retired.own
            rfl

/-! ## The whole run -/

/-- A run over fields some of which are such maps, and the run without them.  The induction carries
that both stand at the same counter, which the step at such a map leaves alone. -/
theorem resolveFields_filter {keep : DeclaredField → Bool} {fields : List DeclaredField}
    {outcomes : List FieldOutcome}
    (deleted : ∀ field ∈ fields, keep field = false → field.isUnsupported context.types = true ∧
      ¬field.IsRetiredWith context.model composite message none)
    (run : context.resolveFields composite message next fields = .ok outcomes) :
    ∃ left, context.resolveFields composite message next (fields.filter keep) = .ok left ∧
      left.filterMap FieldOutcome.planned? = outcomes.filterMap FieldOutcome.planned? ∧
      ∀ number, number ∈ (outcomes.filterMap FieldOutcome.retired?).map (·.number) ↔
        number ∈ (left.filterMap FieldOutcome.retired?).map (·.number) ∨
        ∃ field ∈ fields, keep field = false ∧
          field.IsRetiredWith context.model composite message (some number) := by
  induction fields generalizing next outcomes with
  | nil =>
      cases run
      exact ⟨[], rfl, rfl, by simp⟩
  | cons field fields ih =>
      rcases resolveFields_cons_eq_ok_iff.mp run with ⟨outcome, others, first, rest, rfl⟩
      have deletedLater := fun other member => deleted other (List.mem_cons_of_mem field member)
      rcases ih deletedLater rest with ⟨left, ran, sameFields, reserved⟩
      by_cases kept : keep field = true
      · refine ⟨outcome :: left, ?_, ?_, fun number => ?_⟩
        · rw [List.filter_cons_of_pos kept]
          exact resolveFields_cons_eq_ok_iff.mpr ⟨outcome, left, first, ran, rfl⟩
        · rw [List.filterMap_cons, List.filterMap_cons, sameFields]
        · have mine : ¬(keep field = false ∧
              field.IsRetiredWith context.model composite message (some number)) := by
            simp [kept]
          simp only [FieldOutcome.mem_retired_cons, reserved, List.mem_cons, exists_eq_or_imp, mine,
            false_or, or_assoc]
      · have removed := Bool.eq_false_iff.mpr kept
        rcases deleted field List.mem_cons_self removed with ⟨unsupported, numbered⟩
        rcases resolveField_of_isUnsupported unsupported numbered first with ⟨passive, retired⟩
        rw [passive.nextNumber] at ran
        refine ⟨left, ?_, ?_, fun number => ?_⟩
        · rw [List.filter_cons_of_neg kept]
          exact ran
        · rw [List.filterMap_cons_none passive.unwritten, sameFields]
        · simp only [FieldOutcome.mem_retired_cons, reserved, retired, List.mem_cons,
            exists_eq_or_imp, removed, true_and]
          tauto

/-- Deleting maps that cannot be written.  When a message retires none of those that are deleted
from its type without a number of its own, it keeps all its fields as they are, with their numbers.
Its reserved numbers lose at most the own numbers of the deleted fields that it retires, and when it
retires none of them they stay as they are. -/
theorem plan_withoutUnsupportedMaps {model changed : Model} {options : Options}
    {before : MessagePlan} {keep : DeclaredField → Bool} (ordinary : composite.target? = none)
    (redeclared : model.Redeclares composite
      (composite.withFields (composite.fields.filter keep)) changed)
    (deleted : ∀ field ∈ composite.fields, keep field = false →
      field.isUnsupported (SchemaContext.of model options).types = true ∧
        ¬field.IsRetiredWith model composite message none)
    (planned : (SchemaContext.of model options).plan composite message = .ok before) :
    ∃ after, (SchemaContext.of changed options).plan
        (composite.withFields (composite.fields.filter keep)) message = .ok after ∧
      after.fields = before.fields ∧
      (∀ number, number ∈ before.reservedNumbers ↔ number ∈ after.reservedNumbers ∨
        ∃ field ∈ composite.fields, keep field = false ∧
          field.IsRetiredWith model composite message (some number)) ∧
      ((∀ field ∈ composite.fields, keep field = false →
          field.inclusion model composite message ≠ .ok .dropAndReserve) →
        after.reservedNumbers = before.reservedNumbers) := by
  rcases plan_eq_ok_iff.mp planned with ⟨statements, outcomes, stated, decided, rfl⟩
  rcases outcomes_eq_ok_iff.mp decided with ⟨fields, resolved, run⟩
  cases (Model.resolvedFields_of_target?_eq_none model ordinary).symm.trans resolved
  rcases resolveFields_filter deleted run with ⟨left, ran, sameFields, retired⟩
  rw [← resolveFields_of_redeclares redeclared ordinary options] at ran
  have resolvedAfter : changed.resolvedFields
      (composite.withFields (composite.fields.filter keep)) = .ok (composite.fields.filter keep) :=
    Model.resolvedFields_of_target?_eq_none changed ordinary
  have decidedAfter := outcomes_eq_ok_iff.mpr ⟨_, resolvedAfter, ran⟩
  have plannedAfter : (SchemaContext.of changed options).plan
      (composite.withFields (composite.fields.filter keep)) message = .ok _ :=
    plan_eq_ok_iff.mpr ⟨statements, left, stated, decidedAfter, rfl⟩
  have reserved : ∀ number,
      number ∈ (MessagePlan.ofOutcomes composite message statements outcomes).reservedNumbers ↔
        number ∈ (MessagePlan.ofOutcomes (composite.withFields (composite.fields.filter keep))
          message statements left).reservedNumbers ∨
        ∃ field ∈ composite.fields, keep field = false ∧
          field.IsRetiredWith model composite message (some number) := by
    intro number
    simp only [MessagePlan.reservedNumbers, MessagePlan.ofOutcomes, mem_increasing,
      List.mem_append, or_assoc]
    exact or_congr_right (retired number)
  refine ⟨_, plannedAfter, sameFields, reserved, fun unretired => ?_⟩
  refine List.Pairwise.eq_of_mem_iff (isIncreasing_increasing _) (isIncreasing_increasing _) ?_
  intro number
  refine (reserved number).trans (or_iff_left ?_) |>.symm
  rintro ⟨field, member, removed, lost⟩
  exact unretired field member removed lost.included

/-- A type with maps that cannot be written: one is kept, one dropped, and one retired with a number
of its own.  Another field is retired with an automatic number. -/
def ratedType : Composite where
  name := .text "User"
  fields :=
    [{ name := .text "Id", type := .named "int64" "" },
      { name := .text "Ratings", type := .mapping (.named "float64" "") (.named "string" "") },
      { name := .text "Secret", type := .named "string" ""
        annotations := [{ name := .text "ignore", params := [("reserved", .bool true)] }] },
      { name := .text "Weights", type := .mapping (.named "float64" "") (.named "string" "")
        annotations := [{ name := .text "ignore" }] },
      { name := .text "Old", type := .mapping (.named "float64" "") (.named "string" "")
        annotations :=
          [{ name := .text "field", params := [("number", .text "9")] },
            { name := .text "skip", params := [("reserved", .bool true)] }] },
      { name := .text "Name", type := .named "string" "" }]

/-- Whether a field is none of the maps of this type. -/
def isNoRatedMap (field : DeclaredField) : Bool :=
  ["Ratings", "Weights", "Old"].all fun name => field.name != .text name

theorem plan_withoutUnsupportedMaps_ratedType :
    ∃ before after edited, edited = ratedType.withFields (ratedType.fields.filter isNoRatedMap) ∧
      (SchemaContext.of { composites := [ratedType] } {}).plan ratedType (.text "User") =
        .ok before ∧
      (SchemaContext.of { composites := [edited] } {}).plan edited (.text "User") = .ok after ∧
      before.fields.map (·.number) = [1, 3] ∧ after.fields = before.fields ∧
      before.reservedNumbers = [2, 9] ∧
      ∀ number, number ∈ [2, 9] ↔ number ∈ after.reservedNumbers ∨
        ∃ field ∈ ratedType.fields, isNoRatedMap field = false ∧
          field.IsRetiredWith { composites := [ratedType] } ratedType (.text "User")
            (some number) := by
  have evaluated : ((SchemaContext.of { composites := [ratedType] } {}).plan ratedType
      (.text "User")).toOption.map
        (fun plan => (plan.fields.map (·.number), plan.reservedNumbers)) =
        some ([1, 3], [2, 9]) := by
    decide +kernel
  rcases exists_of_toOption_map evaluated with ⟨before, planned, parts⟩
  rcases Prod.mk.inj parts with ⟨numbers, reservedBefore⟩
  have redeclared : Model.Redeclares ratedType
      (ratedType.withFields (ratedType.fields.filter isNoRatedMap)) { composites := [ratedType] }
      { composites := [ratedType.withFields (ratedType.fields.filter isNoRatedMap)] } :=
    ⟨.cons (.inr ⟨rfl, rfl⟩) .nil, rfl⟩
  rcases plan_withoutUnsupportedMaps rfl redeclared (by decide +kernel) planned with
    ⟨after, plannedAfter, fields, reserved, -⟩
  rw [reservedBefore] at reserved
  exact ⟨before, after, _, rfl, planned, plannedAfter, numbers, fields, reservedBefore, reserved⟩

/-! ## The case apart -/

/-- A type without the maps among its fields that cannot be written.  For maps
that are kept, planning it gives the same numbers; one that is dropped and
reserved has a number of its own. -/
def withoutUnsupported (table : TypeTable) (composite : Composite) : Composite :=
  composite.withFields (composite.fields.filter fun field => !field.isUnsupported table)

/-- The numbers of the fields of a type in its message, and those that are reserved there. -/
def numbersOf (composite : Composite) : Option (List Int × List Int) :=
  ((SchemaContext.of { composites := [composite] } {}).plan composite composite.name).toOption.map
    fun plan => (plan.fields.map (·.number), plan.reservedNumbers)

/-- A type whose first field is a map that cannot be written. -/
def scoredType (notes : List Annotation) : Composite where
  name := .text "User"
  fields :=
    [{ name := .text "Scores", type := .mapping (.named "float64" "") (.named "string" "")
       annotations := notes },
      { name := .text "Name", type := .named "string" "" }]

/-- A retired map takes part in the numbering although it can never be written: without a number of
its own it moves the field behind it, and with one it reserves this one. -/
theorem numbersOf_scoredType :
    let ignored : Annotation := { name := .text "ignore", params := [("reserved", .bool true)] }
    let numbered : Annotation := { name := .text "field", params := [("number", .text "7")] }
    let table := (SchemaContext.of {} {}).types
    numbersOf (scoredType [ignored]) = some ([2], [1]) ∧
      numbersOf (withoutUnsupported table (scoredType [ignored])) = some ([1], []) ∧
      numbersOf (scoredType [ignored, numbered]) = some ([1], [7]) ∧
      numbersOf (withoutUnsupported table (scoredType [ignored, numbered])) = some ([1], []) := by
  decide +kernel

end SchemaContext

end WireSchema
