import WireSchema.Proofs.Schema.Origin

namespace WireSchema

/-!
# When a field has which shape

The shape of a field is decided by its annotated key and value types, its declared type and its
flags, in this order.  `HasShape` lists the ways to each shape together with everything that has
been asked on the way.  Only the outermost constructor of a declared type is looked at: what stands
inside a pointer or a sequence, or behind the key of a map, has no part in the shape.
-/

open Asked

namespace TypeExpr

/-- A type that is not written as a map.  A map under a pointer or in a sequence
counts as such a type, since only the outermost type is looked at. -/
def IsUnmapped (type : TypeExpr) : Prop :=
  ∀ key value, type ≠ .mapping key value

end TypeExpr

namespace DeclaredField

variable {table : TypeTable} {field : DeclaredField} {shape : FieldShape}

theorem isOneOf_eq_ok_iff {names : List String} {type : Value} {answer : Bool} :
    isOneOf names type = .ok answer ↔
      type.isKey = true ∧ names.any (fun name => Value.text name == type) = answer := by
  rw [isOneOf, Value.askKey]
  cases type.isKey <;> simp

/-- The shape of a field with what decides it.  The cases exclude each other in
the order of the checks: an annotation first, then a map by its declared type,
then flags and pointers. -/
inductive HasShape (table : TypeTable) (field : DeclaredField) : FieldShape → Prop where
  /-- A map by annotation, whatever its declared type. -/
  | stated {key value : String} (annotated : field.annotatedMap? = .ok (some (key, value))) :
      HasShape table field .map
  /-- A map by its declared type. -/
  | native {key value : TypeExpr} {name : String} (bare : field.annotatedMap? = .ok none)
      (declared : field.type = .mapping key value) (keyed : table.schemaType key = .ok (.text name))
      (admitted : name ∈ mapKeyTypes) : HasShape table field .map
  | unsupported {key value : TypeExpr} {type : Value} (bare : field.annotatedMap? = .ok none)
      (declared : field.type = .mapping key value) (keyed : table.schemaType key = .ok type)
      (refused : ∀ name ∈ mapKeyTypes, type ≠ .text name) : HasShape table field .unsupported
  | repeated {flagged : Bool} (bare : field.annotatedMap? = .ok none)
      (unmapped : field.type.IsUnmapped) (flag : field.hasFlag "repeated" = .ok flagged)
      (given : flagged = true ∨ field.type.isCollection = true) : HasShape table field .repeated
  | optional {flagged : Bool} (bare : field.annotatedMap? = .ok none)
      (unmapped : field.type.IsUnmapped) (unrepeated : field.hasFlag "repeated" = .ok false)
      (single : field.type.isCollection = false) (flag : field.hasFlag "optional" = .ok flagged)
      (given : flagged = true ∨ field.type.isPointer = true) : HasShape table field .optional
  | scalar (bare : field.annotatedMap? = .ok none) (unmapped : field.type.IsUnmapped)
      (unrepeated : field.hasFlag "repeated" = .ok false)
      (single : field.type.isCollection = false) (required : field.hasFlag "optional" = .ok false)
      (direct : field.type.isPointer = false) : HasShape table field .scalar

/-- The shape of a field that is no map by annotation, of a declared type that is a map. -/
theorem hasShape_of_mapping {key value : TypeExpr} (bare : field.annotatedMap? = .ok none)
    (declared : field.type = .mapping key value)
    (shaped : field.declaredShape table = .ok shape) : field.HasShape table shape := by
  simp only [declaredShape, declared, bind_eq_ok_iff, isOneOf_eq_ok_iff] at shaped
  rcases shaped with ⟨type, keyed, answer, ⟨-, searched⟩, final⟩
  cases final
  cases answer with
  | true =>
      rcases List.any_eq_true.mp searched with ⟨name, admitted, same⟩
      rw [Value.text_beq_iff] at same
      exact .native bare declared (same ▸ keyed) admitted
  | false =>
      refine .unsupported bare declared keyed ?_
      rintro name admitted rfl
      exact List.any_eq_false.mp searched name admitted (Value.text_beq_iff.mpr rfl)

/-- The shape of a field that is no map by annotation, of a declared type that is no map. -/
theorem hasShape_of_isUnmapped (bare : field.annotatedMap? = .ok none)
    (unmapped : field.type.IsUnmapped) (shaped : field.declaredShape table = .ok shape) :
    field.HasShape table shape := by
  rw [declaredShape] at shaped
  split at shaped
  · rename_i key value declared
    exact absurd declared (unmapped key value)
  · rcases bind_eq_ok_iff.mp shaped with ⟨flagged, flag, rest⟩
    split at rest
    · rename_i given
      cases rest
      exact .repeated bare unmapped flag (Bool.or_eq_true_iff.mp given)
    · rename_i denied
      rcases Bool.or_eq_false_iff.mp (Bool.eq_false_iff.mpr denied) with ⟨rfl, single⟩
      rcases bind_eq_ok_iff.mp rest with ⟨flagged, further, rest⟩
      split at rest
      · rename_i given
        cases rest
        exact .optional bare unmapped flag single further (Bool.or_eq_true_iff.mp given)
      · rename_i denied
        rcases Bool.or_eq_false_iff.mp (Bool.eq_false_iff.mpr denied) with ⟨rfl, direct⟩
        cases rest
        exact .scalar bare unmapped flag single further direct

/-- Every field has its shape in one of the listed ways. -/
theorem hasShape_of_shape (shaped : field.shape table = .ok shape) :
    field.HasShape table shape := by
  rcases bind_eq_ok_iff.mp shaped with ⟨annotated?, annotated, rest⟩
  cases annotated? with
  | some types =>
      cases rest
      exact .stated annotated
  | none =>
      by_cases mapped : ∃ key value, field.type = .mapping key value
      · rcases mapped with ⟨key, value, declared⟩
        exact hasShape_of_mapping annotated declared rest
      · refine hasShape_of_isUnmapped annotated ?_ rest
        exact fun key value declared => mapped ⟨key, value, declared⟩

/-- A field that is written with a shape other than that of maps has a declared type that is no map,
and no annotation makes it one. -/
theorem HasShape.isUnmapped (shaped : field.HasShape table shape) (other : shape ≠ .map)
    (supported : shape ≠ .unsupported) :
    field.annotatedMap? = .ok none ∧ field.type.IsUnmapped := by
  cases shaped with
  | stated | native => exact absurd rfl other
  | unsupported => exact absurd rfl supported
  | repeated bare unmapped | optional bare unmapped | scalar bare unmapped =>
      exact ⟨bare, unmapped⟩

/-- A field that is neither repeated nor a map has a declared type that is no collection. -/
theorem HasShape.isCollection_eq_false (shaped : field.HasShape table shape) (other : shape ≠ .map)
    (unrepeated : shape ≠ .repeated) : field.type.isCollection = false := by
  cases shaped with
  | stated | native => exact absurd rfl other
  | repeated => exact absurd rfl unrepeated
  | unsupported bare declared =>
      rw [declared]
      rfl
  | optional bare unmapped flag single | scalar bare unmapped flag single => exact single

end DeclaredField

namespace SchemaContext

variable {context : SchemaContext} {composite : Composite} {message : Value} {plan : MessagePlan}
  {planned : PlannedField}

/-- A map with a key type that the schema does not admit has no place in a plan. -/
theorem shape_ne_unsupported_of_plan (made : context.plan composite message = .ok plan)
    (member : planned ∈ plan.fields) : planned.shape ≠ .unsupported := by
  intro unsupported
  rcases exists_resolveField_of_plan made member with ⟨fields, -, declared, -, next, resolved⟩
  have isFrom := isFrom_of_resolveField resolved
  have shaped := isFrom.shape
  rw [unsupported] at shaped
  simp only [resolveField, isFrom.kept, isFrom.seen, ok_bind, resolveDecided, shaped] at resolved
  cases resolved

end SchemaContext

end WireSchema
