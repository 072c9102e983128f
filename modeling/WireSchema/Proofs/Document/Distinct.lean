import WireSchema.Document.Value

namespace WireSchema

/-!
# Values no two of which are the same

A scan for repeated names keeps those it has seen and compares each name with them.  What it decides
is stated here without the scan: `Distinct` says that no two values of a list are the same, and
`New` the same of a list that comes after another one.  The lemmas that take `New` apart follow the
scan.  Keys are compared alike in either order, and among texts, as among integers, to be the same
is to be equal.
-/

namespace Value

/-! ## Sameness -/

/-- Numbers are compared alike in either order. -/
theorem samePlace_comm (first second : Value) :
    (match first.numberPlace?, second.numberPlace? with
      | some place, some other => place == other
      | _, _ => false) =
    (match second.numberPlace?, first.numberPlace? with
      | some place, some other => place == other
      | _, _ => false) := by
  cases first.numberPlace? with
  | none => cases second.numberPlace? <;> rfl
  | some place =>
      cases second.numberPlace? with
      | none => rfl
      | some other => exact BEq.comm

theorem sameScalar_comm (first second : Value) :
    sameScalar first second = sameScalar second first := by
  have places := samePlace_comm first second
  cases first <;> cases second <;> first | rfl | exact BEq.comm | exact places

/-- A value that can be a key is compared alike in either order. -/
theorem beq_comm_of_isKey {first : Value} (key : first.isKey = true) (second : Value) :
    (first == second) = (second == first) := by
  have scalar : (first == second) = sameScalar first second := by
    cases first <;> first | rfl | cases key
  rw [scalar, sameScalar_comm]
  cases second with
  | list items => cases first <;> first | rfl | cases key
  | map members => cases first <;> first | rfl | cases key
  | _ => rfl

/-- Nothing but the text itself is the same as a text. -/
theorem beq_text_iff {value : Value} {content : String} :
    (value == text content) = true ↔ value = .text content := by
  cases value with
  | text other => rw [text_beq_text, beq_iff_eq, text.injEq]
  | null | bool _ | int _ | float _ | date _ | list _ | map _ =>
      constructor
      · intro alike
        simp [BEq.beq, same, sameScalar, numberPlace?] at alike
      · rintro ⟨⟩

theorem text_beq_iff {value : Value} {content : String} :
    (text content == value) = true ↔ value = .text content := by
  cases value with
  | text other => rw [text_beq_text, beq_iff_eq, text.injEq, eq_comm]
  | null | bool _ | int _ | float _ | date _ | list _ | map _ =>
      constructor
      · intro alike
        simp [BEq.beq, same, sameScalar, numberPlace?] at alike
      · rintro ⟨⟩

/-! ## Lists of values -/

/-- No two values are the same.  Values are compared by their own equality, under
which a truth value is the same as a number; it is coarser than equality of
terms. -/
def Distinct (values : List Value) : Prop :=
  values.Pairwise fun earlier later => (later == earlier) = false

/-- No two values are the same, and none is the same as one that was seen
before.  It is what a scan for repeated names decides after it has seen some of
them. -/
structure New (seen values : List Value) : Prop where
  unseen : ∀ value ∈ values, ∀ earlier ∈ seen, (value == earlier) = false
  distinct : Distinct values

theorem distinct_map_text (texts : List String) : Distinct (texts.map text) ↔ texts.Nodup := by
  rw [Distinct, List.pairwise_map, List.Nodup]
  simp only [text_beq_text, beq_eq_false_iff_ne, ne_comm]

/-- A text in a list of different values does not come again after it. -/
theorem notMem_of_distinct_append {before after : List Value} {content : String}
    (distinct : Distinct (before ++ .text content :: after)) : .text content ∉ after := by
  intro again
  have unlike := (List.pairwise_cons.mp (List.pairwise_append.mp distinct).2.1).1 _ again
  rw [text_beq_text, beq_self_eq_true] at unlike
  cases unlike

theorem new_nil (seen : List Value) : New seen [] where
  unseen := by rintro value ⟨⟩
  distinct := List.Pairwise.nil

theorem new_empty_iff {values : List Value} : New [] values ↔ Distinct values := by
  constructor
  · exact New.distinct
  · intro distinct
    exact ⟨by rintro value _ earlier ⟨⟩, distinct⟩

/-- Values come new in two parts: the second part after the first one, too. -/
theorem new_append_iff {seen values others : List Value} :
    New seen (values ++ others) ↔ New seen values ∧ New (seen ++ values) others := by
  constructor
  · rintro ⟨unseen, distinct⟩
    rcases List.pairwise_append.mp distinct with ⟨first, second, across⟩
    refine ⟨⟨fun value member => unseen value (List.mem_append_left others member), first⟩,
      ?_, second⟩
    intro value member earlier before
    rcases List.mem_append.mp before with old | recent
    · exact unseen value (List.mem_append_right values member) earlier old
    · exact across earlier recent value member
  · rintro ⟨⟨unseen, first⟩, ⟨later, second⟩⟩
    constructor
    · intro value member earlier before
      rcases List.mem_append.mp member with here | there
      · exact unseen value here earlier before
      · exact later value there earlier (List.mem_append_left values before)
    · refine List.pairwise_append.mpr ⟨first, second, ?_⟩
      intro earlier recent value member
      exact later value member earlier (List.mem_append_right seen recent)

theorem new_single_iff {seen : List Value} {value : Value} :
    New seen [value] ↔ seen.contains value = false := by
  rw [List.contains_eq_any_beq, List.any_eq_false]
  constructor
  · intro new earlier before
    exact Bool.eq_false_iff.mp (new.unseen value List.mem_cons_self earlier before)
  · intro unseen
    refine ⟨?_, List.pairwise_singleton _ _⟩
    intro other member earlier before
    rw [List.mem_singleton.mp member]
    exact Bool.eq_false_iff.mpr (unseen earlier before)

/-- One step of a scan. -/
theorem new_cons_iff {seen values : List Value} {value : Value} :
    New seen (value :: values) ↔ seen.contains value = false ∧ New (seen ++ [value]) values := by
  rw [← new_single_iff, ← new_append_iff, List.singleton_append]

end Value

end WireSchema
