import Mathlib.Data.List.Nodup
import WireSchema.Document.Fault

namespace WireSchema.Value

/-!
# Texts in order

Values are put in order when all of them are of one kind.  Texts always are, so a collection of
texts has one strictly increasing list of its members, and this is what remains once repetitions are
left out and the rest is sorted.
-/

theorem contains_map_text (texts : List String) (content : String) :
    (texts.map text).contains (text content) = texts.contains content := by
  induction texts with
  | nil => rfl
  | cons first texts ih => rw [List.map_cons, List.contains_cons, List.contains_cons, ih,
      text_beq_text]

/-- Distinct texts are the given ones, each once. -/
theorem exists_distinct_map_text (texts : List String) :
    ∃ kept : List String, distinct (texts.map text) = kept.map text ∧ kept.Nodup ∧
      ∀ content, content ∈ kept ↔ content ∈ texts := by
  have fold : ∀ start : List String, start.Nodup → ∃ kept : List String,
      (texts.map text).foldl
        (fun kept value => if kept.contains value then kept else kept ++ [value])
        (start.map text) = kept.map text ∧ kept.Nodup ∧
      ∀ content, content ∈ kept ↔ content ∈ start ∨ content ∈ texts := by
    induction texts with
    | nil =>
        intro start unique
        refine ⟨start, rfl, unique, fun content => ?_⟩
        simp only [List.not_mem_nil, or_false]
    | cons first texts ih =>
        intro start unique
        rw [List.map_cons, List.foldl_cons, contains_map_text]
        by_cases known : first ∈ start
        · rw [if_pos (List.contains_iff_mem.mpr known)]
          rcases ih start unique with ⟨kept, same, distinct, members⟩
          refine ⟨kept, same, distinct, fun content => ?_⟩
          rw [members, List.mem_cons]
          constructor
          · exact fun either => either.imp_right Or.inr
          · rintro (old | rfl | later)
            · exact Or.inl old
            · exact Or.inl known
            · exact Or.inr later
        · have more : (start ++ [first]).Nodup := List.concat_eq_append ▸ unique.concat known
          have step : start.map text ++ [text first] = (start ++ [first]).map text := by
            rw [List.map_append, List.map_singleton]
          rw [if_neg (fun found => known (List.contains_iff_mem.mp found)), step]
          rcases ih (start ++ [first]) more with ⟨kept, same, distinct, members⟩
          refine ⟨kept, same, distinct, fun content => ?_⟩
          rw [members, List.mem_append, List.mem_singleton, List.mem_cons, or_assoc]
  rcases fold [] List.nodup_nil with ⟨kept, same, distinct, members⟩
  refine ⟨kept, same, distinct, fun content => ?_⟩
  rw [members, or_iff_right List.not_mem_nil]

theorem inOrder_map_text (texts : List String) :
    inOrder (texts.map text) = .ok ((texts.mergeSort fun first second =>
      decide (first ≤ second)).map text) := by
  match texts with
  | [] => simp only [List.map_nil, inOrder, List.mergeSort_nil]
  | [one] => simp only [List.map_cons, List.map_nil, inOrder, List.mergeSort_singleton]
  | first :: second :: others =>
      have all : ((second :: others).map text).all
          (fun other => other.orderKind? == some .texts) = true := by
        rw [List.all_map]
        exact List.all_eq_true.mpr fun _ _ => rfl
      have sorted := List.map_mergeSort (f := text) (l := first :: second :: others)
        (r := fun first second => decide (first ≤ second)) (s := notAfter) fun _ _ _ _ => rfl
      rw [sorted]
      have own : (text first).orderKind? = some .texts := rfl
      simp only [List.map_cons] at all ⊢
      simp only [inOrder, own, all, if_true]

/-- Items that are sorted by a text of theirs stand in the order of these texts. -/
theorem pairwise_mergeSort_le {α : Type} (name : α → String) (items : List α) :
    (items.mergeSort fun first second => decide (name first ≤ name second)).Pairwise
      fun first second => name first ≤ name second := by
  have trans : ∀ a b c : α, decide (name a ≤ name b) = true → decide (name b ≤ name c) = true →
      decide (name a ≤ name c) = true := fun a b c first second =>
    decide_eq_true (String.le_trans (of_decide_eq_true first) (of_decide_eq_true second))
  have total : ∀ a b : α, (decide (name a ≤ name b) || decide (name b ≤ name a)) = true :=
    fun a b => by
      rw [Bool.or_eq_true, decide_eq_true_eq, decide_eq_true_eq]
      exact String.le_total (name a) (name b)
  exact (List.pairwise_mergeSort trans total items).imp of_decide_eq_true

/-- Texts none of which is repeated have one strictly increasing list. -/
theorem exists_inOrder_of_nodup {texts : List String} (unique : texts.Nodup) :
    ∃ sorted : List String, inOrder (texts.map text) = .ok (sorted.map text) ∧
      sorted.Pairwise (· < ·) ∧ ∀ content, content ∈ sorted ↔ content ∈ texts := by
  refine ⟨_, inOrder_map_text texts, ?_, fun content => List.mem_mergeSort⟩
  have apart := (List.mergeSort_perm texts fun a b => decide (a ≤ b)).nodup_iff.mpr unique
  refine ((pairwise_mergeSort_le id texts).and apart).imp fun {first second} both => ?_
  rcases both with ⟨notLater, different⟩
  exact String.not_le.mp fun back => different (String.le_antisymm notLater back)

/-- Texts of which repetitions are left out have one strictly increasing list. -/
theorem exists_inOrder_distinct (texts : List String) :
    ∃ sorted : List String, inOrder (distinct (texts.map text)) = .ok (sorted.map text) ∧
      sorted.Pairwise (· < ·) ∧ ∀ content, content ∈ sorted ↔ content ∈ texts := by
  rcases exists_distinct_map_text texts with ⟨kept, same, unique, members⟩
  rcases exists_inOrder_of_nodup unique with ⟨sorted, ordered, increasing, again⟩
  exact ⟨sorted, same ▸ ordered, increasing, fun content => (again content).trans (members content)⟩

/-- Values that have an order are the same ones in that order. -/
theorem mem_of_inOrder {values sorted : List Value} {value : Value}
    (ordered : inOrder values = .ok sorted) (member : value ∈ values) : value ∈ sorted := by
  cases values with
  | nil => cases member
  | cons first others =>
      cases others with
      | nil =>
          cases ordered
          exact member
      | cons second others =>
          rw [inOrder] at ordered
          split at ordered
          · cases ordered
          · split at ordered
            · cases ordered
              exact List.mem_mergeSort.mpr member
            · cases ordered
          · exact (absurd · (List.cons_ne_nil second others))

end WireSchema.Value
