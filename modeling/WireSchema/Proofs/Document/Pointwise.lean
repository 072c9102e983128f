import Mathlib.Data.List.Forall2

namespace WireSchema

/-!
# Lists that agree item by item

Two lists whose items are related one by one agree in everything that related items agree in.  The
lemmas here say so of the operations on lists that queries are made of; the lists themselves may
differ.
-/

variable {α β : Type} {relation : α → α → Prop} {items others : List α}

theorem isEmpty_of_forall₂ (related : List.Forall₂ relation items others) :
    others.isEmpty = items.isEmpty := by
  cases related <;> rfl

theorem any_of_forall₂ (test : α → Bool) (same : ∀ {a b}, relation a b → test b = test a)
    (related : List.Forall₂ relation items others) : others.any test = items.any test := by
  induction related with
  | nil => rfl
  | cons head _ ih => rw [List.any_cons, List.any_cons, same head, ih]

theorem all_of_forall₂ (test : α → Bool) (same : ∀ {a b}, relation a b → test b = test a)
    (related : List.Forall₂ relation items others) : others.all test = items.all test := by
  induction related with
  | nil => rfl
  | cons head _ ih => rw [List.all_cons, List.all_cons, same head, ih]

theorem findSome?_of_forall₂ (read : α → Option β)
    (same : ∀ {a b}, relation a b → read b = read a)
    (related : List.Forall₂ relation items others) :
    others.findSome? read = items.findSome? read := by
  induction related with
  | nil => rfl
  | cons head _ ih => rw [List.findSome?_cons, List.findSome?_cons, same head, ih]

theorem map_of_forall₂ (view : α → β) (same : ∀ {a b}, relation a b → view b = view a)
    (related : List.Forall₂ relation items others) : others.map view = items.map view := by
  induction related with
  | nil => rfl
  | cons head _ ih => rw [List.map_cons, List.map_cons, same head, ih]

theorem filterMap_of_forall₂ (read : α → Option β)
    (same : ∀ {a b}, relation a b → read b = read a)
    (related : List.Forall₂ relation items others) :
    others.filterMap read = items.filterMap read := by
  induction related with
  | nil => rfl
  | cons head _ ih => rw [List.filterMap_cons, List.filterMap_cons, same head, ih]

theorem flatMap_of_forall₂ (read : α → List β) (same : ∀ {a b}, relation a b → read b = read a)
    (related : List.Forall₂ relation items others) : others.flatMap read = items.flatMap read := by
  induction related with
  | nil => rfl
  | cons head _ ih => rw [List.flatMap_cons, List.flatMap_cons, same head, ih]

/-- A selection that every change falls out of is the same before and after. -/
theorem filter_eq_of_forall₂ (test : α → Bool)
    (same : ∀ {a b}, relation a b → b = a ∨ test a = false ∧ test b = false)
    (related : List.Forall₂ relation items others) : others.filter test = items.filter test := by
  induction related with
  | nil => rfl
  | cons head _ ih =>
      rcases same head with rfl | ⟨before, after⟩
      · rw [List.filter_cons, List.filter_cons, ih]
      · rw [List.filter_cons_of_neg (Bool.eq_false_iff.mp before),
          List.filter_cons_of_neg (Bool.eq_false_iff.mp after), ih]

/-- A selection by what the lists agree in has the same places in both. -/
theorem filter_of_forall₂ (test : α → Bool) (same : ∀ {a b}, relation a b → test b = test a)
    (related : List.Forall₂ relation items others) :
    List.Forall₂ (fun a b => relation a b ∧ test a = true) (items.filter test)
      (others.filter test) := by
  induction related with
  | nil => exact .nil
  | @cons a b _ _ head _ ih =>
      cases chosen : test a with
      | true =>
          rw [List.filter_cons_of_pos chosen, List.filter_cons_of_pos ((same head).trans chosen)]
          exact .cons ⟨head, chosen⟩ ih
      | false =>
          have passed : ¬test a = true := Bool.eq_false_iff.mp chosen
          rw [List.filter_cons_of_neg passed, List.filter_cons_of_neg (same head ▸ passed)]
          exact ih

theorem find?_of_forall₂ (test : α → Bool) (same : ∀ {a b}, relation a b → test b = test a)
    (related : List.Forall₂ relation items others) :
    Option.Rel relation (items.find? test) (others.find? test) := by
  induction related with
  | nil => exact .none
  | cons head _ ih =>
      rw [List.find?_cons, List.find?_cons, same head]
      split
      · exact .some head
      · exact ih

/-- Two lists that agree with a third one item by item agree with each other in what follows from
that. -/
theorem forall₂_of_common {γ δ ε : Type} {first : γ → δ → Prop} {second : γ → ε → Prop}
    {third : δ → ε → Prop} {items : List γ} {others : List δ} {further : List ε}
    (left : List.Forall₂ first items others) (right : List.Forall₂ second items further)
    (each : ∀ item other more, first item other → second item more → third other more) :
    List.Forall₂ third others further := by
  induction left generalizing further with
  | nil =>
      cases right
      exact .nil
  | cons head _ ih =>
      cases right with
      | cons own rest => exact .cons (each _ _ _ head own) (ih rest)

/-- A list agrees with its pairs as it does with their second parts. -/
theorem forall₂_zip {γ δ : Type} {first : γ → δ → Prop} {items : List γ} {others : List δ}
    (related : List.Forall₂ first items others) :
    List.Forall₂ (fun item pair => pair.1 = item ∧ first item pair.2) items (items.zip others) := by
  induction related with
  | nil => exact .nil
  | cons head _ ih => exact .cons ⟨rfl, head⟩ ih

/-! ## Partners -/

section Partners

variable {relation : α → β → Prop} {items : List α} {others : List β}

theorem exists_right_of_forall₂ {item : α} (related : List.Forall₂ relation items others)
    (member : item ∈ items) : ∃ other ∈ others, relation item other := by
  induction related with
  | nil => cases member
  | cons head _ ih =>
      rcases List.mem_cons.mp member with rfl | later
      · exact ⟨_, List.mem_cons_self, head⟩
      · rcases ih later with ⟨other, among, same⟩
        exact ⟨other, List.mem_cons_of_mem _ among, same⟩

theorem exists_left_of_forall₂ {other : β} (related : List.Forall₂ relation items others)
    (member : other ∈ others) : ∃ item ∈ items, relation item other :=
  exists_right_of_forall₂ related.flip member

/-- A relation between the items of two lists may be replaced by what follows from it there. -/
theorem forall₂_of_mem {other : α → β → Prop} (related : List.Forall₂ relation items others)
    (each : ∀ a ∈ items, ∀ b ∈ others, relation a b → other a b) :
    List.Forall₂ other items others := by
  induction related with
  | nil => exact .nil
  | cons head _ ih =>
      refine .cons (each _ List.mem_cons_self _ List.mem_cons_self head)
        (ih fun a first b second => ?_)
      exact each a (List.mem_cons_of_mem _ first) b (List.mem_cons_of_mem _ second)

end Partners

end WireSchema
