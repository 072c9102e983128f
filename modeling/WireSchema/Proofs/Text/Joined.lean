import Mathlib

namespace WireSchema

/-!
# Texts put together from items

A text of several items with a separator between them is read back item by item, as long as no item
holds the mark at which the text is cut.  A text of which the first characters are of a class, and
the next one is not, is read back in two parts.
-/

namespace Text

/-- Two texts that begin with characters of a class and go on with something else are the same only
when both parts are. -/
theorem append_inj_of_class {kind : Char → Prop} {first other rest further : List Char}
    (inFirst : ∀ c ∈ first, kind c) (inOther : ∀ c ∈ other, kind c)
    (ends : ∀ c ∈ rest.head?, ¬ kind c) (endsOther : ∀ c ∈ further.head?, ¬ kind c)
    (same : first ++ rest = other ++ further) : first = other ∧ rest = further := by
  induction first generalizing other with
  | nil =>
      cases other with
      | nil => exact ⟨rfl, same⟩
      | cons c other =>
          rw [List.nil_append] at same
          exact absurd (inOther c List.mem_cons_self) (ends c (by rw [same]; rfl))
  | cons c first ih =>
      cases other with
      | nil =>
          rw [List.nil_append] at same
          exact absurd (inFirst c List.mem_cons_self) (endsOther c (by rw [← same]; rfl))
      | cons d other =>
          rw [List.cons_append, List.cons_append, List.cons.injEq] at same
          have parts := ih (fun c member => inFirst c (List.mem_cons_of_mem _ member))
            (fun c member => inOther c (List.mem_cons_of_mem _ member)) same.2
          exact ⟨by rw [same.1, parts.1], parts.2⟩

/-! ## Items of a list -/

theorem splitOn_intercalate_comma {item : String} {items : List String}
    (single : ∀ text ∈ item :: items, ',' ∉ text.toList) :
    (String.intercalate ", " (item :: items)).toList.splitOn ',' =
      item.toList :: items.map fun text => ' ' :: text.toList := by
  induction items generalizing item with
  | nil =>
      rw [String.intercalate_singleton, List.splitOn_eq_singleton (single item List.mem_cons_self)]
      rfl
  | cons second items ih =>
      have own : ',' ∉ item.toList := single item List.mem_cons_self
      have blank : ∀ text ∈ (" " ++ second) :: items, ',' ∉ text.toList := by
        intro text member
        rcases List.mem_cons.mp member with rfl | later
        · simpa [String.toList_append] using single second (by simp)
        · exact single text (by simp [later])
      have shifted : (String.intercalate ", " (item :: second :: items)).toList =
          item.toList ++ ',' :: (String.intercalate ", " ((" " ++ second) :: items)).toList := by
        cases items with
        | nil => simp [String.intercalate_cons_cons, String.toList_append]
        | cons third items => simp [String.intercalate_cons_cons, String.toList_append]
      rw [shifted, List.splitOn_append_cons_self_of_not_mem own, ih blank]
      simp [String.toList_append]

/-- Nonempty lists of items without commas are written in the same way only when they are the
same. -/
theorem eq_of_intercalate_comma_eq {items others : List String} (given : items ≠ [])
    (givenOthers : others ≠ []) (single : ∀ text ∈ items, ',' ∉ text.toList)
    (singleOthers : ∀ text ∈ others, ',' ∉ text.toList)
    (same : String.intercalate ", " items = String.intercalate ", " others) : items = others := by
  cases items with
  | nil => exact absurd rfl given
  | cons item items =>
      cases others with
      | nil => exact absurd rfl givenOthers
      | cons other others =>
          have read := congrArg (fun text => text.toList.splitOn ',') same
          simp only [splitOn_intercalate_comma single, splitOn_intercalate_comma singleOthers,
            List.cons.injEq, String.toList_inj] at read
          have blanked : Function.Injective fun text : String => ' ' :: text.toList := by
            intro text further equal
            exact String.toList_inj.mp (List.cons.inj equal).2
          rw [read.1, List.map_injective_iff.mpr blanked read.2]

/-- Nonempty lists of words without blanks are written in the same way only when they are the
same. -/
theorem eq_of_intercalate_blank_eq {words others : List String} (given : words ≠ [])
    (givenOthers : others ≠ []) (single : ∀ word ∈ words, ' ' ∉ word.toList)
    (singleOthers : ∀ word ∈ others, ' ' ∉ word.toList)
    (same : String.intercalate " " words = String.intercalate " " others) : words = others := by
  have read : ∀ {words : List String}, words ≠ [] → (∀ word ∈ words, ' ' ∉ word.toList) →
      (String.intercalate " " words).toList.splitOn ' ' = words.map String.toList := by
    intro words given single
    rw [String.toList_intercalate]
    exact List.splitOn_intercalate ' ' (by simpa using single) (by simpa using given)
  have lists := congrArg (fun text => text.toList.splitOn ' ') same
  simp only [read given single, read givenOthers singleOthers] at lists
  exact List.map_injective_iff.mpr (fun _ _ => String.toList_inj.mp) lists

theorem mem_of_mem_intercalate {separator : String} {items : List String} {c : Char}
    (inside : c ∈ (String.intercalate separator items).toList) :
    c ∈ separator.toList ∨ ∃ item ∈ items, c ∈ item.toList := by
  induction items with
  | nil => simp at inside
  | cons item items ih =>
      by_cases last : items = []
      · subst last
        exact Or.inr ⟨item, List.mem_cons_self, by simpa using inside⟩
      · rw [String.intercalate_cons_of_ne_nil last, String.toList_append, String.toList_append,
          List.mem_append, List.mem_append] at inside
        rcases inside with (own | between) | later
        · exact Or.inr ⟨item, List.mem_cons_self, own⟩
        · exact Or.inl between
        · rcases ih later with between | ⟨other, member, own⟩
          · exact Or.inl between
          · exact Or.inr ⟨other, List.mem_cons_of_mem item member, own⟩

/-- Items that are put together from lists of items are those of all lists. -/
theorem intercalate_flatMap {α : Type} {lists : List α} {items : α → List String}
    (given : ∀ list, items list ≠ []) (separator : String) :
    String.intercalate separator (lists.map fun list => String.intercalate separator (items list)) =
      String.intercalate separator (lists.flatMap items) := by
  induction lists with
  | nil => rfl
  | cons list lists ih =>
      cases lists with
      | nil => simp
      | cons second lists =>
          have rest : (second :: lists).flatMap items ≠ [] := by simp [given second]
          rw [List.map_cons, String.intercalate_cons_of_ne_nil (by simp), ih,
            ← String.intercalate_append_of_ne_nil (given list) rest, ← List.flatMap_cons]

end Text

/-! ## Lists that look the same -/

/-- Lists that look the same item by item look the same in every respect in which items do. -/
theorem map_eq_of_map_eq {α β γ δ : Type} {items : List α} {others : List β} {view : α → γ}
    {further : β → γ} {aspect : α → δ} {otherAspect : β → δ}
    (known : ∀ item ∈ items, ∀ other ∈ others, view item = further other →
      aspect item = otherAspect other)
    (same : items.map view = others.map further) : items.map aspect = others.map otherAspect := by
  induction items generalizing others with
  | nil => rw [List.map_eq_nil_iff.mp same.symm, List.map_nil, List.map_nil]
  | cons item items ih =>
      cases others with
      | nil => cases same
      | cons other others =>
          have parts := List.cons.inj same
          have head := known item List.mem_cons_self other List.mem_cons_self parts.1
          have rest := ih (fun later inside further among =>
            known later (List.mem_cons_of_mem _ inside) further (List.mem_cons_of_mem _ among))
            parts.2
          rw [List.map_cons, List.map_cons, head, rest]

/-- A selection that takes all of a first list and nothing of a second one. -/
theorem filter_append_eq_left {α : Type} {test : α → Bool} {items others : List α}
    (all : ∀ item ∈ items, test item = true) (none : ∀ item ∈ others, test item = false) :
    (items ++ others).filter test = items := by
  rw [List.filter_append, List.filter_eq_self.mpr all,
    List.filter_eq_nil_iff.mpr (by simpa using none), List.append_nil]

end WireSchema
