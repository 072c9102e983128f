import Mathlib.Data.List.Induction
import Mathlib.Data.List.Nodup
import WireSchema.Proofs.Document.Distinct

namespace WireSchema

/-!
# Tables of pairs

A table is made by setting the values of keys one after the other.  Under a text it has the value
that was set last, and it keeps its pairs as they come as long as no two keys are the same.
-/

section Pairs

variable {κ α : Type} [BEq κ]

/-- What is found in a list of pairs is the value of one of them. -/
theorem exists_of_lookupKey? {key : κ} {pairs : List (κ × α)} {found : α}
    (result : lookupKey? key pairs = some found) : ∃ pair ∈ pairs, pair.2 = found := by
  rcases Option.map_eq_some_iff.mp result with ⟨pair, first, rfl⟩
  exact ⟨pair, List.mem_of_find?_eq_some first, rfl⟩

/-- What is found under a key stands there as a pair with the key. -/
theorem mem_of_lookupKey? [LawfulBEq κ] {key : κ} {pairs : List (κ × α)} {found : α}
    (result : lookupKey? key pairs = some found) : (key, found) ∈ pairs := by
  rcases Option.map_eq_some_iff.mp result with ⟨pair, first, rfl⟩
  have same := List.find?_some first
  rw [beq_iff_eq] at same
  rw [← same]
  exact List.mem_of_find?_eq_some first

theorem lookupKey?_append (key : κ) (pairs others : List (κ × α)) :
    lookupKey? key (pairs ++ others) = (lookupKey? key pairs).or (lookupKey? key others) := by
  rw [lookupKey?, List.find?_append, Option.map_or]
  rfl

theorem mem_setKey {key : κ} {value : α} {pairs : List (κ × α)} {pair : κ × α}
    (member : pair ∈ setKey key value pairs) : pair.2 = value ∨ pair ∈ pairs := by
  induction pairs with
  | nil =>
      rw [List.mem_singleton.mp member]
      exact Or.inl rfl
  | cons entry rest ih =>
      unfold setKey at member
      split at member
      · rcases List.mem_cons.mp member with rfl | later
        · exact Or.inl rfl
        · exact Or.inr (List.mem_cons_of_mem entry later)
      · rcases List.mem_cons.mp member with rfl | later
        · exact Or.inr List.mem_cons_self
        · exact (ih later).imp id (List.mem_cons_of_mem entry)

theorem setKeys_concat (pairs : List (κ × α)) (pair : κ × α) :
    setKeys (pairs ++ [pair]) = setKey pair.1 pair.2 (setKeys pairs) := by
  rw [setKeys, List.foldl_append]
  rfl

/-- A table has no values but those that were set. -/
theorem exists_mem_of_mem_setKeys {pairs : List (κ × α)} {pair : κ × α}
    (member : pair ∈ setKeys pairs) : ∃ other ∈ pairs, other.2 = pair.2 := by
  induction pairs using List.reverseRecOn with
  | nil => cases member
  | append_singleton pairs last ih =>
      rw [setKeys_concat] at member
      rcases mem_setKey member with same | earlier
      · exact ⟨last, List.mem_append_right pairs List.mem_cons_self, same.symm⟩
      · rcases ih earlier with ⟨other, among, same⟩
        exact ⟨other, List.mem_append_left _ among, same⟩

theorem setKey_of_forall_ne {key : κ} {pairs : List (κ × α)}
    (others : ∀ pair ∈ pairs, (pair.1 == key) = false) (value : α) :
    setKey key value pairs = pairs ++ [(key, value)] := by
  induction pairs with
  | nil => rfl
  | cons pair pairs ih =>
      rcases List.forall_mem_cons.mp others with ⟨first, rest⟩
      rw [setKey, if_neg (Bool.eq_false_iff.mp first), ih rest]
      rfl

/-- Pairs no two keys of which are the same are a table already. -/
theorem setKeys_eq_self {pairs : List (κ × α)}
    (distinct : pairs.Pairwise fun earlier later => (earlier.1 == later.1) = false) :
    setKeys pairs = pairs := by
  induction pairs using List.reverseRecOn with
  | nil => rfl
  | append_singleton pairs last ih =>
      rcases List.pairwise_append.mp distinct with ⟨before, -, across⟩
      rw [setKeys_concat, ih before]
      exact setKey_of_forall_ne (fun pair member =>
        across pair member last List.mem_cons_self) last.2

/-- Tables correspond when keys are compared alike. -/
theorem setKeys_map {ι β : Type} [BEq ι] (name : κ → ι) (view : α → β)
    (alike : ∀ first second, (name first == name second) = (first == second))
    (pairs : List (κ × α)) :
    setKeys (pairs.map fun pair => (name pair.1, view pair.2)) =
      (setKeys pairs).map fun pair => (name pair.1, view pair.2) := by
  have step : ∀ key value (table : List (κ × α)),
      setKey (name key) (view value) (table.map fun pair => (name pair.1, view pair.2)) =
        (setKey key value table).map fun pair => (name pair.1, view pair.2) := by
    intro key value table
    induction table with
    | nil => rfl
    | cons pair table ih =>
        simp only [List.map_cons, setKey, alike, ih]
        split <;> rfl
  induction pairs using List.reverseRecOn with
  | nil => rfl
  | append_singleton pairs last ih =>
      rw [List.map_append, List.map_singleton, setKeys_concat, setKeys_concat, ih]
      exact step last.1 last.2 _

end Pairs

/-! ## Which pairs a table has -/

section Keys

variable {κ α : Type} [BEq κ] [LawfulBEq κ] {key : κ} {value : α} {pairs : List (κ × α)}

theorem mem_keys_setKey {other : κ} :
    other ∈ (setKey key value pairs).map (·.1) ↔ other = key ∨ other ∈ pairs.map (·.1) := by
  induction pairs with
  | nil => simp [setKey]
  | cons pair pairs ih =>
      rw [setKey]
      split
      · rename_i same
        rw [beq_iff_eq] at same
        simp [same]
      · rw [List.map_cons, List.mem_cons, ih, List.map_cons, List.mem_cons]
        exact or_left_comm

theorem nodup_keys_setKey (distinct : (pairs.map (·.1)).Nodup) :
    ((setKey key value pairs).map (·.1)).Nodup := by
  induction pairs with
  | nil => exact List.pairwise_singleton _ key
  | cons pair pairs ih =>
      rcases List.nodup_cons.mp distinct with ⟨alone, rest⟩
      rw [setKey]
      split
      · exact distinct
      · rename_i different
        refine List.nodup_cons.mpr ⟨?_, ih rest⟩
        rw [mem_keys_setKey, not_or]
        exact ⟨fun same => different (beq_iff_eq.mpr same), alone⟩

theorem nodup_keys_setKeys (pairs : List (κ × α)) : ((setKeys pairs).map (·.1)).Nodup := by
  induction pairs using List.reverseRecOn with
  | nil => exact List.nodup_nil
  | append_singleton pairs last ih =>
      rw [setKeys_concat]
      exact nodup_keys_setKey ih

/-- Where no key appears twice, what is found under one is what stands beside it. -/
theorem lookupKey?_eq_some_iff (distinct : (pairs.map (·.1)).Nodup) :
    lookupKey? key pairs = some value ↔ (key, value) ∈ pairs := by
  refine ⟨mem_of_lookupKey?, fun member => ?_⟩
  have found : (lookupKey? key pairs).isSome = true := by
    rw [lookupKey?, Option.isSome_map, List.find?_isSome]
    exact ⟨(key, value), member, beq_self_eq_true key⟩
  rcases Option.isSome_iff_exists.mp found with ⟨other, first⟩
  cases List.inj_on_of_nodup_map distinct (mem_of_lookupKey? first) member rfl
  exact first

theorem mem_setKey_iff (distinct : (pairs.map (·.1)).Nodup) {pair : κ × α} :
    pair ∈ setKey key value pairs ↔ pair = (key, value) ∨ pair.1 ≠ key ∧ pair ∈ pairs := by
  induction pairs with
  | nil => simp [setKey]
  | cons first pairs ih =>
      rcases List.nodup_cons.mp distinct with ⟨alone, rest⟩
      rw [setKey]
      split
      · rename_i same
        rw [beq_iff_eq] at same
        -- The rest has no other pair with the key, as no two keys are the same.
        have others : pair ∈ pairs → pair.1 ≠ key := by
          rintro member rfl
          exact alone (List.mem_map.mpr ⟨pair, member, same.symm⟩)
        rw [List.mem_cons, List.mem_cons, same]
        constructor
        · rintro (rfl | later)
          · exact Or.inl rfl
          · exact Or.inr ⟨others later, Or.inr later⟩
        · rintro (rfl | ⟨other, rfl | later⟩)
          · exact Or.inl rfl
          · exact absurd same other
          · exact Or.inr later
      · rename_i different
        rw [beq_iff_eq] at different
        rw [List.mem_cons, ih rest, List.mem_cons]
        constructor
        · rintro (rfl | own | ⟨other, later⟩)
          · exact Or.inr ⟨different, Or.inl rfl⟩
          · exact Or.inl own
          · exact Or.inr ⟨other, Or.inr later⟩
        · rintro (own | ⟨other, rfl | later⟩)
          · exact Or.inr (Or.inl own)
          · exact Or.inl rfl
          · exact Or.inr (Or.inr ⟨other, later⟩)

/-- A table has the pairs behind which their key is not set again. -/
theorem mem_setKeys_iff {pair : κ × α} :
    pair ∈ setKeys pairs ↔
      ∃ before after, pairs = before ++ pair :: after ∧ pair.1 ∉ after.map (·.1) := by
  induction pairs using List.reverseRecOn with
  | nil => simp [setKeys]
  | append_singleton pairs last ih =>
      rw [setKeys_concat, mem_setKey_iff (nodup_keys_setKeys pairs), ih]
      constructor
      · rintro (rfl | ⟨other, before, after, rfl, unset⟩)
        · exact ⟨pairs, [], rfl, List.not_mem_nil⟩
        · refine ⟨before, after ++ [last], by rw [List.append_assoc, List.cons_append], ?_⟩
          rw [List.map_append, List.mem_append, not_or]
          exact ⟨unset, fun same => other (List.mem_singleton.mp same)⟩
      · rintro ⟨before, after, split, unset⟩
        rcases List.eq_nil_or_concat after with rfl | ⟨rest, final, rfl⟩
        · rcases List.append_inj' split rfl with ⟨-, same⟩
          exact Or.inl (List.singleton_inj.mp same).symm
        · rw [List.concat_eq_append, ← List.cons_append, ← List.append_assoc] at split
          rcases List.append_inj' split rfl with ⟨same, ends⟩
          rw [List.concat_eq_append, List.map_append, List.mem_append, not_or, ← ends] at unset
          exact Or.inr ⟨fun own => unset.2 (own ▸ List.mem_singleton_self _), before, rest, same,
            unset.1⟩

/-- Among different values, one stands once in a table, unless its key is set again behind it. -/
theorem count_setKeys [DecidableEq α] (distinct : (pairs.map (·.2)).Nodup) {pair : κ × α}
    {before after : List (κ × α)} (split : pairs = before ++ pair :: after) :
    ((setKeys pairs).map (·.2)).count pair.2 = if pair.1 ∈ after.map (·.1) then 0 else 1 := by
  have among : ∀ {other}, other ∈ setKeys pairs → other ∈ pairs := by
    intro other member
    rcases mem_setKeys_iff.mp member with ⟨early, late, rfl, -⟩
    exact List.mem_append_right early List.mem_cons_self
  have here : pair ∈ pairs := split ▸ List.mem_append_right before List.mem_cons_self
  have different : ((setKeys pairs).map (·.2)).Nodup := by
    refine List.Nodup.map_on ?_ (List.Nodup.of_map _ (nodup_keys_setKeys pairs))
    intro first member second other same
    exact List.inj_on_of_nodup_map distinct (among member) (among other) same
  have stands : pair.2 ∈ (setKeys pairs).map (·.2) ↔ pair.1 ∉ after.map (·.1) := by
    rw [List.mem_map]
    constructor
    · rintro ⟨other, member, same⟩
      cases List.inj_on_of_nodup_map distinct (among member) here same
      rcases mem_setKeys_iff.mp member with ⟨early, late, again, unset⟩
      have alone := List.Nodup.of_map _ distinct
      rw [again, List.nodup_middle, List.nodup_cons, List.mem_append, not_or] at alone
      rw [again, List.append_cons_inj_of_notMem alone.1.1 alone.1.2] at split
      exact split.2.2 ▸ unset
    · intro unset
      exact ⟨pair, mem_setKeys_iff.mpr ⟨before, after, split, unset⟩, rfl⟩
  split
  · rename_i again
    exact List.count_eq_zero.mpr fun member => stands.mp member again
  · rename_i unset
    exact List.count_eq_one_of_mem different (stands.mpr unset)

end Keys

/-! ## Texts as keys -/

variable {α : Type} {name : String}

theorem lookupKey?_text_cons_self (value : α) (rest : List (Value × α)) :
    lookupKey? (.text name) ((.text name, value) :: rest) = some value := by
  have same : (Value.text name == Value.text name) = true := Value.beq_text_iff.mpr rfl
  rw [lookupKey?, List.find?_cons, same]
  rfl

theorem lookupKey?_text_cons_of_ne {key : Value} (other : key ≠ .text name) (value : α)
    (rest : List (Value × α)) :
    lookupKey? (.text name) ((key, value) :: rest) = lookupKey? (.text name) rest := by
  have different : (key == Value.text name) = false :=
    Bool.eq_false_iff.mpr fun same => other (Value.beq_text_iff.mp same)
  rw [lookupKey?, lookupKey?, List.find?_cons, different]

/-- What is found under a text stands there as a pair with the text. -/
theorem mem_of_lookupKey?_text {pairs : List (Value × α)} {found : α}
    (result : lookupKey? (.text name) pairs = some found) : (.text name, found) ∈ pairs := by
  rcases Option.map_eq_some_iff.mp result with ⟨pair, first, rfl⟩
  have same := List.find?_some first
  rw [← Value.beq_text_iff.mp same]
  exact List.mem_of_find?_eq_some first

/-- Setting a text brings in no pair but that of the text with its value. -/
theorem mem_setKey_text {value : α} {pairs : List (Value × α)} {pair : Value × α}
    (member : pair ∈ setKey (.text name) value pairs) :
      pair = (.text name, value) ∨ pair ∈ pairs := by
  induction pairs with
  | nil => exact Or.inl (List.mem_singleton.mp member)
  | cons entry rest ih =>
      rw [setKey] at member
      split at member
      · rename_i same
        rw [Value.beq_text_iff.mp same] at member
        exact (List.mem_cons.mp member).imp id (List.mem_cons_of_mem entry)
      · rcases List.mem_cons.mp member with rfl | later
        · exact Or.inr List.mem_cons_self
        · exact (ih later).imp id (List.mem_cons_of_mem entry)

theorem lookupKey?_setKey_self (value : α) (pairs : List (Value × α)) :
    lookupKey? (.text name) (setKey (.text name) value pairs) = some value := by
  induction pairs with
  | nil => exact lookupKey?_text_cons_self value []
  | cons pair pairs ih =>
      rw [setKey]
      split
      · rename_i same
        rw [Value.beq_text_iff.mp same]
        exact lookupKey?_text_cons_self value pairs
      · rename_i different
        have other : pair.1 ≠ .text name := fun same => different (Value.beq_text_iff.mpr same)
        exact (lookupKey?_text_cons_of_ne other pair.2 _).trans ih

theorem lookupKey?_setKey_of_ne {key : Value} (other : key ≠ .text name) (value : α)
    (pairs : List (Value × α)) :
    lookupKey? (.text name) (setKey key value pairs) = lookupKey? (.text name) pairs := by
  induction pairs with
  | nil => exact lookupKey?_text_cons_of_ne other value []
  | cons pair pairs ih =>
      rcases pair with ⟨first, kept⟩
      rw [setKey]
      split
      · rename_i same
        -- The key that is replaced is not the name either, as it is the same as the other key.
        have passed : first ≠ .text name := by
          rintro rfl
          exact other (Value.text_beq_iff.mp same)
        rw [lookupKey?_text_cons_of_ne passed, lookupKey?_text_cons_of_ne passed]
      · by_cases own : first = .text name
        · subst own
          rw [lookupKey?_text_cons_self, lookupKey?_text_cons_self]
        · rw [lookupKey?_text_cons_of_ne own, lookupKey?_text_cons_of_ne own, ih]

/-- Under a text a table has what the last pair with the text has. -/
theorem lookupKey?_setKeys (name : String) (pairs : List (Value × α)) :
    lookupKey? (.text name) (setKeys pairs) = lookupKey? (.text name) pairs.reverse := by
  induction pairs using List.reverseRecOn with
  | nil => rfl
  | append_singleton pairs last ih =>
      rcases last with ⟨key, value⟩
      rw [setKeys_concat, List.reverse_append, List.reverse_singleton, List.singleton_append]
      by_cases own : key = .text name
      · rw [own, lookupKey?_setKey_self, lookupKey?_text_cons_self]
      · rw [lookupKey?_setKey_of_ne own, lookupKey?_text_cons_of_ne own, ih]

/-- What is set later comes before what is set earlier. -/
theorem lookupKey?_setKeys_append (name : String) (pairs others : List (Value × α)) :
    lookupKey? (.text name) (setKeys (pairs ++ others)) =
      (lookupKey? (.text name) (setKeys others)).or (lookupKey? (.text name) (setKeys pairs)) := by
  rw [lookupKey?_setKeys, lookupKey?_setKeys, lookupKey?_setKeys, List.reverse_append,
    lookupKey?_append]

/-- A list of pairs has a text exactly when one of the pairs has it. -/
theorem isSome_lookupKey?_text_iff {pairs : List (Value × α)} :
    (lookupKey? (.text name) pairs).isSome = true ↔ ∃ pair ∈ pairs, pair.1 = .text name := by
  rw [lookupKey?, Option.isSome_map, List.find?_isSome]
  exact exists_congr fun pair => and_congr_right fun _ => Value.beq_text_iff

theorem lookupKey?_text_eq_none {pairs : List (Value × α)}
    (others : ∀ pair ∈ pairs, pair.1 ≠ .text name) : lookupKey? (.text name) pairs = none := by
  rw [← Option.not_isSome_iff_eq_none, isSome_lookupKey?_text_iff]
  rintro ⟨pair, member, same⟩
  exact others pair member same

/-- The value that was set last under a text counts. -/
theorem lookupKey?_setKeys_of_last {before after : List (Value × α)} {value : α}
    (last : ∀ pair ∈ after, pair.1 ≠ .text name) :
    lookupKey? (.text name) (setKeys (before ++ (.text name, value) :: after)) = some value := by
  have passed : lookupKey? (.text name) after.reverse = none :=
    lookupKey?_text_eq_none fun pair member => last pair (List.mem_reverse.mp member)
  rw [lookupKey?_setKeys, List.reverse_append, List.reverse_cons, List.append_assoc,
    lookupKey?_append, passed, Option.none_or, List.singleton_append, lookupKey?_text_cons_self]

theorem lookupKey?_setKeys_of_forall_ne {pairs : List (Value × α)}
    (others : ∀ pair ∈ pairs, pair.1 ≠ .text name) :
    lookupKey? (.text name) (setKeys pairs) = none := by
  rw [lookupKey?_setKeys]
  exact lookupKey?_text_eq_none fun pair member => others pair (List.mem_reverse.mp member)

/-- A table has a text exactly when some value was set under it. -/
theorem isSome_lookupKey?_setKeys_iff {pairs : List (Value × α)} :
    (lookupKey? (.text name) (setKeys pairs)).isSome = true ↔
      ∃ pair ∈ pairs, pair.1 = .text name := by
  rw [lookupKey?_setKeys, isSome_lookupKey?_text_iff]
  exact exists_congr fun pair => and_congr_left fun _ => List.mem_reverse

/-! ## Texts for names -/

theorem lookupKey?_ofTexts (name : String) (members : List (String × Value)) :
    lookupKey? (.text name) (Members.ofTexts members) = lookupKey? name members := by
  have alike : ((fun pair : Value × Value => pair.1 == Value.text name) ∘
      fun member : String × Value => (Value.text member.1, member.2)) =
      fun member => member.1 == name :=
    funext fun member => Value.text_beq_text member.1 name
  rw [lookupKey?, Members.ofTexts, List.find?_map, alike, Option.map_map]
  rfl

theorem setKeys_ofTexts (members : List (String × Value)) :
    setKeys (Members.ofTexts members) = Members.ofTexts (setKeys members) :=
  setKeys_map Value.text id Value.text_beq_text members

end WireSchema
