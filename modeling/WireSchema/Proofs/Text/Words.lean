import Mathlib
import WireSchema.Text.Words

namespace WireSchema.Text

/-!
# Words of names

Every word of a text is a nonempty run of letters and digits, whatever the text is.  So words that
are joined by underscores are read back from the name they make: `partsOfName` cuts a name at its
underscores, and two names are the same exactly when their parts are.
-/

/-! ## Letters and digits -/

theorem isAlphanum_toLower (c : Char) : c.toLower.isAlphanum = c.isAlphanum := by
  by_cases capital : c.isUpper = true
  · rw [Char.isAlphanum, Char.isAlphanum, Char.isAlpha_toLower_eq_isAlpha, Char.isAlpha, capital,
      Bool.true_or, Bool.true_or, Bool.true_or]
  · rw [Char.toLower_eq_of_not_isUpper capital]

theorem isAlphanum_toUpper (c : Char) : c.toUpper.isAlphanum = c.isAlphanum := by
  by_cases small : c.isLower = true
  · rw [Char.isAlphanum, Char.isAlphanum, Char.isAlpha_toUpper_eq_isAlpha, Char.isAlpha, small,
      Bool.or_true, Bool.true_or, Bool.true_or]
  · rw [Char.toUpper_eq_of_not_isLower small]

/-- A nonempty run of letters and digits. -/
structure IsWord (word : List Char) : Prop where
  nonempty : word ≠ []
  letters : ∀ c ∈ word, c.isAlphanum = true

namespace IsWord

variable {word : List Char}

theorem single {c : Char} (letter : c.isAlphanum = true) : IsWord [c] where
  nonempty := List.cons_ne_nil c []
  letters := by simpa using letter

theorem cons {c : Char} (letter : c.isAlphanum = true) (isWord : IsWord word) :
    IsWord (c :: word) where
  nonempty := List.cons_ne_nil c word
  letters := List.forall_mem_cons.mpr ⟨letter, isWord.letters⟩

theorem map {change : Char → Char} (isWord : IsWord word)
    (letter : ∀ c, (change c).isAlphanum = c.isAlphanum) : IsWord (word.map change) where
  nonempty := by
    rw [ne_eq, List.map_eq_nil_iff]
    exact isWord.nonempty
  letters := by
    intro c member
    rcases List.mem_map.mp member with ⟨d, among, rfl⟩
    rw [letter, isWord.letters d among]

theorem capitalize (isWord : IsWord word) : IsWord (capitalize word) := by
  cases word with
  | nil => exact absurd rfl isWord.nonempty
  | cons c word =>
      rcases List.forall_mem_cons.mp isWord.letters with ⟨first, others⟩
      refine ⟨List.cons_ne_nil _ _, List.forall_mem_cons.mpr ⟨?_, ?_⟩⟩
      · rw [isAlphanum_toUpper, first]
      · intro d member
        rcases List.mem_map.mp member with ⟨e, among, rfl⟩
        rw [isAlphanum_toLower, others e among]

theorem underscore_notMem (isWord : IsWord word) : '_' ∉ word :=
  fun member => absurd (isWord.letters '_' member) (by decide)

end IsWord

/-- The induction is on the text, as in `words`: a character either begins a word of its own or
goes in front of the first word of the rest. -/
theorem isWord_of_mem_words {cs : List Char} : ∀ word ∈ words cs, IsWord word := by
  fun_induction words cs with
  | case1 => rintro word ⟨⟩
  | case2 c letter => simpa using IsWord.single letter
  | case3 c letter d tail same none ih => simpa using IsWord.single letter
  | case4 c letter d tail same first others found ih =>
      rw [found, List.forall_mem_cons] at ih
      exact List.forall_mem_cons.mpr ⟨ih.1.cons letter, ih.2⟩
  | case5 c letter d tail apart ih => exact List.forall_mem_cons.mpr ⟨.single letter, ih⟩
  | case6 c rest other ih => exact ih

theorem mem_of_mem_joinWords {separator : List Char} {parts : List (List Char)} {c : Char}
    (inside : c ∈ (joinWords separator parts).toList) :
    c ∈ separator ∨ ∃ part ∈ parts, c ∈ part := by
  rw [joinWords, String.toList_ofList] at inside
  induction parts with
  | nil => cases inside
  | cons part parts ih =>
      by_cases last : parts = []
      · subst last
        exact .inr ⟨part, List.mem_cons_self, by simpa using inside⟩
      · rw [List.intercalate_cons_of_ne_nil last, List.mem_append, List.mem_append] at inside
        rcases inside with (own | between) | later
        · exact .inr ⟨part, List.mem_cons_self, own⟩
        · exact .inl between
        · rcases ih later with between | ⟨other, member, own⟩
          · exact .inl between
          · exact .inr ⟨other, List.mem_cons_of_mem part member, own⟩

/-- A name in Pascal case is made of letters and digits. -/
theorem isAlphanum_of_mem_toPascalCase {text : String} {c : Char}
    (inside : c ∈ (toPascalCase text).toList) : c.isAlphanum = true := by
  rcases mem_of_mem_joinWords inside with between | ⟨part, member, own⟩
  · cases between
  · rcases List.mem_map.mp member with ⟨word, among, rfl⟩
    exact (isWord_of_mem_words word among).capitalize.letters c own

/-! ## Parts of a name -/

/-- The parts of a name between its underscores; the empty name has none. -/
def partsOfName (name : String) : List (List Char) :=
  if name = "" then [] else name.toList.splitOn '_'

theorem intercalate_partsOfName (name : String) :
    List.intercalate ['_'] (partsOfName name) = name.toList := by
  rw [partsOfName]
  split
  · rename_i empty
    rw [empty]
    rfl
  · exact List.intercalate_splitOn '_'

/-- A name is known by its parts. -/
theorem partsOfName_injective : Function.Injective partsOfName := by
  intro name other same
  rw [← String.toList_inj, ← intercalate_partsOfName name, same, intercalate_partsOfName]

/-- Words that are joined by underscores are the parts of the name they make. -/
theorem partsOfName_joinWords {parts : List (List Char)} (each : ∀ part ∈ parts, IsWord part) :
    partsOfName (joinWords ['_'] parts) = parts := by
  cases parts with
  | nil => rfl
  | cons part parts =>
      have first := each part List.mem_cons_self
      have given : joinWords ['_'] (part :: parts) ≠ "" := by
        rw [joinWords, ne_eq, String.ofList_eq_empty_iff]
        intro empty
        cases parts with
        | nil => exact first.nonempty (by simpa using empty)
        | cons second parts => exact first.nonempty (by simp at empty)
      rw [partsOfName, if_neg given, joinWords, String.toList_ofList]
      exact List.splitOn_intercalate '_' (fun part member => (each part member).underscore_notMem)
        (List.cons_ne_nil part parts)

def smallWords (text : String) : List (List Char) :=
  (words text.toList).map fun word => word.map Char.toLower

def capitalWords (text : String) : List (List Char) :=
  (words text.toList).map fun word => word.map Char.toUpper

theorem partsOfName_toSnakeCase (text : String) :
    partsOfName (toSnakeCase text) = smallWords text := by
  apply partsOfName_joinWords
  intro part member
  rcases List.mem_map.mp member with ⟨word, among, rfl⟩
  exact (isWord_of_mem_words word among).map isAlphanum_toLower

theorem partsOfName_toScreamingSnakeCase (text : String) :
    partsOfName (toScreamingSnakeCase text) = capitalWords text := by
  apply partsOfName_joinWords
  intro part member
  rcases List.mem_map.mp member with ⟨word, among, rfl⟩
  exact (isWord_of_mem_words word among).map isAlphanum_toUpper

end WireSchema.Text
