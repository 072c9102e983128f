import WireSchema.Proofs.Text.TypeNames
import WireSchema.Proofs.Text.Words

namespace WireSchema.Text

/-!
# Names of functions

A function can be defined under a text of letters, digits and underscores that does not begin with a
digit and is no keyword.  A name in snake case is such a text, unless the first letter or digit of
the name it is made from is a digit: the underscores in front of it are lost.
-/

/-- A nonempty text of letters, digits and underscores that does not begin with
a digit.  Letters are those of the basic Latin block, as in all names that the
tool makes itself. -/
structure IsIdentifier (text : String) : Prop where
  start : ∃ c ∈ text.toList.head?, c.isDigit = false
  chars : ∀ c ∈ text.toList, isNameChar c = true

instance (text : String) : Decidable (IsIdentifier text) :=
  decidable_of_iff ((text.toList.head?.any fun c => !c.isDigit) = true ∧
      text.toList.all isNameChar = true)
    ⟨fun plain => ⟨by simpa [Option.any_eq_true] using plain.1, List.all_eq_true.mp plain.2⟩,
      fun plain => ⟨by simpa [Option.any_eq_true] using plain.start,
        List.all_eq_true.mpr plain.chars⟩⟩

/-- The words that the language of the modules keeps for itself. -/
def keywords : List String :=
  ["False", "None", "True", "and", "as", "assert", "async", "await", "break", "class", "continue",
   "def", "del", "elif", "else", "except", "finally", "for", "from", "global", "if", "import", "in",
   "is", "lambda", "nonlocal", "not", "or", "pass", "raise", "return", "try", "while", "with",
   "yield"]

/-- A text under which a function can be defined.  The words of the language are
identifiers by their characters, and have to be excluded one by one. -/
structure IsFunctionName (text : String) : Prop extends IsIdentifier text where
  free : text ∉ keywords

def BeginsWithDigit (text : String) : Prop :=
  ∃ c ∈ text.toList.head?, c.isDigit = true

/-- Of the letters and digits in a text, the first one is a digit.  Its words in
snake case then begin with a digit too, whatever stands in front of it in the
text. -/
def LeadsWithDigit (text : String) : Prop :=
  ∃ c ∈ text.toList.find? Char.isAlphanum, c.isDigit = true

instance (text : String) : Decidable (LeadsWithDigit text) :=
  decidable_of_iff ((text.toList.find? Char.isAlphanum).any Char.isDigit = true)
    (by simp only [LeadsWithDigit, Option.any_eq_true, Option.mem_def])

theorem underscore_notMem_of_mem_keywords {word : String} (member : word ∈ keywords) :
    '_' ∉ word.toList := by
  have each : ∀ word ∈ keywords, '_' ∉ word.toList := by decide +kernel
  exact each word member

theorem isNameChar_of_mem_append {first rest : String}
    (inFirst : ∀ c ∈ first.toList, isNameChar c = true)
    (inRest : ∀ c ∈ rest.toList, isNameChar c = true) :
    ∀ c ∈ (first ++ rest).toList, isNameChar c = true := by
  intro c inside
  rw [String.toList_append, List.mem_append] at inside
  exact inside.elim (inFirst c) (inRest c)

/-- An identifier stays one with more characters of names behind it. -/
theorem IsIdentifier.append {first rest : String} (plain : IsIdentifier first)
    (chars : ∀ c ∈ rest.toList, isNameChar c = true) : IsIdentifier (first ++ rest) where
  start := by
    rcases plain.start with ⟨c, own, noDigit⟩
    refine ⟨c, ?_, noDigit⟩
    rw [String.toList_append, List.head?_append, Option.mem_def.mp own]
    rfl
  chars := isNameChar_of_mem_append plain.chars chars

theorem IsIdentifier.not_beginsWithDigit {text : String} (plain : IsIdentifier text) :
    ¬BeginsWithDigit text := by
  rintro ⟨c, first, digit⟩
  rcases plain.start with ⟨d, own, noDigit⟩
  cases Option.mem_unique first own
  rw [digit] at noDigit
  cases noDigit

theorem beginsWithDigit_append_iff {text rest : String}
    (goesOn : ∃ c ∈ rest.toList.head?, c.isDigit = false) :
    BeginsWithDigit (text ++ rest) ↔ BeginsWithDigit text := by
  rcases goesOn with ⟨c, first, noDigit⟩
  rw [BeginsWithDigit, BeginsWithDigit, String.toList_append]
  cases text.toList with
  | nil => simp [Option.mem_def.mp first, noDigit]
  | cons d cs => rfl

/-- A text of characters of names that has an underscore is the name of a function unless it begins
with a digit. -/
theorem isFunctionName_iff {text : String} (chars : ∀ c ∈ text.toList, isNameChar c = true)
    (mark : '_' ∈ text.toList) : IsFunctionName text ↔ ¬BeginsWithDigit text := by
  constructor
  · exact fun plain => plain.not_beginsWithDigit
  · intro noDigit
    refine ⟨⟨?_, chars⟩, fun member => underscore_notMem_of_mem_keywords member mark⟩
    cases whole : text.toList with
    | nil =>
        rw [whole] at mark
        cases mark
    | cons c cs =>
        refine ⟨c, rfl, Bool.eq_false_iff.mpr fun digit => noDigit ⟨c, ?_, digit⟩⟩
        rw [whole]
        rfl

/-! ## Snake case -/

theorem isNameChar_of_mem_toSnakeCase {text : String} :
    ∀ c ∈ (toSnakeCase text).toList, isNameChar c = true := by
  intro c inside
  rcases mem_of_mem_joinWords inside with between | ⟨part, member, own⟩
  · cases List.mem_singleton.mp between
    decide
  · rcases List.mem_map.mp member with ⟨word, among, rfl⟩
    have isWord := (isWord_of_mem_words word among).map isAlphanum_toLower
    rw [isNameChar, isWord.letters c own, Bool.true_or]

theorem isDigit_toLower (c : Char) : c.toLower.isDigit = c.isDigit := by
  simp only [Char.isDigit, Char.toLower]
  split <;> grind [UInt32.toNat_add, Char.toNat_val]

/-- The first word begins with the first letter or digit. -/
theorem find?_isAlphanum_eq (cs : List Char) :
    cs.find? Char.isAlphanum = (words cs).head?.bind List.head? := by
  fun_induction words cs with
  | case1 => rfl
  | case2 c letter => exact List.find?_cons_of_pos letter
  | case3 c letter d tail same none ih => exact List.find?_cons_of_pos letter
  | case4 c letter d tail same first others found ih => exact List.find?_cons_of_pos letter
  | case5 c letter d tail apart ih => exact List.find?_cons_of_pos letter
  | case6 c rest other ih => rw [List.find?_cons_of_neg other, ih]

/-- A name in snake case begins with the first letter or digit of what it is made from. -/
theorem head?_toSnakeCase (text : String) :
    (toSnakeCase text).toList.head? = (text.toList.find? Char.isAlphanum).map Char.toLower := by
  rw [find?_isAlphanum_eq, toSnakeCase, joinWords, String.toList_ofList]
  have nonempty : ∀ word ∈ words text.toList, word ≠ [] := fun word member =>
    (isWord_of_mem_words word member).nonempty
  cases found : words text.toList with
  | nil => rfl
  | cons word others =>
      rw [found] at nonempty
      rcases List.exists_cons_of_ne_nil (nonempty word List.mem_cons_self) with ⟨c, cs, rfl⟩
      cases others <;> simp [List.intercalate]

theorem beginsWithDigit_toSnakeCase_iff {text : String} :
    BeginsWithDigit (toSnakeCase text) ↔ LeadsWithDigit text := by
  rw [BeginsWithDigit, LeadsWithDigit, head?_toSnakeCase]
  cases text.toList.find? Char.isAlphanum with
  | none => simp
  | some c => simp [isDigit_toLower]

end WireSchema.Text
