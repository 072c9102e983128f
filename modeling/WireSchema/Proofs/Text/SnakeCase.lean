import WireSchema.Proofs.Text.WordBoundaries

namespace WireSchema.Text

/-!
# Names in snake case

A name in snake case is made of runs of small letters and runs of digits with an underscore between
two of them.  These runs are the words of the name again, so the snake case of a name in snake case
is the name, and a small letter at its front is all that is asked of the text it is made from.
-/

/-! ## Words of one class -/

/-- Inside a word there is no change between letters and digits. -/
theorem isDigit_eq_of_mem_words {cs : List Char} :
    ∀ word ∈ words cs, ∀ c ∈ word, ∀ d ∈ word, c.isDigit = d.isDigit := by
  suffices first : ∀ word ∈ words cs, ∀ c ∈ word, ∀ d ∈ word.head?, c.isDigit = d.isDigit by
    intro word member c own d other
    rcases List.exists_cons_of_ne_nil (isWord_of_mem_words word member).nonempty with ⟨e, es, rfl⟩
    exact (first _ member c own e rfl).trans (first _ member d other e rfl).symm
  fun_induction words cs with
  | case1 => rintro word ⟨⟩
  | case2 c letter => simp
  | case3 c letter d tail same none ih => simp
  | case4 c letter d tail same word others found ih =>
      rw [found, List.forall_mem_cons] at ih
      have begins : word.head? = some d := by
        have head := find?_isAlphanum_eq (d :: tail)
        rw [List.find?_cons_of_pos (Bool.and_eq_true _ _ ▸ same).1, found] at head
        exact head.symm
      have together : c.isDigit = d.isDigit := by
        have joined := (Bool.and_eq_true _ _ ▸ same).2
        simp [isWordBoundary] at joined
        exact joined.1.1
      refine List.forall_mem_cons.mpr ⟨?_, ih.2⟩
      rintro e member _ ⟨⟩
      rcases List.mem_cons.mp member with rfl | inside
      · rfl
      · rw [ih.1 e inside d begins, together]
  | case5 c letter d tail apart ih => exact List.forall_mem_cons.mpr ⟨by simp, ih⟩
  | case6 c rest other ih => exact ih

/-- A nonempty run of small letters or of digits.  The parts of a name in small
letters are of this kind, which is why splitting them again changes nothing. -/
structure IsSmallRun (part : List Char) : Prop where
  nonempty : part ≠ []
  kind : (∀ c ∈ part, c.isLower = true) ∨ ∀ c ∈ part, c.isDigit = true

theorem isSmallRun_of_mem_smallWords {text : String} :
    ∀ part ∈ smallWords text, IsSmallRun part := by
  intro part member
  rcases List.mem_map.mp member with ⟨word, among, rfl⟩
  have isWord := isWord_of_mem_words word among
  refine ⟨(isWord.map isAlphanum_toLower).nonempty, ?_⟩
  by_cases digits : ∀ c ∈ word, c.isDigit = true
  · refine .inr (List.forall_mem_map.mpr fun c own => ?_)
    rw [isDigit_toLower, digits c own]
  · refine .inl (List.forall_mem_map.mpr fun c own => ?_)
    have noDigit : c.isDigit = false := by
      rw [Bool.eq_false_iff]
      exact fun digit => digits fun d other =>
        isDigit_eq_of_mem_words word among d other c own ▸ digit
    have letter := isWord.letters c own
    rwa [Char.isAlphanum, noDigit, Bool.or_false, ← Char.isLower_toLower_eq_isAlpha] at letter

/-- In front of something else, a run of small letters or of digits is a word. -/
theorem IsSmallRun.beginsWord {part rest : List Char} (run : IsSmallRun part)
    (ends : ∀ d, rest.head? = some d → d.isAlphanum = false) : BeginsWord rest part := by
  have last : ∀ c d : Char, rest.head? = some d → d.isAlphanum = true →
      isWordBoundary c d rest.tail.head? = true := by
    intro c d first letter
    rw [ends d first] at letter
    cases letter
  rcases run.kind with small | digits
  · exact beginsWord_of_run run.nonempty small
      (fun c own => (isAlphanum_iff c).mpr (.inr (.inl own)))
      (fun c d next first second _ => isWordBoundary_small first second next) (fun c _ => last c)
  · exact beginsWord_of_run run.nonempty digits
      (fun c own => (isAlphanum_iff c).mpr (.inr (.inr own)))
      (fun c d next first second _ => isWordBoundary_digits first second next) (fun c _ => last c)

theorem words_intercalate {parts : List (List Char)} (each : ∀ part ∈ parts, IsSmallRun part) :
    words (List.intercalate ['_'] parts) = parts := by
  induction parts with
  | nil => rfl
  | cons part parts ih =>
      rcases List.forall_mem_cons.mp each with ⟨own, others⟩
      by_cases last : parts = []
      · subst last
        have ends : ∀ d, ([] : List Char).head? = some d → d.isAlphanum = false := by simp
        have whole := (own.beginsWord ends).words_append
        rw [List.append_nil] at whole
        exact (congrArg words List.intercalate_singleton).trans whole
      · have underscore : ('_' : Char).isAlphanum = false := by decide
        rw [List.intercalate_cons_of_ne_nil last, List.append_assoc, List.singleton_append,
          (own.beginsWord (by simp [underscore])).words_append, words_of_not underscore,
          ih others]

/-! ## Snake case -/

/-- Snake case is kept by snake case. -/
theorem toSnakeCase_toSnakeCase (text : String) :
    toSnakeCase (toSnakeCase text) = toSnakeCase text := by
  have same : words (toSnakeCase text).toList = smallWords text := by
    rw [toSnakeCase, joinWords, String.toList_ofList]
    exact words_intercalate isSmallRun_of_mem_smallWords
  have small : (smallWords text).map (List.map Char.toLower) = smallWords text := by
    rw [smallWords, List.map_map]
    apply List.map_congr_left
    intro word _
    rw [Function.comp_apply, List.map_map]
    exact List.map_congr_left fun c _ => Char.toLower_toLower_eq_toLower c
  rw [toSnakeCase, same, small]
  rfl

theorem map_joinWords (change : Char → Char) (separator : List Char) (parts : List (List Char)) :
    (joinWords separator parts).map change =
      joinWords (separator.map change) (parts.map (List.map change)) := by
  rw [← String.toList_inj, String.toList_map, joinWords, joinWords, String.toList_ofList,
    String.toList_ofList]
  induction parts with
  | nil => rfl
  | cons part parts ih =>
      by_cases last : parts = []
      · subst last
        simp
      · rw [List.intercalate_cons_of_ne_nil last, List.map_cons,
          List.intercalate_cons_of_ne_nil (by simpa using last), List.map_append,
            List.map_append, ih]

/-- The two spellings differ in the size of letters only. -/
theorem toScreamingSnakeCase_eq_toUpper (text : String) :
    toScreamingSnakeCase text = (toSnakeCase text).toUpper := by
  rw [String.toUpper, toSnakeCase, map_joinWords, List.map_map, toScreamingSnakeCase]
  congr 1
  apply List.map_congr_left
  intro word _
  rw [Function.comp_apply, List.map_map]
  exact List.map_congr_left fun c _ => (Char.toUpper_toLower_eq_toUpper c).symm

def isSmallOrDigit (c : Char) : Bool :=
  c.isLower || c.isDigit

/-- A small letter with small letters and digits behind it, and then any number of underscores, each
with small letters or digits behind it. -/
def IsSnakeCase (name : String) : Prop :=
  ∃ (c : Char) (cs : List Char) (parts : List (List Char)),
    name.toList = c :: cs ++ parts.flatMap (fun part => '_' :: part) ∧
    c.isLower = true ∧ (∀ d ∈ cs, isSmallOrDigit d = true) ∧
    ∀ part ∈ parts, part ≠ [] ∧ ∀ d ∈ part, isSmallOrDigit d = true

theorem IsSmallRun.isSmallOrDigit {part : List Char} (run : IsSmallRun part) :
    ∀ c ∈ part, isSmallOrDigit c = true := by
  intro c own
  rw [Text.isSmallOrDigit, Bool.or_eq_true]
  exact run.kind.imp (fun small => small c own) (fun digits => digits c own)

theorem intercalate_eq_append_flatMap (part : List Char) (parts : List (List Char)) :
    List.intercalate ['_'] (part :: parts) = part ++ parts.flatMap fun part => '_' :: part := by
  induction parts generalizing part with
  | nil => simp
  | cons second parts ih =>
      rw [List.intercalate_cons_of_ne_nil (List.cons_ne_nil second parts), ih, List.append_assoc]
      rfl

/-- A text whose first letter or digit is a letter has a name in snake case with a small letter at
its front, and no other text has one. -/
theorem isSnakeCase_toSnakeCase_iff (text : String) :
    IsSnakeCase (toSnakeCase text) ↔
      ∃ c, text.toList.find? Char.isAlphanum = some c ∧ c.isAlpha = true := by
  constructor
  · rintro ⟨c, cs, parts, whole, small, -, -⟩
    have first := head?_toSnakeCase text
    rw [whole, List.cons_append, List.head?_cons] at first
    rcases Option.map_eq_some_iff.mp first.symm with ⟨d, found, lower⟩
    exact ⟨d, found, by rw [← Char.isLower_toLower_eq_isAlpha, lower, small]⟩
  · rintro ⟨d, found, letter⟩
    have first := head?_toSnakeCase text
    have runs : ∀ part ∈ smallWords text, IsSmallRun part := isSmallRun_of_mem_smallWords
    have whole : (toSnakeCase text).toList = List.intercalate ['_'] (smallWords text) := by
      rw [toSnakeCase, joinWords, String.toList_ofList]
      rfl
    rw [found, Option.map_some] at first
    cases given : smallWords text with
    | nil =>
        rw [whole, given] at first
        cases first
    | cons part parts =>
        rw [given] at runs whole
        rcases List.forall_mem_cons.mp runs with ⟨own, others⟩
        rw [intercalate_eq_append_flatMap] at whole
        rcases List.exists_cons_of_ne_nil own.nonempty with ⟨c, cs, rfl⟩
        rw [whole] at first
        cases first
        refine ⟨_, cs, parts, whole, ?_, ?_, ?_⟩
        · rw [Char.isLower_toLower_eq_isAlpha, letter]
        · exact fun e inside => own.isSmallOrDigit e (List.mem_cons_of_mem _ inside)
        · exact fun other member => ⟨(others other member).nonempty,
            (others other member).isSmallOrDigit⟩

/-! ## Splitting into words -/

theorem isAlpha_iff_of_isAlphanum {c : Char} (letter : c.isAlphanum = true) :
    c.isAlpha = true ↔ c.isDigit = false := by
  constructor
  · exact isDigit_of_isAlpha
  · intro noDigit
    rwa [Char.isAlphanum, noDigit, Bool.or_false] at letter

theorem isWordBoundary_iff {c d : Char} {next : Option Char} (letter : c.isAlphanum = true)
    (following : d.isAlphanum = true) :
    isWordBoundary c d next = true ↔
      (c.isAlpha = true ∧ d.isDigit = true ∨ c.isDigit = true ∧ d.isAlpha = true) ∨
      (c.isLower = true ∧ d.isUpper = true) ∨
      (c.isUpper = true ∧ d.isUpper = true ∧ ∃ e, next = some e ∧ e.isLower = true) := by
  have ahead : (next.map Char.isLower).getD false = true ↔
      ∃ e, next = some e ∧ e.isLower = true := by
    cases next <;> simp
  have mixed : (c.isDigit != d.isDigit) = true ↔
      c.isAlpha = true ∧ d.isDigit = true ∨ c.isDigit = true ∧ d.isAlpha = true := by
    rw [isAlpha_iff_of_isAlphanum letter, isAlpha_iff_of_isAlphanum following]
    cases c.isDigit <;> cases d.isDigit <;> simp
  rw [isWordBoundary, Bool.or_eq_true, Bool.or_eq_true, mixed, Bool.and_eq_true, Bool.and_eq_true,
    Bool.and_eq_true, ahead, or_assoc, and_assoc]

/-- The words of a text are what the pattern finds in it.  They hold its letters and digits in
order; each letter or digit has a word with a number, and the words of two adjacent ones differ
exactly where a letter meets a digit, where a small letter is followed by a capital, and between two
capitals before a small letter.  Snake case is kept by snake case, differs from the spelling in
capitals in the size of letters only, and has the form of a name for every text that begins with a
letter. -/
theorem wordSplitting_exact (text : String) :
    wordPattern.findAll (separated text.toList) = words text.toList ∧
    (words text.toList).flatten = text.toList.filter Char.isAlphanum ∧
    (∀ place c, text.toList[place]? = some c → c.isAlphanum = true →
      ∃ word, (words text.toList)[wordNumber text.toList place]? = some word ∧ c ∈ word) ∧
    (∀ place c d, text.toList[place]? = some c → text.toList[place + 1]? = some d →
      c.isAlphanum = true → d.isAlphanum = true →
      (wordNumber text.toList place ≠ wordNumber text.toList (place + 1) ↔
        (c.isAlpha = true ∧ d.isDigit = true ∨ c.isDigit = true ∧ d.isAlpha = true) ∨
        (c.isLower = true ∧ d.isUpper = true) ∨
        (c.isUpper = true ∧ d.isUpper = true ∧
          ∃ e, text.toList[place + 2]? = some e ∧ e.isLower = true))) ∧
    toSnakeCase (toSnakeCase text) = toSnakeCase text ∧
    toScreamingSnakeCase text = (toSnakeCase text).toUpper ∧
    (∀ c, text.toList.head? = some c → c.isAlpha = true → IsSnakeCase (toSnakeCase text)) := by
  refine ⟨?_, flatten_words text.toList, fun place c => exists_word_of_getElem?, ?_,
    toSnakeCase_toSnakeCase text, toScreamingSnakeCase_eq_toUpper text, ?_⟩
  · rw [findAll_wordPattern, words_separated]
  · intro place c d first second letter following
    rw [← isWordBoundary_iff letter following, wordNumber_next first second letter following]
    split
    · rename_i boundary
      simp [boundary]
    · rename_i together
      simp [together]
  · intro c first letter
    refine (isSnakeCase_toSnakeCase_iff text).mpr ⟨c, ?_, letter⟩
    rcases List.head?_eq_some_iff.mp first with ⟨cs, whole⟩
    rw [whole, List.find?_cons_of_pos]
    rw [Char.isAlphanum, letter, Bool.true_or]

/-- An acronym before a word, digits before another one, and an acronym by itself. -/
theorem wordSplitting_exact_server :
    "HTTPServer2xx_ID".toList[2]? = some 'T' ∧ "HTTPServer2xx_ID".toList[3]? = some 'P' ∧
    "HTTPServer2xx_ID".toList[4]? = some 'S' ∧ "HTTPServer2xx_ID".toList[5]? = some 'e' ∧
    wordNumber "HTTPServer2xx_ID".toList 2 = wordNumber "HTTPServer2xx_ID".toList 3 ∧
    wordNumber "HTTPServer2xx_ID".toList 3 ≠ wordNumber "HTTPServer2xx_ID".toList 4 ∧
    (∃ word, (words "HTTPServer2xx_ID".toList)[wordNumber "HTTPServer2xx_ID".toList 4]? =
      some word ∧
      'S' ∈ word) ∧
    IsSnakeCase (toSnakeCase "HTTPServer2xx_ID") := by
  rcases wordSplitting_exact "HTTPServer2xx_ID" with ⟨-, -, inWord, boundary, -, -, form⟩
  refine ⟨rfl, rfl, rfl, rfl, ?_, ?_, inWord 4 'S' rfl rfl, form 'H' rfl rfl⟩
  · by_contra apart
    rcases (boundary 2 'T' 'P' rfl rfl rfl rfl).mp apart with
      (⟨_, digit⟩ | ⟨digit, _⟩) | ⟨small, _⟩ | ⟨_, _, e, next, small⟩
    · exact absurd digit (by decide)
    · exact absurd digit (by decide)
    · exact absurd small (by decide)
    · cases next
      exact absurd small (by decide)
  · exact (boundary 3 'P' 'S' rfl rfl rfl rfl).mpr (.inr (.inr ⟨rfl, rfl, 'e', rfl, rfl⟩))

end WireSchema.Text
