import WireSchema.Proofs.Text.Identifiers
import WireSchema.Proofs.Text.WordPattern

namespace WireSchema.Text

/-!
# Boundaries of words

The words of a text hold its letters and digits in order and nothing else, so every letter or digit
has a word with a number.  From one to the next the number grows by one at a boundary and not at all
elsewhere.  This carries over from the rest of a text to the whole: one more character in front
either shifts all numbers or none.

Inside a word there is no change between letters and digits, so words in small letters that are
joined by underscores are read back as the same words.
-/

variable {c d : Char} {cs : List Char}

/-! ## One more character in front -/

/-- The words of a text hold its letters and digits. -/
theorem flatten_words (cs : List Char) : (words cs).flatten = cs.filter Char.isAlphanum := by
  fun_induction words cs with
  | case1 => rfl
  | case2 c letter => rw [List.filter_cons_of_pos letter]; rfl
  | case3 c letter d tail same none ih =>
      rw [none] at ih
      rw [List.filter_cons_of_pos letter, ← ih]
      rfl
  | case4 c letter d tail same first others found ih =>
      rw [List.filter_cons_of_pos letter, ← ih, found]
      rfl
  | case5 c letter d tail apart ih =>
      rw [List.flatten_cons, ih, List.filter_cons_of_pos letter]
      rfl
  | case6 c rest other ih => rw [List.filter_cons_of_neg other, ih]

/-- Whether a letter or digit in front of a text makes a word of its own.  It
depends on two further characters at most. -/
def standsApart (c : Char) : List Char → Bool
  | [] => true
  | d :: cs => !d.isAlphanum || isWordBoundary c d cs.head?

theorem words_of_standsApart (letter : c.isAlphanum = true) (apart : standsApart c cs = true) :
    words (c :: cs) = [c] :: words cs := by
  have begins : BeginsWord cs [c] := by
    refine .last letter fun d first second => ?_
    rcases List.head?_eq_some_iff.mp first with ⟨tail, rfl⟩
    rw [standsApart, second] at apart
    exact apart
  exact begins.words_append

/-- A letter or digit that makes no word of its own belongs to the first word of what follows. -/
theorem exists_words_of_not_standsApart (letter : c.isAlphanum = true)
    (joined : standsApart c cs = false) :
    ∃ word others, words cs = word :: others ∧ words (c :: cs) = (c :: word) :: others := by
  cases cs with
  | nil => cases joined
  | cons d cs =>
      rw [standsApart, Bool.or_eq_false_iff, Bool.not_eq_false'] at joined
      rcases joined with ⟨second, together⟩
      rcases takesWord_of_isAlphanum second cs with ⟨word, rest, -, whole, begins⟩
      cases word with
      | nil => cases begins
      | cons first word =>
          rcases List.cons.inj whole with ⟨rfl, tail⟩
          have longer : BeginsWord rest (c :: first :: word) := by
            refine .cons letter ?_ begins
            rw [show word ++ rest = cs from tail]
            exact together
          refine ⟨first :: word, words rest, ?_, ?_⟩
          · rw [← whole, begins.words_append]
          · rw [← longer.words_append, List.cons_append, whole]

/-! ## Numbers of words -/

/-- The number of the group that holds a member, given how many members stand
before it.  Two members are in one word exactly when this number is the same for
both. -/
def groupOf : List (List Char) → Nat → Nat
  | [], _ => 0
  | group :: others, before =>
      if before < group.length then 0 else groupOf others (before - group.length) + 1

theorem groupOf_single (c : Char) (others : List (List Char)) (before : Nat) :
    groupOf ([c] :: others) (before + 1) = groupOf others before + 1 := by
  rw [groupOf, if_neg (by simp), List.length_singleton, Nat.add_sub_cancel]

theorem groupOf_longer (c : Char) (group : List Char) (others : List (List Char)) (before : Nat) :
    groupOf ((c :: group) :: others) (before + 1) = groupOf (group :: others) before := by
  simp only [groupOf, List.length_cons, Nat.add_lt_add_iff_right, Nat.add_sub_add_right]

/-- A member is in the group of its number. -/
theorem exists_group_of_getElem? {groups : List (List Char)} {before : Nat}
    (own : groups.flatten[before]? = some c) :
    ∃ group, groups[groupOf groups before]? = some group ∧ c ∈ group := by
  induction groups generalizing before with
  | nil => cases own
  | cons group others ih =>
      rw [List.flatten_cons] at own
      rw [groupOf]
      split
      · rename_i inside
        rw [List.getElem?_append_left inside] at own
        exact ⟨group, rfl, List.mem_of_getElem? own⟩
      · rename_i behind
        rw [List.getElem?_append_right (Nat.not_lt.mp behind)] at own
        exact ih own

/-- The number of the word that holds the letter or digit at a place of a text.
Only letters and digits are counted, since no other character is in any word. -/
def wordNumber (cs : List Char) (place : Nat) : Nat :=
  groupOf (words cs) ((cs.take place).countP Char.isAlphanum)

theorem wordNumber_zero (letter : c.isAlphanum = true) : wordNumber (c :: cs) 0 = 0 := by
  rw [wordNumber, List.take_zero, List.countP_nil]
  cases apart : standsApart c cs with
  | true =>
      rw [words_of_standsApart letter apart]
      rfl
  | false =>
      rcases exists_words_of_not_standsApart letter apart with ⟨word, others, -, longer⟩
      rw [longer]
      rfl

/-- What stands in front of a text shifts the numbers of its words together. -/
theorem wordNumber_succ (c : Char) (cs : List Char) (place : Nat) :
    wordNumber (c :: cs) (place + 1) =
      wordNumber cs place + if c.isAlphanum && standsApart c cs then 1 else 0 := by
  rw [wordNumber, wordNumber, List.take_succ_cons]
  cases letter : c.isAlphanum with
  | false =>
      rw [words_of_not letter, List.countP_cons_of_neg (Bool.eq_false_iff.mp letter)]
      rfl
  | true =>
      rw [List.countP_cons_of_pos letter]
      cases apart : standsApart c cs with
      | true =>
          rw [words_of_standsApart letter apart, groupOf_single]
          rfl
      | false =>
          rcases exists_words_of_not_standsApart letter apart with ⟨word, others, first, longer⟩
          rw [longer, first, groupOf_longer]
          rfl

/-- A letter or digit is in the word of its number. -/
theorem exists_word_of_getElem? {place : Nat} (own : cs[place]? = some c)
    (letter : c.isAlphanum = true) :
    ∃ word, (words cs)[wordNumber cs place]? = some word ∧ c ∈ word := by
  apply exists_group_of_getElem?
  rcases List.getElem?_eq_some_iff.mp own with ⟨bound, here⟩
  have split : cs = cs.take place ++ c :: cs.drop (place + 1) := by
    rw [← here, List.cons_getElem_drop_succ, List.take_append_drop]
  rw [flatten_words, List.countP_eq_length_filter]
  conv in cs.filter Char.isAlphanum => rw [split]
  rw [List.filter_append, List.filter_cons_of_pos letter,
    List.getElem?_append_right (Nat.le_refl _), Nat.sub_self]
  rfl

/-- The number of the word grows by one at a boundary and stays the same elsewhere. -/
theorem wordNumber_next {place : Nat} (first : cs[place]? = some c)
    (second : cs[place + 1]? = some d) (letter : c.isAlphanum = true)
    (next : d.isAlphanum = true) :
    wordNumber cs (place + 1) =
      wordNumber cs place + if isWordBoundary c d cs[place + 2]? then 1 else 0 := by
  induction place generalizing cs with
  | zero =>
      rcases cs with _ | ⟨a, _ | ⟨b, cs⟩⟩
      · cases first
      · cases second
      · cases first
        cases second
        rw [wordNumber_succ, wordNumber_zero next, wordNumber_zero letter, letter,
          standsApart, next, List.head?_eq_getElem?]
        rfl
  | succ place ih =>
      cases cs with
      | nil => cases first
      | cons a cs =>
          rw [wordNumber_succ, wordNumber_succ, ih first second, Nat.add_right_comm]
          rfl

end WireSchema.Text
