import WireSchema.Proofs.Text.Words

namespace WireSchema.Text

/-!
# Words as a pattern finds them

The words of a name can also be found with a pattern: capitals in front of a capitalised word, a
word of small letters with or without a capital in front, capitals, or digits, tried in this order.
A run of characters is taken as long as the rest of the pattern allows it, so the preferred way of a
pattern may be a shorter run.  A scan looks for the pattern from left to right and goes on behind
what it has found.

What it finds are the words with their boundaries between two adjacent characters.  The step is that
the preferred way at a place is a run without a boundary inside and with one at its end; the rest
is an induction on the length of the text.
-/

/-! ## Patterns -/

/-- A pattern for the beginning of a text.  It stands for an ordered list of ways
to match, of which the first one that can be continued is taken. -/
inductive Pattern where
  /-- One character of a class. -/
  | one (kind : Char → Bool)
  /-- One or more characters of a class, rather more than fewer. -/
  | run (kind : Char → Bool)
  /-- One character of a class rather than none. -/
  | optional (kind : Char → Bool)
  | sequence (first second : Pattern)
  /-- The first pattern rather than the second one. -/
  | choice (first second : Pattern)
  /-- Nothing, where a pattern comes next. -/
  | ahead (next : Pattern)

namespace Pattern

/-- The way to take one character of a class from a text, with what is left. -/
def oneWays (kind : Char → Bool) : List Char → List (List Char × List Char)
  | [] => []
  | c :: cs => if kind c then [([c], cs)] else []

/-- The ways to take a run of a class from a text, the longest one first, each
with what is left.  All of them are needed, because what follows may refuse the
longest one. -/
def runWays (kind : Char → Bool) : List Char → List (List Char × List Char)
  | [] => []
  | c :: cs =>
      if kind c then
        (runWays kind cs).map (fun way => (c :: way.1, way.2)) ++ [([c], cs)]
      else []

/-- The ways to take a pattern from a text, the preferred one first, each with
what is left.  A search takes the first way; the others are those to which it
would come back when a later part fails. -/
def ways : Pattern → List Char → List (List Char × List Char)
  | one kind, cs => oneWays kind cs
  | run kind, cs => runWays kind cs
  | optional kind, cs => oneWays kind cs ++ [([], cs)]
  | sequence first second, cs =>
      (ways first cs).flatMap fun way =>
        (ways second way.2).map fun further => (way.1 ++ further.1, further.2)
  | choice first second, cs => ways first cs ++ ways second cs
  | ahead next, cs => if (ways next cs).isEmpty then [] else [([], cs)]

/-- What a pattern finds in a text, from left to right; `skip` characters belong to what was found
already. -/
def findFrom (pattern : Pattern) : Nat → List Char → List (List Char)
  | _, [] => []
  | skip + 1, _ :: cs => findFrom pattern skip cs
  | 0, c :: cs =>
      match (pattern.ways (c :: cs)).head? with
      | some way => way.1 :: findFrom pattern (way.1.length - 1) cs
      | none => findFrom pattern 0 cs

/-- Everything that a pattern finds in a text. -/
def findAll (pattern : Pattern) (cs : List Char) : List (List Char) :=
  findFrom pattern 0 cs

end Pattern

/-- Capitals in front of a capitalised word.  The last capital before a small
letter is left to the word that it begins. -/
def acronymPattern : Pattern :=
  .sequence (.run Char.isUpper) (.ahead (.sequence (.one Char.isUpper) (.one Char.isLower)))

/-- Small letters, with a capital in front if there is one. -/
def smallPattern : Pattern :=
  .sequence (.optional Char.isUpper) (.run Char.isLower)

def wordPattern : Pattern :=
  .choice acronymPattern (.choice smallPattern (.choice (.run Char.isUpper) (.run Char.isDigit)))

/-- A blank for a separator of names. -/
def blankFor (c : Char) : Char :=
  if c = '_' ∨ c = '-' then ' ' else c

/-- A text with blanks for the separators of names. -/
def separated (cs : List Char) : List Char :=
  cs.map blankFor

/-! ## Preferred ways -/

namespace Pattern

variable {kind : Char → Bool} {c : Char} {cs run after : List Char}

theorem runWays_of_not (other : ∀ c, cs.head? = some c → kind c = false) :
    runWays kind cs = [] := by
  cases cs with
  | nil => rfl
  | cons c cs =>
      rw [runWays, other c rfl]
      rfl

/-- The longest run is preferred. -/
theorem head?_runWays (own : kind c = true) :
    (runWays kind (c :: cs)).head? =
      some (c :: cs.takeWhile kind, cs.dropWhile kind) := by
  induction cs generalizing c with
  | nil =>
      rw [runWays, if_pos own]
      rfl
  | cons d cs ih =>
      rw [runWays, if_pos own, List.head?_append, List.head?_map]
      by_cases further : kind d = true
      · rw [ih further, List.takeWhile_cons_of_pos further, List.dropWhile_cons_of_pos further]
        rfl
      · rw [runWays, if_neg further, List.takeWhile_cons_of_neg further,
          List.dropWhile_cons_of_neg further]
        rfl

end Pattern

/-! ## The preferred way of each form -/

/-- Whether a text goes on with a capitalised word. -/
def goesOnCapitalised : List Char → Bool
  | c :: d :: _ => c.isUpper && d.isLower
  | _ => false

theorem ways_ahead_capitalised (cs : List Char) :
    (Pattern.ahead (.sequence (.one Char.isUpper) (.one Char.isLower))).ways cs =
      if goesOnCapitalised cs then [([], cs)] else [] := by
  cases cs with
  | nil => rfl
  | cons c cs =>
      cases cs with
      | nil =>
          cases capital : c.isUpper <;>
            simp [Pattern.ways, Pattern.oneWays, goesOnCapitalised, capital]
      | cons d cs =>
          cases capital : c.isUpper <;> cases small : d.isLower <;>
            simp [Pattern.ways, Pattern.oneWays, goesOnCapitalised, capital, small]

/-- An acronym is a run of capitals that a capitalised word follows. -/
theorem ways_acronymPattern (cs : List Char) :
    acronymPattern.ways cs =
      (Pattern.runWays Char.isUpper cs).filter fun way => goesOnCapitalised way.2 := by
  have single : ∀ way : List Char × List Char,
      ((if goesOnCapitalised way.2 then [([], way.2)] else []).map fun further =>
        (way.1 ++ further.1, further.2)) = if goesOnCapitalised way.2 then [way] else [] := by
    intro way
    split
    · rw [List.map_singleton, List.append_nil]
    · rfl
  rw [acronymPattern, Pattern.ways, Pattern.ways]
  simp only [ways_ahead_capitalised, single]
  induction Pattern.runWays Char.isUpper cs with
  | nil => rfl
  | cons way others ih =>
      rw [List.flatMap_cons, ih, List.filter_cons]
      split <;> rfl

theorem ways_acronymPattern_of_not {cs : List Char}
    (other : ∀ c, cs.head? = some c → c.isUpper = false) : acronymPattern.ways cs = [] := by
  rw [ways_acronymPattern, Pattern.runWays_of_not other, List.filter_nil]

/-- A capital goes in front of what is an acronym without it, and may be one by itself. -/
theorem ways_acronymPattern_cons {c : Char} (capital : c.isUpper = true) (cs : List Char) :
    acronymPattern.ways (c :: cs) =
      (acronymPattern.ways cs).map (fun way => (c :: way.1, way.2)) ++
        if goesOnCapitalised cs then [([c], cs)] else [] := by
  rw [ways_acronymPattern, ways_acronymPattern, Pattern.runWays, if_pos capital,
    List.filter_append, List.filter_map, List.filter_singleton]
  cases goesOnCapitalised cs <;> rfl

theorem goesOnCapitalised_of_isUpper {c d : Char} (capital : d.isUpper = true) (cs : List Char) :
    goesOnCapitalised (c :: d :: cs) = false := by
  rw [goesOnCapitalised, Bool.eq_false_iff.mpr (Char.not_isLower_of_isUpper capital),
    Bool.and_false]

/-- Before a capitalised word, everything but the last capital is taken as an acronym. -/
theorem ways_acronymPattern_capitalised {others : List Char} {last small : Char}
    (capitals : ∀ c ∈ others, c.isUpper = true) (capital : last.isUpper = true)
    (lower : small.isLower = true) (tail : List Char) :
    acronymPattern.ways (others ++ last :: small :: tail) =
      if others = [] then [] else [(others, last :: small :: tail)] := by
  have other := Bool.eq_false_iff.mpr (Char.not_isUpper_of_isLower lower)
  induction others with
  | nil =>
      have none : acronymPattern.ways (small :: tail) = [] :=
        ways_acronymPattern_of_not (by simpa using other)
      rw [List.nil_append, ways_acronymPattern_cons capital, none]
      cases tail <;> simp [goesOnCapitalised, other]
  | cons c others ih =>
      rcases List.forall_mem_cons.mp capitals with ⟨own, further⟩
      rw [List.cons_append, ways_acronymPattern_cons own, ih further]
      cases others with
      | nil => simp [goesOnCapitalised, capital, lower]
      | cons d others =>
          have second : goesOnCapitalised (d :: others ++ last :: small :: tail) = false := by
            cases others with
            | nil => exact goesOnCapitalised_of_isUpper capital _
            | cons e others => exact goesOnCapitalised_of_isUpper (further e (by simp)) _
          rw [second]
          rfl

/-- Capitals that no small letter follows hold no acronym. -/
theorem ways_acronymPattern_plain {run after : List Char} (capitals : ∀ c ∈ run, c.isUpper = true)
    (ends : ∀ c, after.head? = some c → c.isUpper = false)
    (plain : ∀ c, after.head? = some c → c.isLower = false) :
    acronymPattern.ways (run ++ after) = [] := by
  induction run with
  | nil => exact ways_acronymPattern_of_not ends
  | cons c run ih =>
      rcases List.forall_mem_cons.mp capitals with ⟨own, further⟩
      have none : goesOnCapitalised (run ++ after) = false := by
        cases run with
        | nil =>
            cases after with
            | nil => rfl
            | cons d after => cases after <;> simp [goesOnCapitalised, ends d rfl]
        | cons d run =>
            cases run with
            | nil =>
                cases after with
                | nil => rfl
                | cons e after => simp [goesOnCapitalised, plain e rfl]
            | cons e run => exact goesOnCapitalised_of_isUpper (further e (by simp)) _
      rw [List.cons_append, ways_acronymPattern_cons own, ih further, none]
      rfl

theorem ways_smallPattern (cs : List Char) :
    smallPattern.ways cs =
      ((Pattern.oneWays Char.isUpper cs).flatMap fun way =>
        (Pattern.runWays Char.isLower way.2).map fun further => (way.1 ++ further.1, further.2)) ++
        Pattern.runWays Char.isLower cs := by
  rw [smallPattern, Pattern.ways, Pattern.ways, List.flatMap_append, List.flatMap_singleton]
  simp only [Pattern.ways, List.nil_append, Prod.mk.eta, List.map_id']

theorem head?_ways_smallPattern_of_isLower {c : Char} (small : c.isLower = true) (cs : List Char) :
    (smallPattern.ways (c :: cs)).head? =
      some (c :: cs.takeWhile Char.isLower, cs.dropWhile Char.isLower) := by
  rw [ways_smallPattern, Pattern.oneWays, if_neg (Char.not_isUpper_of_isLower small),
    List.flatMap_nil, List.nil_append, Pattern.head?_runWays small]

theorem head?_ways_smallPattern_of_isUpper {c d : Char} (capital : c.isUpper = true)
    (small : d.isLower = true) (cs : List Char) :
    (smallPattern.ways (c :: d :: cs)).head? =
      some (c :: d :: cs.takeWhile Char.isLower, cs.dropWhile Char.isLower) := by
  rw [ways_smallPattern, Pattern.oneWays, if_pos capital, List.flatMap_singleton,
    List.head?_append, List.head?_map, Pattern.head?_runWays small]
  rfl

theorem ways_smallPattern_of_not {c : Char} {cs : List Char} (other : c.isLower = false)
    (plain : c.isUpper = true → ∀ d, cs.head? = some d → d.isLower = false) :
    smallPattern.ways (c :: cs) = [] := by
  have own : ∀ d, (c :: cs).head? = some d → d.isLower = false := by simpa using other
  rw [ways_smallPattern, Pattern.runWays_of_not own, Pattern.oneWays, List.append_nil]
  split
  · rename_i capital
    rw [List.flatMap_singleton, Pattern.runWays_of_not (plain capital), List.map_nil]
  · rfl

/-! ## Words at the beginning of a text -/

/-- A word at the beginning of a text: letters and digits with no boundary between two of them, and
a boundary behind the last one if another letter or digit follows. -/
inductive BeginsWord (rest : List Char) : List Char → Prop
  | last {c : Char} (letter : c.isAlphanum = true)
      (ends : ∀ d, rest.head? = some d → d.isAlphanum = true →
        isWordBoundary c d rest.tail.head? = true) : BeginsWord rest [c]
  | cons {c d : Char} {word : List Char} (letter : c.isAlphanum = true)
      (goesOn : isWordBoundary c d (word ++ rest).head? = false)
      (others : BeginsWord rest (d :: word)) : BeginsWord rest (c :: d :: word)

theorem BeginsWord.isAlphanum_head {c : Char} {word rest : List Char}
    (begins : BeginsWord rest (c :: word)) : c.isAlphanum = true := by
  cases begins with
  | last letter _ => exact letter
  | cons letter _ _ => exact letter

/-- The first word of a text is the one at its beginning. -/
theorem BeginsWord.words_append {word rest : List Char} (begins : BeginsWord rest word) :
    words (word ++ rest) = word :: words rest := by
  induction begins with
  | @last c letter ends =>
      cases rest with
      | nil => simp [words, letter]
      | cons d tail =>
          have apart : (d.isAlphanum && !isWordBoundary c d tail.head?) = false := by
            cases own : d.isAlphanum with
            | false => rfl
            | true =>
                have after := ends d rfl own
                rw [List.tail_cons] at after
                rw [after]
                rfl
          rw [List.singleton_append, words, if_pos letter]
          simp only [apart]
          rfl
  | @cons c d word letter goesOn others ih =>
      have joined : (d.isAlphanum && !isWordBoundary c d (word ++ rest).head?) = true := by
        rw [others.isAlphanum_head, goesOn]
        rfl
      rw [List.cons_append, List.cons_append, words, if_pos letter]
      simp only [joined, if_true]
      rw [← List.cons_append, ih]

/-- A run of a class whose characters hold together, up to where it ends. -/
theorem beginsWord_of_run {kind : Char → Bool} {run rest : List Char} (given : run ≠ [])
    (each : ∀ c ∈ run, kind c = true) (letters : ∀ c, kind c = true → c.isAlphanum = true)
    (inside : ∀ c d next, kind c = true → kind d = true →
      (∀ e, next = some e → kind e = true ∨ rest.head? = some e) → isWordBoundary c d next = false)
    (ends : ∀ c, kind c = true → ∀ d, rest.head? = some d → d.isAlphanum = true →
      isWordBoundary c d rest.tail.head? = true) : BeginsWord rest run := by
  induction run with
  | nil => exact absurd rfl given
  | cons c run ih =>
      rcases List.forall_mem_cons.mp each with ⟨own, others⟩
      cases run with
      | nil => exact .last (letters c own) (ends c own)
      | cons d run =>
          rcases List.forall_mem_cons.mp others with ⟨next, further⟩
          refine .cons (letters c own) (inside c d _ own next ?_)
            (ih (List.cons_ne_nil d run) others)
          intro e first
          cases run with
          | nil => exact .inr first
          | cons third run =>
              rw [← Option.some.inj first]
              exact .inl (further third List.mem_cons_self)

/-! ## The word at a place -/

theorem isDigit_of_isAlpha {c : Char} (letter : c.isAlpha = true) : c.isDigit = false := by
  rw [Bool.eq_false_iff]
  simp only [Char.isAlpha, Char.isUpper, Char.isLower, Char.isDigit, Bool.or_eq_true,
    Bool.and_eq_true, decide_eq_true_eq, UInt32.le_iff_toNat_le, ge_iff_le, ne_eq] at *
  simp at *
  omega

theorem isDigit_of_isLower {c : Char} (small : c.isLower = true) : c.isDigit = false :=
  isDigit_of_isAlpha (by rw [Char.isAlpha, small, Bool.or_true])

theorem isDigit_of_isUpper {c : Char} (capital : c.isUpper = true) : c.isDigit = false :=
  isDigit_of_isAlpha (by rw [Char.isAlpha, capital, Bool.true_or])

theorem isAlphanum_iff (c : Char) :
    c.isAlphanum = true ↔ c.isUpper = true ∨ c.isLower = true ∨ c.isDigit = true := by
  rw [Char.isAlphanum, Char.isAlpha, Bool.or_eq_true, Bool.or_eq_true, or_assoc]

/-- Behind a run that was taken as long as it goes, the class does not go on. -/
theorem head?_dropWhile_of_eq {kind : Char → Bool} {cs : List Char} {d : Char}
    (first : (cs.dropWhile kind).head? = some d) : kind d = false := by
  have := List.head?_dropWhile_not kind cs
  rw [first] at this
  simpa using this

theorem isLower_of_isDigit {c : Char} (digit : c.isDigit = true) : c.isLower = false :=
  Bool.eq_false_iff.mpr fun small => by simp [isDigit_of_isLower small] at digit

theorem isUpper_of_isDigit {c : Char} (digit : c.isDigit = true) : c.isUpper = false :=
  Bool.eq_false_iff.mpr fun capital => by simp [isDigit_of_isUpper capital] at digit

theorem isUpper_of_isLower {c : Char} (small : c.isLower = true) : c.isUpper = false :=
  Bool.eq_false_iff.mpr (Char.not_isUpper_of_isLower small)

theorem isLower_of_isUpper {c : Char} (capital : c.isUpper = true) : c.isLower = false :=
  Bool.eq_false_iff.mpr (Char.not_isLower_of_isUpper capital)

/-- Capitals hold together unless the second one begins a capitalised word. -/
theorem isWordBoundary_capitals {c d : Char} {next : Option Char} (first : c.isUpper = true)
    (second : d.isUpper = true) (plain : ∀ e, next = some e → e.isLower = false) :
    isWordBoundary c d next = false := by
  have none : (next.map Char.isLower).getD false = false := by
    cases next with
    | none => rfl
    | some e => exact plain e rfl
  simp [isWordBoundary, isDigit_of_isUpper, first, second, isLower_of_isUpper first, none]

theorem isWordBoundary_small {c d : Char} (first : c.isLower = true) (second : d.isLower = true)
    (next : Option Char) : isWordBoundary c d next = false := by
  simp [isWordBoundary, isDigit_of_isLower, first, second, isUpper_of_isLower second]

theorem isWordBoundary_digits {c d : Char} (first : c.isDigit = true) (second : d.isDigit = true)
    (next : Option Char) : isWordBoundary c d next = false := by
  simp [isWordBoundary, first, second, isLower_of_isDigit first, isUpper_of_isDigit first]

/-- Small letters up to where they end. -/
theorem beginsWord_small (cs : List Char) {c : Char} (small : c.isLower = true) :
    BeginsWord (cs.dropWhile Char.isLower) (c :: cs.takeWhile Char.isLower) := by
  have each : ∀ d ∈ c :: cs.takeWhile Char.isLower, Char.isLower d = true :=
    List.forall_mem_cons.mpr ⟨small, fun d member => List.mem_takeWhile_imp member⟩
  refine beginsWord_of_run (List.cons_ne_nil _ _) each ?_ ?_ ?_
  · exact fun d own => (isAlphanum_iff d).mpr (.inr (.inl own))
  · exact fun d e next first second _ => isWordBoundary_small first second next
  · intro d own e first letter
    have other := head?_dropWhile_of_eq first
    rcases (isAlphanum_iff e).mp letter with capital | lower | digit
    · simp [isWordBoundary, own, capital]
    · rw [lower] at other
      cases other
    · simp [isWordBoundary, isDigit_of_isLower own, digit]

/-- Digits up to where they end. -/
theorem beginsWord_digits (cs : List Char) {c : Char} (digit : c.isDigit = true) :
    BeginsWord (cs.dropWhile Char.isDigit) (c :: cs.takeWhile Char.isDigit) := by
  have each : ∀ d ∈ c :: cs.takeWhile Char.isDigit, Char.isDigit d = true :=
    List.forall_mem_cons.mpr ⟨digit, fun d member => List.mem_takeWhile_imp member⟩
  refine beginsWord_of_run (List.cons_ne_nil _ _) each ?_ ?_ ?_
  · exact fun d own => (isAlphanum_iff d).mpr (.inr (.inr own))
  · exact fun d e next first second _ => isWordBoundary_digits first second next
  · intro d own e first _
    simp [isWordBoundary, own, head?_dropWhile_of_eq first]

/-- Capitals up to where they end, if no small letter follows. -/
theorem beginsWord_capitals {run rest : List Char} (given : run ≠ [])
    (capitals : ∀ c ∈ run, c.isUpper = true)
    (ends : ∀ c, rest.head? = some c → c.isUpper = false)
    (plain : ∀ c, rest.head? = some c → c.isLower = false) : BeginsWord rest run := by
  refine beginsWord_of_run given capitals ?_ ?_ ?_
  · exact fun d own => (isAlphanum_iff d).mpr (.inl own)
  · exact fun d e next first second further => isWordBoundary_capitals first second
      fun f own => (further f own).elim isLower_of_isUpper (plain f)
  · intro d own e first letter
    rcases (isAlphanum_iff e).mp letter with capital | small | digit
    · rw [ends e first] at capital
      cases capital
    · rw [plain e first] at small
      cases small
    · simp [isWordBoundary, isDigit_of_isUpper own, digit]

/-- Capitals up to a capitalised word. -/
theorem beginsWord_acronym {run tail : List Char} {last small : Char} (given : run ≠ [])
    (capitals : ∀ c ∈ run, c.isUpper = true) (capital : last.isUpper = true)
    (lower : small.isLower = true) : BeginsWord (last :: small :: tail) run := by
  refine beginsWord_of_run given capitals ?_ ?_ ?_
  · exact fun d own => (isAlphanum_iff d).mpr (.inl own)
  · intro d e next first second further
    apply isWordBoundary_capitals first second
    intro f own
    rcases further f own with another | behind
    · exact isLower_of_isUpper another
    · cases behind
      exact isLower_of_isUpper capital
  · intro d own e first _
    cases first
    simp [isWordBoundary, own, capital, lower]

/-- At a letter or digit the pattern takes the word that begins there.  This is
the step of the search through a text, which goes on behind the word. -/
def TakesWord (cs : List Char) : Prop :=
  ∃ word rest, (wordPattern.ways cs).head? = some (word, rest) ∧ word ++ rest = cs ∧
    BeginsWord rest word

theorem ways_wordPattern (cs : List Char) :
    wordPattern.ways cs =
      acronymPattern.ways cs ++ (smallPattern.ways cs ++
        (Pattern.runWays Char.isUpper cs ++ Pattern.runWays Char.isDigit cs)) := rfl

theorem takesWord_of_isLower {c : Char} (small : c.isLower = true) (cs : List Char) :
    TakesWord (c :: cs) := by
  refine ⟨c :: cs.takeWhile Char.isLower, cs.dropWhile Char.isLower, ?_, ?_,
    beginsWord_small cs small⟩
  · rw [ways_wordPattern, ways_acronymPattern_of_not (by simpa using isUpper_of_isLower small),
      List.nil_append, List.head?_append, head?_ways_smallPattern_of_isLower small]
    rfl
  · rw [List.cons_append, List.takeWhile_append_dropWhile]

theorem takesWord_of_isDigit {c : Char} (digit : c.isDigit = true) (cs : List Char) :
    TakesWord (c :: cs) := by
  refine ⟨c :: cs.takeWhile Char.isDigit, cs.dropWhile Char.isDigit, ?_, ?_,
    beginsWord_digits cs digit⟩
  · have noCapital : ∀ d, (c :: cs).head? = some d → d.isUpper = false := by
      simpa using isUpper_of_isDigit digit
    have noSmall : smallPattern.ways (c :: cs) = [] :=
      ways_smallPattern_of_not (isLower_of_isDigit digit) fun capital => by
        rw [isUpper_of_isDigit digit] at capital
        cases capital
    rw [ways_wordPattern, ways_acronymPattern_of_not noCapital, noSmall,
      Pattern.runWays_of_not noCapital]
    exact Pattern.head?_runWays digit
  · rw [List.cons_append, List.takeWhile_append_dropWhile]

/-- Of capitals before a small letter, the last one belongs to the small letters. -/
theorem takesWord_capitalised {others : List Char} {last small : Char}
    (capitals : ∀ c ∈ others, c.isUpper = true) (capital : last.isUpper = true)
    (lower : small.isLower = true) (tail : List Char) :
    TakesWord (others ++ last :: small :: tail) := by
  have acronym := ways_acronymPattern_capitalised capitals capital lower tail
  by_cases single : others = []
  · subst single
    refine ⟨last :: small :: tail.takeWhile Char.isLower, tail.dropWhile Char.isLower, ?_, ?_, ?_⟩
    · rw [if_pos rfl] at acronym
      rw [ways_wordPattern, acronym, List.nil_append, List.head?_append, List.nil_append,
        head?_ways_smallPattern_of_isUpper capital lower]
      rfl
    · simp [List.takeWhile_append_dropWhile]
    · refine .cons ((isAlphanum_iff last).mpr (.inl capital)) ?_ (beginsWord_small tail lower)
      simp [isWordBoundary, isDigit_of_isUpper capital, isDigit_of_isLower lower,
        isLower_of_isUpper capital, isUpper_of_isLower lower]
  · refine ⟨others, last :: small :: tail, ?_, rfl,
      beginsWord_acronym single capitals capital lower⟩
    rw [if_neg single] at acronym
    rw [ways_wordPattern, acronym]
    rfl

/-- Capitals that no small letter follows are a word. -/
theorem takesWord_capitals {c : Char} {cs : List Char} (capital : c.isUpper = true)
    (plain : ∀ d, (cs.dropWhile Char.isUpper).head? = some d → d.isLower = false) :
    TakesWord (c :: cs) := by
  have each : ∀ d ∈ c :: cs.takeWhile Char.isUpper, Char.isUpper d = true :=
    List.forall_mem_cons.mpr ⟨capital, fun d member => List.mem_takeWhile_imp member⟩
  have whole : (c :: cs.takeWhile Char.isUpper) ++ cs.dropWhile Char.isUpper = c :: cs := by
    rw [List.cons_append, List.takeWhile_append_dropWhile]
  have ends : ∀ d, (cs.dropWhile Char.isUpper).head? = some d → d.isUpper = false :=
    fun d first => head?_dropWhile_of_eq first
  have noAcronym : acronymPattern.ways (c :: cs) = [] := by
    rw [← whole]
    exact ways_acronymPattern_plain each ends plain
  have noSmall : smallPattern.ways (c :: cs) = [] := by
    apply ways_smallPattern_of_not (isLower_of_isUpper capital)
    intro _ d first
    rcases List.head?_eq_some_iff.mp first with ⟨tail, rfl⟩
    by_cases another : d.isUpper = true
    · exact isLower_of_isUpper another
    · exact plain d (by rw [List.dropWhile_cons_of_neg another]; rfl)
  refine ⟨c :: cs.takeWhile Char.isUpper, cs.dropWhile Char.isUpper, ?_, whole,
    beginsWord_capitals (List.cons_ne_nil _ _) each ends plain⟩
  rw [ways_wordPattern, noAcronym, noSmall, List.nil_append, List.nil_append, List.head?_append,
    Pattern.head?_runWays capital]
  rfl

/-- Capitals end before a small letter or before something else. -/
theorem takesWord_of_isUpper {c : Char} (capital : c.isUpper = true) (cs : List Char) :
    TakesWord (c :: cs) := by
  by_cases follows : ∃ small tail, cs.dropWhile Char.isUpper = small :: tail ∧ small.isLower = true
  · rcases follows with ⟨small, tail, behind, lower⟩
    have each : ∀ d ∈ c :: cs.takeWhile Char.isUpper, Char.isUpper d = true :=
      List.forall_mem_cons.mpr ⟨capital, fun d member => List.mem_takeWhile_imp member⟩
    have whole : (c :: cs.takeWhile Char.isUpper) ++ small :: tail = c :: cs := by
      rw [← behind, List.cons_append, List.takeWhile_append_dropWhile]
    rcases List.eq_nil_or_concat (c :: cs.takeWhile Char.isUpper) with empty | ⟨others, last, split⟩
    · cases empty
    · rw [List.concat_eq_append] at split
      rw [split, List.append_assoc, List.singleton_append] at whole
      rw [split] at each
      rw [← whole]
      exact takesWord_capitalised (fun d member => each d (by simp [member])) (each last (by simp))
        lower tail
  · refine takesWord_capitals capital fun d first => Bool.eq_false_iff.mpr fun lower => ?_
    rcases List.head?_eq_some_iff.mp first with ⟨tail, behind⟩
    exact follows ⟨d, tail, behind, lower⟩

theorem takesWord_of_isAlphanum {c : Char} (letter : c.isAlphanum = true) (cs : List Char) :
    TakesWord (c :: cs) := by
  rcases (isAlphanum_iff c).mp letter with capital | small | digit
  · exact takesWord_of_isUpper capital cs
  · exact takesWord_of_isLower small cs
  · exact takesWord_of_isDigit digit cs

/-- At any other character the pattern takes nothing. -/
theorem ways_wordPattern_of_not {c : Char} (other : c.isAlphanum = false) (cs : List Char) :
    wordPattern.ways (c :: cs) = [] := by
  have none : c.isUpper = false ∧ c.isLower = false ∧ c.isDigit = false := by
    simpa [Char.isAlphanum, Char.isAlpha, and_assoc] using other
  rcases none with ⟨noCapital, noSmall, noDigit⟩
  have first : ∀ d, (c :: cs).head? = some d → d.isUpper = false := by simpa using noCapital
  have small : smallPattern.ways (c :: cs) = [] :=
    ways_smallPattern_of_not noSmall fun capital => by
      rw [noCapital] at capital
      cases capital
  rw [ways_wordPattern, ways_acronymPattern_of_not first, small, Pattern.runWays_of_not first,
    Pattern.runWays_of_not (by simpa using noDigit)]
  rfl

/-! ## The scan -/

theorem findFrom_eq_drop (pattern : Pattern) (skip : Nat) (cs : List Char) :
    pattern.findFrom skip cs = pattern.findFrom 0 (cs.drop skip) := by
  induction cs generalizing skip with
  | nil => cases skip <;> rfl
  | cons c cs ih =>
      cases skip with
      | zero => rfl
      | succ skip => exact ih skip

theorem words_of_not {c : Char} (other : c.isAlphanum = false) (cs : List Char) :
    words (c :: cs) = words cs := by
  cases cs <;> simp [words, other]

/-- The induction is on the length of the text: at a letter or digit both go on behind the word that
begins there. -/
theorem findAll_wordPattern (cs : List Char) : wordPattern.findAll cs = words cs := by
  induction length : cs.length using Nat.strong_induction_on generalizing cs with
  | _ size ih =>
      cases cs with
      | nil => rfl
      | cons c cs =>
          cases letter : c.isAlphanum with
          | false =>
              rw [words_of_not letter, ← ih cs.length (by simp [← length]) cs rfl,
                Pattern.findAll, Pattern.findFrom, ways_wordPattern_of_not letter]
              rfl
          | true =>
              rcases takesWord_of_isAlphanum letter cs with ⟨word, rest, preferred, whole, begins⟩
              cases word with
              | nil => cases begins
              | cons first word =>
                  rcases List.cons.inj whole with ⟨rfl, tail⟩
                  have behind : cs.drop word.length = rest := by
                    rw [← tail]
                    exact List.drop_left
                  have shorter : rest.length < size := by
                    rw [← length, ← tail]
                    simp
                  rw [← whole, begins.words_append, ← ih rest.length shorter rest rfl, whole,
                    Pattern.findAll, Pattern.findFrom, preferred]
                  simp only
                  rw [List.length_cons, Nat.add_sub_cancel, findFrom_eq_drop, behind]
                  rfl

/-! ## Separators -/

theorem blankFor_of_isAlphanum {c : Char} (letter : c.isAlphanum = true) : blankFor c = c := by
  rw [blankFor, if_neg]
  rintro (rfl | rfl) <;> cases letter

/-- A class that has all separators or none does not tell them apart. -/
theorem kind_blankFor {kind : Char → Bool} (underscore : kind ' ' = kind '_')
    (hyphen : kind ' ' = kind '-') (c : Char) : kind (blankFor c) = kind c := by
  rw [blankFor]
  split
  · rename_i separator
    rcases separator with rfl | rfl
    · exact underscore
    · exact hyphen
  · rfl

/-- Blanks separate as underscores and hyphens do. -/
theorem words_separated (cs : List Char) : words (separated cs) = words cs := by
  have isAlphanum_blankFor : ∀ c, (blankFor c).isAlphanum = c.isAlphanum := kind_blankFor rfl rfl
  have isLower_blankFor : ∀ c, (blankFor c).isLower = c.isLower := kind_blankFor rfl rfl
  rw [separated]
  induction cs with
  | nil => rfl
  | cons c cs ih =>
      cases letter : c.isAlphanum with
      | false =>
          rw [List.map_cons, words_of_not letter,
            words_of_not (by rw [isAlphanum_blankFor, letter]), ih]
      | true =>
          rw [List.map_cons, blankFor_of_isAlphanum letter]
          cases cs with
          | nil => rfl
          | cons d cs =>
              have ahead : ((cs.map blankFor).head?.map Char.isLower) =
                  cs.head?.map Char.isLower := by
                cases cs with
                | nil => rfl
                | cons e cs => exact congrArg some (isLower_blankFor e)
              rw [List.map_cons] at ih ⊢
              cases second : d.isAlphanum with
              | false =>
                  simp [words, letter, isAlphanum_blankFor, second, ih]
              | true =>
                  rw [blankFor_of_isAlphanum second] at ih ⊢
                  simp only [words, letter, second, isWordBoundary, ahead, ih, if_true]

end WireSchema.Text
