import WireSchema.Proofs.TypeExpr.Grammar

namespace WireSchema.TypeExpr

/-!
# Reading types exactly

The reader accepts exactly what the grammar derives.  Soundness (what is read is derived) follows
the reader and holds of every beginning of a text.  Completeness (what is derived is read) follows
the derivation, and holds only where no opening bracket comes next: `Page` alone is derived from the
beginning of `Page[User]`, but the reader goes on to the arguments.  In a whole text a comma, a
closing bracket or the end comes next.

As the reader has one result at most, the grammar is unambiguous.
-/

/-! ## What is read is derived -/

/-- A name that a reader takes: a longest run where no mark begins. -/
theorem isNameBefore_of_read {cs : List Char} (nonempty : cs.takeWhile isNameChar ≠ [])
    (noMap : Text.afterLeading? mapMark cs = none)
    (noAny : Text.afterLeading? anyMarkText.toList cs = none) :
    IsNameBefore (cs.takeWhile isNameChar) (cs.dropWhile isNameChar) where
  nonempty := nonempty
  chars _ member := List.mem_takeWhile_imp member
  longest := by
    intro c first
    have stop := List.head?_dropWhile_not isNameChar cs
    rw [Option.mem_def.mp first] at stop
    exact stop
  noMap := by
    rw [List.takeWhile_append_dropWhile]
    exact Text.afterLeading?_eq_none_iff.mp noMap
  noAny := by
    rw [List.takeWhile_append_dropWhile]
    exact Text.afterLeading?_eq_none_iff.mp noAny

namespace Derives

variable {elem key value : TypeExpr} {source inner after before rest : List Char}

/-! The rules as a reader applies them, which has skipped the white space of each. -/

theorem of_pointer (begins : skipBlanks source = '*' :: inner) (own : Derives elem inner rest) :
    Derives (.pointer elem) source rest := by
  rcases exists_blanks source with ⟨blanks, blank, whole⟩
  rw [whole, begins]
  exact .pointer blank own

theorem of_sequence (begins : skipBlanks source = '[' :: ']' :: inner)
    (own : Derives elem inner rest) : Derives (.sequence elem) source rest := by
  rcases exists_blanks source with ⟨blanks, blank, whole⟩
  rw [whole, begins]
  exact .sequence blank own

theorem of_mapping (begins : skipBlanks source = mapMark ++ inner)
    (first : Derives key inner before) (closing : skipBlanks before = ']' :: after)
    (second : Derives value after rest) : Derives (.mapping key value) source rest := by
  rcases exists_blanks source with ⟨blanks, blank, whole⟩
  rcases exists_blanks before with ⟨gap, gapBlank, between⟩
  rw [closing] at between
  rw [whole, begins]
  exact .mapping blank (between ▸ first) gapBlank second

theorem of_any (begins : skipBlanks source = anyMarkText.toList ++ rest) :
    Derives (.named anyMarkText "") source rest := by
  rcases exists_blanks source with ⟨blanks, blank, whole⟩
  rw [whole, begins]
  exact .any blank

theorem of_name
    (named : IsNameBefore ((skipBlanks source).takeWhile isNameChar)
      ((skipBlanks source).dropWhile isNameChar)) :
    Derives (ofName ((skipBlanks source).takeWhile isNameChar)) source
      ((skipBlanks source).dropWhile isNameChar) := by
  rcases exists_blanks source with ⟨blanks, blank, whole⟩
  have derivation := derives_ofName blank named
  rwa [List.takeWhile_append_dropWhile, ← whole] at derivation

theorem of_generic {args : List TypeExpr}
    (named : IsNameBefore ((skipBlanks source).takeWhile isNameChar)
      ((skipBlanks source).dropWhile isNameChar))
    (opening : skipBlanks ((skipBlanks source).dropWhile isNameChar) = '[' :: inner)
    (own : DerivesArgs args inner rest) :
    Derives (.generic (String.ofList ((skipBlanks source).takeWhile isNameChar)) args) source
      rest := by
  rcases exists_blanks source with ⟨blanks, blank, whole⟩
  rcases exists_blanks ((skipBlanks source).dropWhile isNameChar) with ⟨gap, gapBlank, between⟩
  rw [opening] at between
  have derivation := Derives.generic blank (between ▸ named) gapBlank own
  rwa [← between, List.takeWhile_append_dropWhile, ← whole] at derivation

end Derives

mutual

theorem derives_of_readExpr {source : List Char} {parsed : Parsed TypeExpr source}
    (read : readExpr source = .ok parsed) : Derives parsed.value source parsed.rest := by
  rw [readExpr] at read
  split at read
  · rename_i inner marked
    have left := length_lt_of_mark (List.cons_ne_nil _ _) marked
    split at read
    · rename_i elem own
      cases read
      exact .of_pointer (Text.afterLeading?_eq_some_iff.mp marked) (derives_of_readExpr own)
    · cases read
  split at read
  · rename_i inner marked
    have left := length_lt_of_mark (List.cons_ne_nil _ _) marked
    split at read
    · rename_i elem own
      cases read
      exact .of_sequence (Text.afterLeading?_eq_some_iff.mp marked) (derives_of_readExpr own)
    · cases read
  split at read
  · rename_i inner marked
    have left := length_lt_of_mark (List.cons_ne_nil _ _) marked
    split at read
    · cases read
    · rename_i key first
      split at read
      · rename_i after closing
        have leftAfter : after.length < source.length :=
          Nat.lt_trans (length_lt_of_skip closing) (Nat.lt_trans key.shorter left)
        split at read
        · rename_i value second
          cases read
          exact .of_mapping (Text.afterLeading?_eq_some_iff.mp marked) (derives_of_readExpr first)
            closing (derives_of_readExpr second)
        · cases read
      · cases read
  rename_i noMap
  split at read
  · rename_i rest marked
    cases read
    exact .of_any (Text.afterLeading?_eq_some_iff.mp marked)
  rename_i noAny
  split at read
  · cases read
  rename_i nonempty
  have named := isNameBefore_of_read nonempty noMap noAny
  have left := length_lt_of_name nonempty
  split at read
  · rename_i inner opening
    have leftInner : inner.length < source.length :=
      Nat.lt_trans (length_lt_of_skip opening) left
    split at read
    · rename_i args own
      cases read
      exact .of_generic named opening (derivesArgs_of_readArgs own)
    · cases read
  · cases read
    exact .of_name named
termination_by (source.length, 0)
decreasing_by all_goals exact Prod.Lex.left _ _ (by assumption)

theorem derivesArgs_of_readArgs {source : List Char} {parsed : Parsed (List TypeExpr) source}
    (read : readArgs source = .ok parsed) : DerivesArgs parsed.value source parsed.rest := by
  rw [readArgs] at read
  split at read
  · cases read
  rename_i first own
  have derivation := derives_of_readExpr own
  rcases exists_blanks first.rest with ⟨gap, gapBlank, between⟩
  split at read
  · rename_i inner punctuation
    have left : inner.length < source.length :=
      Nat.lt_trans (length_lt_of_skip punctuation) first.shorter
    rw [punctuation] at between
    split at read
    · rename_i others further
      cases read
      exact .more (between ▸ derivation) gapBlank (derivesArgs_of_readArgs further)
    · cases read
  · rename_i rest punctuation
    rw [punctuation] at between
    cases read
    exact .last (between ▸ derivation) gapBlank
  · cases read
termination_by (source.length, 1)
decreasing_by
  · exact Prod.Lex.right _ Nat.zero_lt_one
  · exact Prod.Lex.left _ _ left

end

/-! ## What is derived is read -/

/-- A reader takes a type from the beginning of a text and leaves the rest.
Stated for values only: a result carries its own proof that the rest is
shorter. -/
def Reads (type : TypeExpr) (source rest : List Char) : Prop :=
  ∃ parsed, readExpr source = .ok parsed ∧ parsed.value = type ∧ parsed.rest = rest

/-- A reader takes arguments and their closing bracket from the beginning of a
text.  It is the counterpart of `DerivesArgs` on the side of the program. -/
def ReadsArgs (args : List TypeExpr) (source rest : List Char) : Prop :=
  ∃ parsed, readArgs source = .ok parsed ∧ parsed.value = args ∧ parsed.rest = rest

/-- No opening bracket comes next. -/
def IsClosed (rest : List Char) : Prop :=
  ∀ inner, skipBlanks rest ≠ '[' :: inner

theorem isClosed_append {blanks rest : List Char} {c : Char} (blank : IsBlankRun blanks)
    (solid : Text.isBlank c = false) (other : c ≠ '[') : IsClosed (blanks ++ c :: rest) := by
  intro inner opening
  rw [skipBlanks_append blank solid, List.cons.injEq] at opening
  exact other opening.1

/-- A text begins with one character only. -/
theorem unmarked {c d : Char} {mark cs source inner : List Char}
    (begins : skipBlanks source = d :: cs) (other : c ≠ d) :
    Text.afterLeading? (c :: mark) (skipBlanks source) ≠ some inner := by
  rw [begins, Text.afterLeading?, if_neg other]
  rintro ⟨⟩

section

variable {elem key value : TypeExpr} {args : List TypeExpr}
  {source inner name after before rest : List Char}

theorem reads_pointer (begins : skipBlanks source = '*' :: inner) (own : Reads elem inner rest) :
    Reads (.pointer elem) source rest := by
  rcases own with ⟨parsed, read, rfl, rfl⟩
  have marked : Text.afterLeading? ['*'] (skipBlanks source) = some inner :=
    Text.afterLeading?_eq_some_iff.mpr begins
  rw [Reads, readExpr]
  split
  · rename_i other again
    cases marked.symm.trans again
    simp [read]
  · rename_i none
    cases marked.symm.trans none

theorem reads_sequence (begins : skipBlanks source = '[' :: ']' :: inner)
    (own : Reads elem inner rest) : Reads (.sequence elem) source rest := by
  rcases own with ⟨parsed, read, rfl, rfl⟩
  have marked : Text.afterLeading? ['[', ']'] (skipBlanks source) = some inner :=
    Text.afterLeading?_eq_some_iff.mpr begins
  rw [Reads, readExpr]
  split
  · rename_i other again
    exact absurd again (unmarked begins (by decide))
  split
  · rename_i other again
    cases marked.symm.trans again
    simp [read]
  · rename_i none
    cases marked.symm.trans none

theorem reads_mapping (begins : skipBlanks source = mapMark ++ inner)
    (first : Reads key inner before) (closing : skipBlanks before = ']' :: after)
    (second : Reads value after rest) : Reads (.mapping key value) source rest := by
  rcases first with ⟨parsedKey, readKey, rfl, rfl⟩
  rcases second with ⟨parsed, read, rfl, rfl⟩
  have marked : Text.afterLeading? mapMark (skipBlanks source) = some inner :=
    Text.afterLeading?_eq_some_iff.mpr begins
  rw [Reads, readExpr]
  split
  · rename_i other again
    exact absurd again (unmarked begins (by decide))
  split
  · rename_i other again
    exact absurd again (unmarked begins (by decide))
  split
  · rename_i other again
    cases marked.symm.trans again
    simp only [readKey]
    split
    · rename_i afterKey again
      cases closing.symm.trans again
      simp [read]
    · rename_i unclosed
      exact absurd closing (unclosed after)
  · rename_i none
    cases marked.symm.trans none

theorem reads_any (begins : skipBlanks source = anyMarkText.toList ++ rest) :
    Reads (.named anyMarkText "") source rest := by
  have marked := Text.afterLeading?_eq_some_iff.mpr begins
  rw [Reads, readExpr]
  split
  · rename_i other again
    exact absurd again (unmarked begins (by decide))
  split
  · rename_i other again
    exact absurd again (unmarked begins (by decide))
  split
  · rename_i other again
    exact absurd again (unmarked begins (by decide))
  split
  · rename_i other again
    cases marked.symm.trans again
    simp
  · rename_i none
    cases marked.symm.trans none

/-- Where a name begins, a reader comes to it and looks for an opening bracket behind it. -/
theorem readExpr_of_name (begins : skipBlanks source = name ++ rest)
    (named : IsNameBefore name rest) :
    (IsClosed rest → Reads (ofName name) source rest) ∧
      ∀ inner, skipBlanks rest = '[' :: inner → ∀ args after, ReadsArgs args inner after →
        Reads (.generic (String.ofList name) args) source after := by
  have run : (skipBlanks source).takeWhile isNameChar = name := begins ▸ named.takeWhile_eq
  have left : (skipBlanks source).dropWhile isNameChar = rest := begins ▸ named.dropWhile_eq
  unfold Reads
  rw [readExpr]
  split
  · rename_i other again
    cases (begins ▸ named.afterLeading?_eq_none (by decide)).symm.trans again
  split
  · rename_i other again
    cases (begins ▸ named.afterLeading?_eq_none (by decide)).symm.trans again
  split
  · rename_i other again
    cases (begins ▸ Text.afterLeading?_eq_none_iff.mpr named.noMap).symm.trans again
  split
  · rename_i other again
    cases (begins ▸ Text.afterLeading?_eq_none_iff.mpr named.noAny).symm.trans again
  split
  · rename_i empty
    exact absurd (run.symm.trans empty) named.nonempty
  split
  · rename_i inner opening
    rw [left] at opening
    refine ⟨fun closed => absurd opening (closed inner), ?_⟩
    rintro other again args after ⟨parsed, read, rfl, rfl⟩
    cases opening.symm.trans again
    simp [read, run]
  · rename_i unopened
    rw [left] at unopened
    refine ⟨fun _ => by simp [run, left], ?_⟩
    intro inner opening
    exact absurd opening (unopened inner)

theorem readsArgs_last (own : Reads elem source before)
    (closing : skipBlanks before = ']' :: rest) : ReadsArgs [elem] source rest := by
  rcases own with ⟨parsed, read, rfl, rfl⟩
  rw [ReadsArgs, readArgs]
  simp only [read]
  split
  · rename_i inner comma
    cases closing.symm.trans comma
  · rename_i other again
    cases closing.symm.trans again
    simp
  · rename_i unclosed
    exact absurd closing (unclosed rest)

theorem readsArgs_more (own : Reads elem source before)
    (comma : skipBlanks before = ',' :: after) (others : ReadsArgs args after rest) :
    ReadsArgs (elem :: args) source rest := by
  rcases own with ⟨parsed, read, rfl, rfl⟩
  rcases others with ⟨further, readOthers, rfl, rfl⟩
  rw [ReadsArgs, readArgs]
  simp only [read]
  split
  · rename_i inner again
    cases comma.symm.trans again
    simp [readOthers]
  · rename_i other closing
    cases comma.symm.trans closing
  · rename_i unseparated _
    exact absurd comma (unseparated after)

end

mutual

/-- A derived type is read where no opening bracket comes next.  The induction is on the type; what
comes after a part of it is always the mark that the rule puts there, which closes the part. -/
theorem reads_of_derives : (type : TypeExpr) → {source rest : List Char} →
    Derives type source rest → IsClosed rest → Reads type source rest
  | .named _ _, _, _, derivation, closed => by
      cases derivation with
      | any blank => exact reads_any (skipBlanks_append blank (by decide))
      | plain blank named pointless =>
          rw [← ofName_of_pointless pointless]
          exact (readExpr_of_name (named.skipBlanks_eq blank) named).1 closed
      | qualified blank named pointless =>
          rw [← ofName_of_point pointless]
          exact (readExpr_of_name (named.skipBlanks_eq blank) named).1 closed
  | .pointer elem, _, _, derivation, closed => by
      cases derivation with
      | pointer blank own =>
          exact reads_pointer (skipBlanks_append blank (by decide))
            (reads_of_derives elem own closed)
  | .sequence elem, _, _, derivation, closed => by
      cases derivation with
      | sequence blank own =>
          exact reads_sequence (skipBlanks_append blank (by decide))
            (reads_of_derives elem own closed)
  | .mapping key value, _, _, derivation, closed => by
      cases derivation with
      | mapping blank first gapBlank second =>
          have solid : Text.isBlank ']' = false := by decide
          exact reads_mapping (skipBlanks_append blank (by decide))
            (reads_of_derives key first (isClosed_append gapBlank solid (by decide)))
            (skipBlanks_append gapBlank solid) (reads_of_derives value second closed)
  | .generic _ args, _, _, derivation, _ => by
      cases derivation with
      | generic blank named gapBlank own =>
          exact (readExpr_of_name (named.skipBlanks_eq blank) named).2 _
            (skipBlanks_append gapBlank (by decide)) _ _ (readsArgs_of_derivesArgs args own)

theorem readsArgs_of_derivesArgs : (args : List TypeExpr) → {source rest : List Char} →
    DerivesArgs args source rest → ReadsArgs args source rest
  | [], _, _, derivation => by cases derivation
  | arg :: args, _, _, derivation => by
      cases derivation with
      | last own gapBlank =>
          have solid : Text.isBlank ']' = false := by decide
          exact readsArgs_last
            (reads_of_derives arg own (isClosed_append gapBlank solid (by decide)))
            (skipBlanks_append gapBlank solid)
      | more own gapBlank others =>
          have solid : Text.isBlank ',' = false := by decide
          exact readsArgs_more
            (reads_of_derives arg own (isClosed_append gapBlank solid (by decide)))
            (skipBlanks_append gapBlank solid) (readsArgs_of_derivesArgs args others)

end

/-- A derivation of a whole text is what the reader makes of it. -/
theorem parse_eq_ok_iff {text : String} {type : TypeExpr} :
    parse text = .ok type ↔ IsNotation type text := by
  constructor
  · intro parsed
    rw [parse] at parsed
    split at parsed
    · cases parsed
    · rename_i found read
      split at parsed
      · rename_i ended
        cases parsed
        refine ⟨found.rest, ?_, derives_of_readExpr read⟩
        exact List.dropWhile_eq_nil_iff.mp (List.isEmpty_iff.mp ended)
      · cases parsed
  · rintro ⟨trailing, blank, derivation⟩
    have closed : IsClosed trailing := by
      intro inner opening
      rw [skipBlanks_of_blank blank] at opening
      cases opening
    rcases reads_of_derives type derivation closed with ⟨parsed, read, rfl, rfl⟩
    rw [parse, read]
    simp [skipBlanks_of_blank blank]

/-- The reader accepts exactly the grammar.  It returns a type if and only if the text is a notation
of it, and fails on every other text.  No text is a notation of two types. -/
theorem parse_exact (text : String) :
    (∀ type, parse text = .ok type ↔ IsNotation type text) ∧
      ((∃ fault, parse text = .error fault) ↔ ∀ type, ¬IsNotation type text) ∧
      ∀ type other, IsNotation type text → IsNotation other text → type = other := by
  refine ⟨fun type => parse_eq_ok_iff, ?_, ?_⟩
  · constructor
    · rintro ⟨fault, refused⟩ type derived
      cases refused.symm.trans (parse_eq_ok_iff.mpr derived)
    · intro underivable
      cases result : parse text with
      | error fault => exact ⟨fault, rfl⟩
      | ok type => exact absurd (parse_eq_ok_iff.mp result) (underivable type)
  · intro type other first second
    have same := (parse_eq_ok_iff.mpr first).symm.trans (parse_eq_ok_iff.mpr second)
    exact Except.ok.inj same

/-- The text ` map[ K ]*P [[]p.U , V]` and a line feed, with white space at all kinds of places
where it may stand. -/
def spacedText : List Char :=
  [' ', 'm', 'a', 'p', '[', ' ', 'K', ' ', ']', '*', 'P', ' ', '[', '[', ']', 'p', '.',
    'U', ' ', ',', ' ', 'V', ']', '\n']

def spacedType : TypeExpr :=
  .mapping (.named "K" "") (.pointer (.generic "P" [.sequence (.named "U" "p"), .named "V" ""]))

theorem isNotation_spacedText : IsNotation spacedType (String.ofList spacedText) := by
  have none : IsBlankRun [] := by decide
  have one : IsBlankRun [' '] := by decide
  have key : Derives (.named "K" "") (spacedText.drop 5) (spacedText.drop 7) :=
    .plain one (show IsNameBefore ['K'] (spacedText.drop 7) by decide) (by decide)
  have first : Derives (.named "U" "p") (spacedText.drop 15) (spacedText.drop 18) :=
    .qualified none (show IsNameBefore (['p'] ++ '.' :: ['U']) (spacedText.drop 18) by decide)
      (by decide)
  have second : Derives (.named "V" "") (spacedText.drop 20) (spacedText.drop 22) :=
    .plain one (show IsNameBefore ['V'] (spacedText.drop 22) by decide) (by decide)
  have args : DerivesArgs [.sequence (.named "U" "p"), .named "V" ""] (spacedText.drop 13) ['\n'] :=
    .more (show Derives _ _ ([' '] ++ ',' :: spacedText.drop 20) from .sequence none first) one
      (.last (show Derives _ _ ([] ++ ']' :: ['\n']) from second) none)
  have page : Derives (.generic "P" [.sequence (.named "U" "p"), .named "V" ""])
      (spacedText.drop 10) ['\n'] :=
    .generic none (show IsNameBefore ['P'] ([' '] ++ '[' :: spacedText.drop 13) by decide) one args
  refine ⟨['\n'], by decide, ?_⟩
  rw [String.toList_ofList]
  exact .mapping one (show Derives _ _ ([' '] ++ ']' :: spacedText.drop 9) from key) one
    (.pointer none page)

theorem parse_exact_spacedText :
    parse (String.ofList spacedText) = .ok spacedType ∧
      ∀ other, IsNotation other (String.ofList spacedText) → other = spacedType := by
  have exactly := parse_exact (String.ofList spacedText)
  refine ⟨(exactly.1 spacedType).mpr isNotation_spacedText, ?_⟩
  intro other derived
  exact exactly.2.2 other spacedType derived isNotation_spacedText

end WireSchema.TypeExpr
