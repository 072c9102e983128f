import WireSchema.Proofs.Annotation.Tag
import WireSchema.Proofs.Document.Pointwise
import WireSchema.Proofs.Text.Joined

namespace WireSchema.ParamValue

/-!
# Scopes and how they are written

A scope names messages.  It is given as a list, or as a text in which the names stand with commas
between them: bare or between brackets, with white space around the names, and with or without
quotes around each of them.  All of these select the messages that are named, or every message when
one of the names is an asterisk.  Only a text that is nothing but the word `true` or the word
`false` names no message: it selects all of them, or none.  Between quotes or brackets the words are
names like any others.

The main fact is that the items of a written scope are its names.  What is selected then depends on
the items alone, unless the text is one of the words.
-/

variable {names : List String} {name value : String}

/-! ## Items of a text -/

/-- The items of a text without brackets, as characters. -/
def itemsWithin (cs : List Char) : List (List Char) :=
  ((Text.splitAtEach ',' cs).map itemText).filter fun item => !item.isEmpty

/-- Items are segments without quotes at their ends. -/
theorem itemsWithin_eq (cs : List Char) :
    itemsWithin cs =
      ((TagInfo.segmentsOf cs).map (Text.trimWhile isItemQuote)).filter fun item =>
        !item.isEmpty := by
  rw [itemsWithin, TagInfo.segmentsOf, List.map_map]
  rfl

theorem itemsWithin_append_comma (front cs : List Char) :
    itemsWithin (front ++ ',' :: cs) = itemsWithin front ++ itemsWithin cs := by
  rw [itemsWithin_eq, TagInfo.segmentsOf_append_comma, List.map_append, List.filter_append,
    ← itemsWithin_eq, ← itemsWithin_eq]

/-- Blanks in front of a text do not count. -/
theorem itemsWithin_append_blanks {front : List Char} (blank : TypeExpr.IsBlankRun front)
    (cs : List Char) : itemsWithin (front ++ cs) = itemsWithin cs := by
  rw [itemsWithin_eq, TagInfo.segmentsOf_blanks_append blank, ← itemsWithin_eq]

theorem itemsWithin_trimWhile (cs : List Char) :
    itemsWithin (Text.trimWhile Text.isBlank cs) = itemsWithin cs := by
  rw [itemsWithin_eq, TagInfo.segmentsOf_trimWhile, ← itemsWithin_eq]

/-- A text without commas is an item, unless nothing is left of it. -/
theorem itemsWithin_of_notMem {cs : List Char} (single : ',' ∉ cs) (given : itemText cs ≠ []) :
    itemsWithin cs = [itemText cs] := by
  rw [itemsWithin, Text.splitAtEach_of_notMem single, List.map_singleton]
  exact List.filter_eq_self.mpr (by simpa using given)

/-- A separator of items: a comma and any blanks behind it.  The blanks are taken
off with those around the next item. -/
def IsComma (separator : String) : Prop :=
  ∃ blanks, separator.toList = ',' :: blanks ∧ ∀ c ∈ blanks, Text.isBlank c = true

/-- The items of texts that are put together with commas are those of the texts. -/
theorem itemsWithin_intercalate {separator : String} (comma : IsComma separator)
    (texts : List String) :
    itemsWithin (String.intercalate separator texts).toList =
      texts.flatMap fun text => itemsWithin text.toList := by
  rcases comma with ⟨blanks, mark, blank⟩
  induction texts with
  | nil => rfl
  | cons text texts ih =>
      by_cases last : texts = []
      · subst last
        simp
      · rw [String.intercalate_cons_of_ne_nil last, String.toList_append,
          String.toList_append, mark, List.append_assoc, List.cons_append, itemsWithin_append_comma,
          itemsWithin_append_blanks blank, ih, List.flatMap_cons]

theorem withoutBrackets_of_notMem {cs : List Char} (bare : '[' ∉ cs) : withoutBrackets cs = cs := by
  unfold withoutBrackets
  split
  · exact absurd List.mem_cons_self bare
  · rfl

theorem withoutBrackets_bracketed (cs : List Char) :
    withoutBrackets ('[' :: (cs ++ [']'])) = cs := by
  rw [withoutBrackets, ← List.cons_append, List.getLast?_concat, if_pos rfl, List.dropLast_concat]

/-- Only what stands between white space at the ends of a text counts. -/
theorem itemsOfText_eq (value : String) :
    itemsOfText value =
      (itemsWithin (withoutBrackets (Text.trim value).toList)).map String.ofList := by
  rw [TagInfo.toList_trim]
  rfl

/-! ## Written scopes -/

/-- A name that a scope may hold: not empty, without commas and brackets, and without white space
and quotes at its ends. -/
structure IsScopeName (name : String) : Prop where
  given : name ≠ ""
  noComma : ',' ∉ name.toList
  noBracket : '[' ∉ name.toList
  first : ∀ c ∈ name.toList.head?, Text.isBlank c = false ∧ isItemQuote c = false
  last : ∀ c ∈ name.toList.getLast?, Text.isBlank c = false ∧ isItemQuote c = false

/-- A name between two quotes of one kind.  Which of the two kinds it is makes no
difference to the name. -/
def IsQuotedName (name body : String) : Prop :=
  ∃ mark, isItemQuote mark = true ∧ body.toList = mark :: (name.toList ++ [mark])

/-- A name as an item: bare or between quotes of one kind, with any white space
around it.  White space between the quotes belongs to the name, as it is taken
off before they are. -/
def IsItem (name item : String) : Prop :=
  ∃ body, (body = name ∨ IsQuotedName name body) ∧ TagInfo.IsPadded body item.toList

/-- A text that holds names with commas between them.  Each item may have its own
quotes and white space, so that many texts hold the same names. -/
def IsJoined (names : List String) (value : String) : Prop :=
  ∃ items, List.Forall₂ IsItem names items ∧ value = String.intercalate "," items

/-- A text that holds names with commas between them and brackets around them.
White space may stand outside the brackets as well, which are looked for after
it is taken off. -/
def IsBracketed (names : List String) (value : String) : Prop :=
  ∃ joined, IsJoined names joined ∧ TagInfo.IsPadded ("[" ++ joined ++ "]") value.toList

theorem isBlank_of_isItemQuote {c : Char} (mark : isItemQuote c = true) :
    Text.isBlank c = false := by
  rw [isItemQuote, Bool.or_eq_true_iff, beq_iff_eq, beq_iff_eq] at mark
  rcases mark with rfl | rfl <;> decide

namespace IsScopeName

variable {item : String}

theorem isTrimmed (plain : IsScopeName name) : TagInfo.IsTrimmed name :=
  Text.trimWhile_of_ends (fun c member => (plain.first c member).1)
    fun c member => (plain.last c member).1

theorem trimWhile_isItemQuote (plain : IsScopeName name) :
    Text.trimWhile isItemQuote name.toList = name.toList :=
  Text.trimWhile_of_ends (fun c member => (plain.first c member).2)
    fun c member => (plain.last c member).2

/-- Reading an item takes away what stands around the name. -/
theorem itemText_eq (plain : IsScopeName name) (written : IsItem name item) :
    itemText item.toList = name.toList := by
  rcases written with ⟨body, form, padded⟩
  rcases form with rfl | ⟨mark, isMark, whole⟩
  · rw [itemText, TagInfo.trimWhile_of_isPadded plain.isTrimmed padded, plain.trimWhile_isItemQuote]
  · have solid := isBlank_of_isItemQuote isMark
    have trimmed : TagInfo.IsTrimmed body := by
      rw [TagInfo.IsTrimmed, whole]
      exact Text.trimWhile_between solid solid name.toList
    have marks : ∀ c ∈ [mark], isItemQuote c = true := by
      intro c member
      rw [List.mem_singleton.mp member]
      exact isMark
    rw [itemText, TagInfo.trimWhile_of_isPadded trimmed padded, whole, ← List.singleton_append,
      Text.trimWhile_dropped_append marks, Text.trimWhile_append_dropped marks,
      plain.trimWhile_isItemQuote]

/-- What stands around the name is white space and quotes. -/
theorem notMem_item {c : Char} (absent : c ∉ name.toList) (solid : Text.isBlank c = false)
    (noMark : isItemQuote c = false) (written : IsItem name item) : c ∉ item.toList := by
  rcases written with ⟨body, form, padded⟩
  refine TagInfo.notMem_of_isPadded ?_ solid padded
  rcases form with rfl | ⟨mark, isMark, whole⟩
  · exact absent
  · have other : c ≠ mark := by
      rintro rfl
      exact Bool.eq_false_iff.mp noMark isMark
    rw [whole, List.mem_cons, List.mem_append, List.mem_singleton]
    rintro (same | inside | same)
    · exact other same
    · exact absent inside
    · exact other same

theorem itemsWithin_item (plain : IsScopeName name) (written : IsItem name item) :
    itemsWithin item.toList = [name.toList] := by
  have single := notMem_item plain.noComma (by decide) (by decide) written
  have own := plain.itemText_eq written
  rw [itemsWithin_of_notMem single, own]
  rw [own]
  exact mt String.toList_eq_nil_iff.mp plain.given

end IsScopeName

theorem toList_trim_of_isBracketed {joined : String}
    (padded : TagInfo.IsPadded ("[" ++ joined ++ "]") value.toList) :
    (Text.trim value).toList = '[' :: (joined.toList ++ [']']) := by
  have whole : ("[" ++ joined ++ "]").toList = '[' :: (joined.toList ++ [']']) := by
    rw [String.toList_append, String.toList_append]
    rfl
  have trimmed : TagInfo.IsTrimmed ("[" ++ joined ++ "]") := by
    rw [TagInfo.IsTrimmed, whole]
    exact Text.trimWhile_between (by decide) (by decide) joined.toList
  rw [TagInfo.toList_trim, TagInfo.trimWhile_of_isPadded trimmed padded, whole]

section Reading

variable (each : ∀ name ∈ names, IsScopeName name)
include each

theorem itemsWithin_of_isJoined (written : IsJoined names value) :
    itemsWithin value.toList = names.map String.toList := by
  rcases written with ⟨items, forms, rfl⟩
  have comma : IsComma "," := ⟨[], rfl, List.forall_mem_nil _⟩
  rw [itemsWithin_intercalate comma]
  induction forms with
  | nil => rfl
  | cons own _ ih =>
      rcases List.forall_mem_cons.mp each with ⟨first, others⟩
      rw [List.flatMap_cons, first.itemsWithin_item own, ih others]
      rfl

theorem notMem_of_isJoined (written : IsJoined names value) : '[' ∉ value.toList := by
  rcases written with ⟨items, forms, rfl⟩
  intro inside
  rcases Text.mem_of_mem_intercalate inside with between | ⟨item, member, own⟩
  · exact absurd between (by decide)
  · rcases exists_left_of_forall₂ forms member with ⟨name, among, form⟩
    exact IsScopeName.notMem_item (each name among).noBracket (by decide) (by decide) form own

/-- The items of names with commas between them are the names. -/
theorem itemsOfText_of_isJoined (written : IsJoined names value) : itemsOfText value = names := by
  have bare : '[' ∉ (Text.trim value).toList := by
    rw [TagInfo.toList_trim]
    intro inside
    rcases Text.exists_eq_append_trimWhile_append Text.isBlank value.toList with
      ⟨before, after, -, -, whole⟩
    apply notMem_of_isJoined each written
    rw [whole]
    exact List.mem_append_right _ (List.mem_append_left _ inside)
  rw [itemsOfText_eq, withoutBrackets_of_notMem bare, TagInfo.toList_trim, itemsWithin_trimWhile,
    itemsWithin_of_isJoined each written, List.map_map]
  simp

/-- So are the items of names between brackets. -/
theorem itemsOfText_of_isBracketed (written : IsBracketed names value) :
    itemsOfText value = names := by
  rcases written with ⟨joined, form, padded⟩
  rw [itemsOfText_eq, toList_trim_of_isBracketed padded, withoutBrackets_bracketed,
    itemsWithin_of_isJoined each form, List.map_map]
  simp

end Reading

/-! ## What is selected -/

theorem namesSelect_iff {names : List String} {message : Value} :
    namesSelect names message = true ↔ message ∈ names.map Value.text ∨ "*" ∈ names := by
  rw [namesSelect, Bool.or_eq_true_iff, List.any_eq_true, List.contains_iff_mem, List.mem_map]
  exact or_congr_left
    (exists_congr fun name => and_congr_right fun _ => Value.text_beq_iff.trans eq_comm)

/-- A text selects what its items say, unless it is a word that stands for all messages or none. -/
theorem selects_text (given : itemsOfText value ≠ []) (message : Value) :
    (text value).selects message =
      if Text.trim value = "true" then true
      else if Text.trim value = "false" then false
      else namesSelect (itemsOfText value) message := by
  by_cases word : Text.trim value = "true"
  · simp [selects, word, selectsAllTexts]
  · by_cases empty : Text.trim value = ""
    · rw [itemsOfText_eq, empty] at given
      exact absurd rfl given
    · by_cases all : Text.trim value = "*"
      · have items : itemsOfText value = ["*"] := by
          rw [itemsOfText_eq, all]
          decide
        have selected : namesSelect ["*"] message = true :=
          namesSelect_iff.mpr (Or.inr List.mem_cons_self)
        simp [selects, all, selectsAllTexts, items, selected]
      · simp [selects, word, empty, all, selectsAllTexts]

/-- However a list of names is written, as a scope it selects the messages that are named, or all of
them when an asterisk is among the names; only the bare words `true` and `false` are read as a truth
value. -/
theorem selects_written (given : names ≠ []) (each : ∀ name ∈ names, IsScopeName name)
    (message : Value) :
    ((list names).selects message = true ↔ message ∈ names.map Value.text ∨ "*" ∈ names) ∧
      (∀ value, IsJoined names value →
        (text value).selects message =
          if Text.trim value = "true" then true
          else if Text.trim value = "false" then false
          else (list names).selects message) ∧
      ∀ value, IsBracketed names value →
        (text value).selects message = (list names).selects message := by
  refine ⟨namesSelect_iff, fun value written => ?_, fun value written => ?_⟩
  · have items := itemsOfText_of_isJoined each written
    rw [selects_text (items ▸ given), items]
    rfl
  · have items := itemsOfText_of_isBracketed each written
    rcases written with ⟨joined, -, padded⟩
    have begins := toList_trim_of_isBracketed padded
    have other : ∀ word : String, word.toList.head? ≠ some '[' → Text.trim value ≠ word := by
      rintro word different rfl
      exact different (congrArg List.head? begins)
    rw [selects_text (items ▸ given), items, if_neg (other "true" (by decide)),
      if_neg (other "false" (by decide))]
    rfl

/-- Two names, the second one of two words. -/
def sampleNames : List String := ["Order", "User profile"]

def sampleJoined : String := " Order ,\t'User profile'"

def sampleBracketed : String := "\n[\"Order\", User profile ] "

theorem isScopeName_sampleNames : ∀ name ∈ sampleNames, IsScopeName name := by
  intro name member
  rcases List.mem_pair.mp member with rfl | rfl
  · refine ⟨by decide, by decide, by decide, ?_, ?_⟩ <;> rintro c ⟨⟩ <;> decide
  · refine ⟨by decide, by decide, by decide, ?_, ?_⟩ <;> rintro c ⟨⟩ <;> decide

theorem isJoined_sampleJoined : IsJoined sampleNames sampleJoined := by
  have none : TypeExpr.IsBlankRun [] := by decide
  have blank : TypeExpr.IsBlankRun [' '] := by decide
  have tab : TypeExpr.IsBlankRun ['\t'] := by decide
  refine ⟨[" Order ", "\t'User profile'"], ?_, by decide⟩
  refine .cons ⟨"Order", Or.inl rfl, [' '], [' '], blank, blank, rfl⟩ (.cons ?_ .nil)
  exact ⟨"'User profile'", Or.inr ⟨'\'', by decide, by decide⟩, ['\t'], [], tab, none, rfl⟩

theorem isBracketed_sampleBracketed : IsBracketed sampleNames sampleBracketed := by
  have none : TypeExpr.IsBlankRun [] := by decide
  have blank : TypeExpr.IsBlankRun [' '] := by decide
  have line : TypeExpr.IsBlankRun ['\n'] := by decide
  refine ⟨"\"Order\", User profile ", ⟨["\"Order\"", " User profile "], ?_, by decide⟩,
    ['\n'], [' '], line, blank, by decide⟩
  refine .cons ⟨"\"Order\"", Or.inr ⟨'"', by decide, by decide⟩, [], [], none, none, rfl⟩
    (.cons ?_ .nil)
  exact ⟨"User profile", Or.inl rfl, [' '], [' '], blank, blank, rfl⟩

/-- The three ways of writing the sample names select one of them. -/
theorem selects_written_sampleNames :
    sampleNames ≠ [] ∧ (∀ name ∈ sampleNames, IsScopeName name) ∧
      IsJoined sampleNames sampleJoined ∧ IsBracketed sampleNames sampleBracketed ∧
      (list sampleNames).selects (.text "User profile") = true ∧
      (text sampleJoined).selects (.text "User profile") = true ∧
      (text sampleBracketed).selects (.text "User profile") = true := by
  have given : sampleNames ≠ [] := List.cons_ne_nil _ _
  rcases selects_written given isScopeName_sampleNames (.text "User profile") with
    ⟨listed, joined, bracketed⟩
  have selected : (list sampleNames).selects (.text "User profile") = true :=
    listed.mpr (Or.inl (List.mem_map_of_mem (List.mem_cons_of_mem _ List.mem_cons_self)))
  have noTrue : Text.trim sampleJoined ≠ "true" := by decide
  have noFalse : Text.trim sampleJoined ≠ "false" := by decide
  refine ⟨given, isScopeName_sampleNames, isJoined_sampleJoined, isBracketed_sampleBracketed,
    selected, ?_, ?_⟩
  · rw [joined _ isJoined_sampleJoined, if_neg noTrue, if_neg noFalse, selected]
  · rw [bracketed _ isBracketed_sampleBracketed, selected]

end WireSchema.ParamValue
