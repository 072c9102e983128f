import WireSchema.ProtoText.Block

namespace WireSchema

/-!
# Lines of schema text

A text is read here line by line, where a line ends at a line feed and nowhere else: this is where
the schema language ends a comment.  The lines that are not comments are what a text declares.  They
are found block by block and, within a block, item by item, whatever the items of a block are; so a
block is read without knowing what stands around it.
-/

/-- Whether a value is printed without a line feed.  A comment mark is put in
front of a description once, so only such a value is a comment as a whole. -/
def Value.IsOneLine (value : Value) : Prop :=
  '\n' ∉ value.display.toList

namespace ProtoText

/-- Whether the first characters of a line that are not blank are two slashes. -/
def isComment (line : List Char) : Bool :=
  ['/', '/'].isPrefixOf (line.dropWhile Text.isBlank)

/-- The lines of a text without its comments.  A line counts as a comment by its
first characters, so that a comment behind a declaration does not hide it. -/
def declarationLines (text : String) : List (List Char) :=
  (text.toList.splitOn '\n').filter fun line => !isComment line

theorem declarationLines_append (first second : String) :
    declarationLines (first ++ "\n" ++ second) =
      declarationLines first ++ declarationLines second := by
  have parts : (first ++ "\n" ++ second).toList = first.toList ++ '\n' :: second.toList := by
    simp [String.toList_append]
  rw [declarationLines, parts, List.splitOn_append_cons_self, List.filter_append]
  rfl

/-- A text without a line feed is a single line. -/
theorem declarationLines_of_notMem {text : String} (single : '\n' ∉ text.toList) :
    declarationLines text = [text.toList].filter fun line => !isComment line := by
  rw [declarationLines, List.splitOn_eq_singleton single]

theorem declarationLines_empty : declarationLines "" = [[]] := by decide

/-- A text without a line feed that is no comment is a line of its own. -/
theorem declarationLines_eq_singleton {text : String} (single : '\n' ∉ text.toList)
    (declares : isComment text.toList = false) : declarationLines text = [text.toList] := by
  rw [declarationLines_of_notMem single, List.filter_cons_of_pos (by rw [declares]; rfl),
    List.filter_nil]

def IsDeclaration (line : String) : Prop :=
  '\n' ∉ line.toList ∧ isComment line.toList = false

theorem flatMap_declarationLines {items : List String} (each : ∀ item ∈ items, IsDeclaration item) :
    items.flatMap declarationLines = items.map String.toList := by
  induction items with
  | nil => rfl
  | cons item items ih =>
      have own := each item List.mem_cons_self
      rw [List.flatMap_cons, declarationLines_eq_singleton own.1 own.2,
        ih fun other member => each other (List.mem_cons_of_mem item member)]
      rfl

/-- Items between which line feeds stand are read one by one. -/
theorem declarationLines_intercalate {items : List String} (given : items ≠ []) :
    declarationLines (String.intercalate "\n" items) = items.flatMap declarationLines := by
  induction items with
  | nil => exact absurd rfl given
  | cons item items ih =>
      cases items with
      | nil => simp [String.intercalate_singleton]
      | cons second items =>
          rw [String.intercalate_cons_cons, declarationLines_append, ih (by simp)]
          rfl

/-- What follows a block is read apart from it. -/
theorem declarationLines_blockText_append {items : List String} (given : items ≠ [])
    (rest : String) :
    declarationLines (blockText items ++ rest) =
      items.flatMap declarationLines ++ [[]] ++ declarationLines rest := by
  have twice : ("\n\n" : String) = "\n" ++ "" ++ "\n" := by decide
  have ends : blockText items ++ rest =
      String.intercalate "\n" items ++ "\n" ++ ("" ++ "\n" ++ rest) := by
    simp only [blockText, twice, String.append_assoc]
  rw [ends, declarationLines_append, declarationLines_append, declarationLines_empty,
    declarationLines_intercalate given, List.append_assoc]

/-! ## Comments -/

theorem isComment_append {margin line : List Char} (blank : ∀ c ∈ margin, Text.isBlank c = true) :
    isComment (margin ++ line) = isComment line := by
  rw [isComment, List.dropWhile_append_of_pos blank, isComment]

@[simp] theorem isComment_blank_cons (line : List Char) :
    isComment (' ' :: line) = isComment line := by
  rw [isComment, List.dropWhile_cons_of_pos (by decide), isComment]

theorem isComment_cons {c : Char} {line : List Char} (dark : Text.isBlank c = false)
    (other : c ≠ '/') : isComment (c :: line) = false := by
  have first : ('/' == c) = false := by simpa using Ne.symm other
  rw [isComment, List.dropWhile_cons_of_neg (by rw [dark]; decide), List.isPrefixOf, first,
    Bool.false_and]

/-- A description of one line is a comment and declares nothing. -/
theorem flatMap_commentLines (margin : String) {description : Value}
    (blank : margin.toList.all (· == ' ') = true) (single : description.IsOneLine) :
    (commentLines margin description).flatMap declarationLines = [] := by
  have blanks : ∀ c ∈ margin.toList, c = ' ' :=
    fun c member => eq_of_beq (List.all_eq_true.mp blank c member)
  have comment : isComment (margin ++ "// " ++ description.display).toList = true := by
    have dark : ∀ c ∈ margin.toList, Text.isBlank c = true := by
      intro c member
      rw [blanks c member]
      decide
    rw [String.append_assoc, String.toList_append, isComment_append dark]
    simp [isComment, String.toList_append, Text.isBlank, Text.inRanges]
  have inner : '\n' ∉ (margin ++ "// " ++ description.display).toList := by
    simp only [String.toList_append, List.mem_append, not_or]
    exact ⟨⟨fun member => absurd (blanks _ member) (by decide), by decide⟩, single⟩
  unfold commentLines
  split
  · rw [List.flatMap_singleton, declarationLines_of_notMem inner,
      List.filter_cons_of_neg (by rw [comment]; decide), List.filter_nil]
  · rfl

end ProtoText

end WireSchema
