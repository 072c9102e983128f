import WireSchema.Proofs.Text.Segments
import WireSchema.Text.Words

namespace WireSchema.Text

/-!
# Type names inside names of functions

A type notation becomes part of a function's name by a series of replacements.  Of a qualified name
(letters, digits, underscores and points) only the points are replaced.  Two names then become the
same text when one has a point where the other has an underscore; names without underscores do not.
-/

section Replacing

variable {mark replacement cs made : List Char}

/-- Nothing is replaced in a text without the mark. -/
theorem Replaces.eq_of_notMem {c : Char} (replaces : Replaces mark replacement cs made)
    (inMark : c ∈ mark) (absent : c ∉ cs) : made = cs := by
  induction replaces with
  | nil => rfl
  | keep c rest ih => rw [ih fun member => absent (List.mem_cons_of_mem c member)]
  | swap rest ih => exact absurd (List.mem_append_left _ inMark) absent

theorem replaceAll_of_notMem {mark replacement text : String} {c : Char} (inMark : c ∈ mark.toList)
    (absent : c ∉ text.toList) : replaceAll mark replacement text = text := by
  have given : mark.toList ≠ [] := List.ne_nil_of_mem inMark
  rw [replaceAll, (replaces_replaceFrom given text.toList).eq_of_notMem inMark absent,
    String.ofList_toList]

theorem replaceFrom_single (m r : Char) (cs : List Char) :
    replaceFrom [m] [r] 0 cs = cs.map fun c => if c = m then r else c := by
  induction cs with
  | nil => rfl
  | cons c cs ih =>
      rw [replaceFrom, afterLeading?, List.map_cons]
      by_cases same : m = c
      · rw [if_pos same, if_pos same.symm, afterLeading?, if_pos Option.isSome_some,
          List.length_singleton, ih, List.singleton_append]
      · rw [if_neg same, if_neg (Ne.symm same), if_neg (by decide), ih]

end Replacing

def isNameChar (c : Char) : Bool := c.isAlphanum || c == '_'

/-- A text of letters and digits. -/
def IsAlphanum (text : String) : Prop :=
  ∀ c ∈ text.toList, c.isAlphanum = true

instance (text : String) : Decidable (IsAlphanum text) :=
  decidable_of_iff (text.toList.all Char.isAlphanum = true) List.all_eq_true

/-- A letter, a digit, an underscore or a point. -/
def IsQualifiedChar (c : Char) : Prop := isNameChar c = true ∨ c = '.'

/-- A text of letters, digits, underscores and points.  It is what the name of a
type of another package looks like in the schema language. -/
def IsQualified (text : String) : Prop :=
  ∀ c ∈ text.toList, IsQualifiedChar c

instance (text : String) : Decidable (IsQualified text) :=
  decidable_of_iff (text.toList.all (fun c => isNameChar c || c == '.') = true)
    (by simp [IsQualified, IsQualifiedChar])

/-- A point as it stands in the name of a function. -/
def withoutPoint (c : Char) : Char := if c = '.' then '_' else c

theorem isNameChar_withoutPoint {c : Char} (own : IsQualifiedChar c) :
    isNameChar (withoutPoint c) = true := by
  unfold withoutPoint
  split
  · decide
  · rename_i other
    exact own.resolve_right other

theorem IsQualified.notMem {text : String} (plain : IsQualified text) {c : Char}
    (other : isNameChar c = false) (noPoint : c ≠ '.') : c ∉ text.toList := by
  intro member
  rcases plain c member with own | point
  · rw [other] at own
    cases own
  · exact noPoint point

/-- Of a qualified name only the points are replaced. -/
theorem toList_sanitizeTypeName {text : String} (plain : IsQualified text) :
    (sanitizeTypeName text).toList = text.toList.map withoutPoint := by
  have pointless : (replaceAll "." "_" text).toList = text.toList.map withoutPoint := by
    rw [replaceAll, String.toList_ofList]
    exact replaceFrom_single '.' '_' text.toList
  have absent : ∀ c, isNameChar c = false → c ∉ (replaceAll "." "_" text).toList := by
    intro c other member
    rw [pointless] at member
    rcases List.mem_map.mp member with ⟨own, inside, rfl⟩
    rw [isNameChar_withoutPoint (plain own inside)] at other
    cases other
  simp only [sanitizeTypeName, typeMarkTokens, List.foldl_cons, List.foldl_nil]
  rw [replaceAll_of_notMem (c := '[') (by decide) (plain.notMem (by decide) (by decide)),
    replaceAll_of_notMem (c := '*') (by decide) (plain.notMem (by decide) (by decide)),
    replaceAll_of_notMem (c := '[') (by decide) (absent '[' (by decide)),
    replaceAll_of_notMem (c := ']') (by decide) (absent ']' (by decide)),
    replaceAll_of_notMem (c := ',') (by decide) (absent ',' (by decide)),
    replaceAll_of_notMem (c := ' ') (by decide) (absent ' ' (by decide)), pointless]

/-- What a qualified name becomes has only characters of names. -/
theorem isNameChar_of_mem_sanitizeTypeName {text : String} (plain : IsQualified text) :
    ∀ c ∈ (sanitizeTypeName text).toList, isNameChar c = true := by
  intro c member
  rw [toList_sanitizeTypeName plain] at member
  rcases List.mem_map.mp member with ⟨own, inside, rfl⟩
  exact isNameChar_withoutPoint (plain own inside)

/-- A name without points stays as it is. -/
theorem sanitizeTypeName_of_isName {text : String}
    (plain : ∀ c ∈ text.toList, isNameChar c = true) :
    sanitizeTypeName text = text := by
  have same : ∀ c ∈ text.toList, withoutPoint c = c := by
    intro c member
    rw [withoutPoint, if_neg]
    rintro rfl
    exact absurd (plain '.' member) (by decide)
  rw [← String.toList_inj, toList_sanitizeTypeName fun c member => Or.inl (plain c member),
    List.map_congr_left same, List.map_id']

theorem IsAlphanum.sanitizeTypeName_eq {text : String} (plain : IsAlphanum text) :
    sanitizeTypeName text = text :=
  sanitizeTypeName_of_isName fun c member => by rw [isNameChar, plain c member, Bool.true_or]

/-- Qualified names without underscores become the same text only when they are the same. -/
theorem eq_of_sanitizeTypeName_eq {text other : String} (plain : IsQualified text)
    (otherPlain : IsQualified other) (noMark : '_' ∉ text.toList) (otherNoMark : '_' ∉ other.toList)
    (same : sanitizeTypeName text = sanitizeTypeName other) : text = other := by
  have restored : ∀ cs : List Char, '_' ∉ cs →
      (cs.map withoutPoint).map (fun c => if c = '_' then '.' else c) = cs := by
    intro cs absent
    rw [List.map_map]
    refine (List.map_congr_left fun c member => ?_).trans (List.map_id cs)
    by_cases point : c = '.'
    · rw [point]
      rfl
    · have kept : c ≠ '_' := fun mark => absent (mark ▸ member)
      rw [Function.comp_apply, withoutPoint, if_neg point, if_neg kept, id]
  have chars := congrArg String.toList same
  rw [toList_sanitizeTypeName plain, toList_sanitizeTypeName otherPlain] at chars
  rw [← String.toList_inj, ← restored text.toList noMark, chars, restored other.toList otherNoMark]

end WireSchema.Text
