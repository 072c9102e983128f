import WireSchema.Proofs.ProtoText.Blocks
import WireSchema.Proofs.ProtoText.Lines

namespace WireSchema

/-!
# What the line of a field tells

A field with plain names is known by the line in which it is written.  The line is cut at its first
equals sign.  Before the sign stand words without blanks, of which the last one is the name and the
others are the label and the types; behind it the number, which ends at a blank or at the end of the
line, and the options.  A type or a field that is called like a label is no obstacle, since words
are told apart by how many there are.
-/

open Asked

/-! ## Plain names -/

namespace Text

/-- Whether a character can stand in a plain name.  Blanks and brackets cannot,
so that the end of a plain name is seen in a line. -/
def isPlainChar (c : Char) : Bool :=
  c.isAlphanum || c == '_' || c == '.'

/-- A nonempty text of letters and digits of the basic Latin block, underscores
and dots.  A name may be a word of the language: the reader of a line goes by
places and not by words. -/
def IsPlainName (name : String) : Prop :=
  name ≠ "" ∧ ∀ c ∈ name.toList, isPlainChar c = true

theorem notMem_of_isPlainName {name : String} (plain : IsPlainName name) {c : Char}
    (other : isPlainChar c = false) : c ∉ name.toList := by
  intro member
  have named := plain.2 c member
  rw [other] at named
  cases named

end Text

def Value.IsPlainName (value : Value) : Prop :=
  ∃ name, value = .text name ∧ Text.IsPlainName name

/-- How a field is declared: with its label and its type, or as a map with key
and value types.  The label is part of the kind, since a reader has nothing but
the words in front of the name. -/
inductive FieldKind where
  | single (type : Value)
  | repeated (type : Value)
  | optional (type : Value)
  | map (key value : Value)
deriving Repr

namespace FieldKind

def types : FieldKind → List Value
  | single type | repeated type | optional type => [type]
  | map key value => [key, value]

/-- The words in front of the name of a field.  The type of a map is two of them,
since there is a blank behind its comma. -/
def words : FieldKind → List String
  | single type => [type.display]
  | repeated type => ["repeated", type.display]
  | optional type => ["optional", type.display]
  | map key value => ["map<" ++ key.display ++ ",", value.display ++ ">"]

end FieldKind

/-- Everything that is declared of a field.  Its description is not among this,
as it is written as comments, nor is the declared field that it comes from. -/
structure FieldContent where
  kind : FieldKind
  name : String
  number : Int
  /-- The options in writing. -/
  suffix : String
deriving Repr

namespace PlannedField

def kind (planned : PlannedField) : FieldKind :=
  match planned.shape with
  | .repeated => .repeated planned.type
  | .optional => .optional planned.type
  | .map => .map planned.mapTypes.1 planned.mapTypes.2
  | .scalar | .unsupported => .single planned.type

def content (planned : PlannedField) : FieldContent where
  kind := planned.kind
  name := planned.name
  number := planned.number
  suffix := ProtoText.optionSuffix planned.options

/-- A field with plain names, and with a description and options of one line
each.  Other texts could look like further declarations, so that two fields might
have the same lines. -/
structure IsPlain (planned : PlannedField) : Prop where
  name : Text.IsPlainName planned.name
  types : ∀ type ∈ planned.kind.types, type.IsPlainName
  description : planned.description.IsOneLine
  options : ∀ option ∈ planned.options, '\n' ∉ option.text.toList

end PlannedField

/-- Options under which every label is written.  In other editions a field with
presence has no label, and is written like one without presence. -/
structure Options.WritesLabels (options : Options) : Prop where
  edition : options.edition = .text "proto3"
  integer : options.StartsAtInteger

namespace Text

theorem toNat_of_isPlainChar {c : Char} (named : isPlainChar c = true) :
    46 ≤ c.toNat ∧ c.toNat ≤ 122 ∧ c ≠ '/' := by
  have letters : c.isAlphanum = true → 48 ≤ c.toNat ∧ c.toNat ≤ 122 := by
    intro letter
    simp only [Char.isAlphanum, Char.isAlpha, Char.isUpper, Char.isLower, Char.isDigit,
      Bool.or_eq_true, Bool.and_eq_true, decide_eq_true_eq, UInt32.le_iff_toNat_le] at letter
    have value : c.toNat = c.val.toNat := rfl
    simp at letter
    omega
  have slash : '/'.toNat = 47 := rfl
  rcases Bool.or_eq_true_iff.mp named with first | dot
  · rcases Bool.or_eq_true_iff.mp first with letter | underscore
    · have bounds := letters letter
      exact ⟨by omega, by omega, fun same => by rw [same, slash] at bounds; omega⟩
    · rw [eq_of_beq underscore]
      decide
  · rw [eq_of_beq dot]
    decide

/-- The first character of a plain name is neither blank nor a slash. -/
theorem exists_cons_of_isPlainName {name : String} (plain : IsPlainName name) :
    ∃ c rest, name.toList = c :: rest ∧ isBlank c = false ∧ c ≠ '/' := by
  cases chars : name.toList with
  | nil => exact absurd (String.toList_eq_nil_iff.mp chars) plain.1
  | cons c rest =>
      have bounds := toNat_of_isPlainChar (plain.2 c (by rw [chars]; exact List.mem_cons_self))
      refine ⟨c, rest, rfl, ?_, bounds.2.2⟩
      simp [isBlank, inRanges]
      omega

end Text

theorem Value.eq_of_display_eq {value other : Value} (plain : value.IsPlainName)
    (plainOther : other.IsPlainName) (same : value.display = other.display) : value = other := by
  rcases plain with ⟨name, rfl, -⟩
  rcases plainOther with ⟨otherName, rfl, -⟩
  exact congrArg Value.text same

namespace FieldKind

variable {kind other : FieldKind}

/-- Whether a character can stand in a word in front of the name of a field. -/
def isWordChar (c : Char) : Bool :=
  Text.isPlainChar c || ['<', ',', '>'].contains c

theorem isWordChar_of_mem_words (plain : ∀ type ∈ kind.types, type.IsPlainName) {word : String}
    (member : word ∈ kind.words) {c : Char} (inside : c ∈ word.toList) : isWordChar c = true := by
  have named : ∀ type ∈ kind.types, ∀ c ∈ type.display.toList, isWordChar c = true := by
    intro type among c inside
    rcases plain type among with ⟨name, rfl, plainName⟩
    rw [isWordChar, plainName.2 c inside, Bool.true_or]
  have literal : ∀ text ∈ ["repeated", "optional", "map<", ",", ">"],
      ∀ c ∈ text.toList, isWordChar c = true := by
    simp [isWordChar, Text.isPlainChar]
  cases kind with
  | single type =>
      rw [List.mem_singleton.mp member] at inside
      exact named type List.mem_cons_self c inside
  | repeated type | optional type =>
      rcases List.mem_cons.mp member with rfl | second
      · exact literal _ (by simp) c inside
      · rw [List.mem_singleton.mp second] at inside
        exact named type List.mem_cons_self c inside
  | map key value =>
      rcases List.mem_cons.mp member with rfl | second
      · simp only [String.toList_append, List.mem_append] at inside
        rcases inside with (opening | own) | comma
        · exact literal "map<" (by simp) c opening
        · exact named key (by simp [types]) c own
        · exact literal "," (by simp) c comma
      · rw [List.mem_singleton.mp second, String.toList_append, List.mem_append] at inside
        rcases inside with own | closing
        · exact named value (by simp [types]) c own
        · exact literal ">" (by simp) c closing

/-- The first character in front of the name of a field is neither blank nor a slash. -/
theorem exists_cons_words (plain : ∀ type ∈ kind.types, type.IsPlainName) :
    ∃ word words c rest, kind.words = word :: words ∧ word.toList = c :: rest ∧
      Text.isBlank c = false ∧ c ≠ '/' := by
  cases kind with
  | single type =>
      rcases plain type (by simp [types]) with ⟨name, rfl, plainName⟩
      rcases Text.exists_cons_of_isPlainName plainName with ⟨c, rest, chars, bounds⟩
      exact ⟨name, [], c, rest, rfl, chars, bounds⟩
  | repeated type => exact ⟨"repeated", _, 'r', _, rfl, rfl, by decide, by decide⟩
  | optional type => exact ⟨"optional", _, 'o', _, rfl, rfl, by decide, by decide⟩
  | map key value =>
      refine ⟨_, _, 'm', ['a', 'p', '<'] ++ key.display.toList ++ [','], rfl, ?_, by decide,
        by decide⟩
      simp [String.toList_append]

/-- Kinds with plain names are known by their words. -/
theorem eq_of_words_eq (plain : ∀ type ∈ kind.types, type.IsPlainName)
    (plainOther : ∀ type ∈ other.types, type.IsPlainName) (same : kind.words = other.words) :
    kind = other := by
  cases kind with
  | single type =>
    cases other with
    | single second =>
        have types := Value.eq_of_display_eq (plain type (by simp [types]))
          (plainOther second (by simp [types])) (List.cons.inj same).1
        rw [types]
    | repeated second | optional second | map key value => simp [words] at same
  | repeated type =>
    cases other with
    | repeated second =>
        have types := Value.eq_of_display_eq (plain type (by simp [types]))
          (plainOther second (by simp [types])) (by simpa [words] using same)
        rw [types]
    | single second | optional second | map key value =>
        simp [words, ← String.toList_inj, String.toList_append] at same
  | optional type =>
    cases other with
    | optional second =>
        have types := Value.eq_of_display_eq (plain type (by simp [types]))
          (plainOther second (by simp [types])) (by simpa [words] using same)
        rw [types]
    | single second | repeated second | map key value =>
        simp [words, ← String.toList_inj, String.toList_append] at same
  | map key value =>
    cases other with
    | map secondKey secondValue =>
        have parts : key.display = secondKey.display ∧ value.display = secondValue.display := by
          simpa [words, ← String.toList_inj, String.toList_append] using same
        have keys := Value.eq_of_display_eq (plain key (by simp [types]))
          (plainOther secondKey (by simp [types])) parts.1
        have values := Value.eq_of_display_eq (plain value (by simp [types]))
          (plainOther secondValue (by simp [types])) parts.2
        rw [keys, values]
    | single second | repeated second | optional second =>
        simp [words, ← String.toList_inj, String.toList_append] at same

end FieldKind

namespace ProtoText

/-- A field in writing, up to the equals sign.  The number follows behind the
sign, so that a line can be cut there. -/
def fieldFront (planned : PlannedField) : String :=
  "  " ++ String.intercalate " " (planned.kind.words ++ [planned.name]) ++ " "

def fieldText (options : Options) (planned : PlannedField) : String :=
  fieldFront planned ++ "= " ++ (planned.writtenNumber options).display
    ++ optionSuffix planned.options ++ ";"

variable {options other : Options} {planned further : PlannedField}

theorem declaredType_eq_words (labels : options.WritesLabels) (plain : planned.IsPlain) :
    declaredType options planned = .ok (String.intercalate " " planned.kind.words) := by
  have types := plain.types
  have edition : (options.edition == Value.text "proto3") = true := by simp [labels.edition]
  unfold PlannedField.kind at types
  unfold declaredType PlannedField.kind
  cases shape : planned.shape with
  | map => simp [FieldKind.words, ← String.toList_inj, String.toList_append]
  | scalar | repeated | optional | unsupported =>
      rw [shape] at types
      rcases types _ List.mem_cons_self with ⟨name, same, -⟩
      simp [FieldKind.words, labelOf, same, Value.admitText, edition]

/-- A field that is written has the text of its content. -/
theorem eq_fieldText_of_fieldLine (labels : options.WritesLabels) (plain : planned.IsPlain)
    {line : String} (written : fieldLine options planned = .ok line) :
    line = fieldText options planned := by
  rcases exists_of_fieldLine written with ⟨type, typed, rfl⟩
  cases (declaredType_eq_words labels plain).symm.trans typed
  rcases FieldKind.exists_cons_words plain.types with ⟨word, words, c, rest, front, -⟩
  rw [fieldText, fieldFront, front,
    String.intercalate_append_of_ne_nil (List.cons_ne_nil word words) (List.cons_ne_nil _ _),
    String.intercalate_singleton]
  simp [← String.toList_inj, String.toList_append]

theorem notMem_of_mem_words (plain : planned.IsPlain) {word : String}
    (member : word ∈ planned.kind.words ++ [planned.name]) {c : Char}
    (outside : FieldKind.isWordChar c = false) : c ∉ word.toList := by
  intro inside
  have allowed : FieldKind.isWordChar c = true := by
    rcases List.mem_append.mp member with front | last
    · exact FieldKind.isWordChar_of_mem_words plain.types front inside
    · rw [List.mem_singleton.mp last] at inside
      rw [FieldKind.isWordChar, plain.name.2 c inside, Bool.true_or]
  rw [outside] at allowed
  cases allowed

theorem notMem_fieldFront (plain : planned.IsPlain) {c : Char} (blank : c ≠ ' ')
    (outside : FieldKind.isWordChar c = false) : c ∉ (fieldFront planned).toList := by
  intro inside
  simp only [fieldFront, String.toList_append, List.mem_append] at inside
  rcases inside with (margin | words) | space
  · exact blank (by simpa using margin)
  · rcases Text.mem_of_mem_intercalate words with between | ⟨word, member, own⟩
    · exact blank (by simpa using between)
    · exact notMem_of_mem_words plain member outside own
  · exact blank (by simpa using space)

/-- A field begins with something that is neither blank nor a slash. -/
theorem exists_fieldFront (plain : planned.IsPlain) :
    ∃ c behind, (fieldFront planned).toList = ' ' :: ' ' :: c :: behind ∧
      Text.isBlank c = false ∧ c ≠ '/' := by
  rcases FieldKind.exists_cons_words plain.types with
    ⟨word, words, c, rest, front, chars, dark, other⟩
  have given : words ++ [planned.name] ≠ [] := by simp
  refine ⟨c, rest ++ ' ' :: (String.intercalate " " (words ++ [planned.name]) ++ " ").toList, ?_,
    dark, other⟩
  rw [fieldFront, front, List.cons_append, String.intercalate_cons_of_ne_nil given]
  simp [String.toList_append, chars]

theorem notMem_optionSuffix {stated : List FieldOption}
    (single : ∀ option ∈ stated, '\n' ∉ option.text.toList) :
    '\n' ∉ (optionSuffix stated).toList := by
  unfold optionSuffix
  split
  · simp
  · simp only [String.toList_append, List.mem_append, not_or]
    refine ⟨⟨by simp, fun inside => ?_⟩, by simp⟩
    rcases Text.mem_of_mem_intercalate inside with between | ⟨text, member, own⟩
    · simp at between
    · rcases List.mem_map.mp member with ⟨option, among, rfl⟩
      exact single option among own

/-- What follows the number of a field can be no part of a number. -/
theorem head?_optionSuffix (stated : List FieldOption) :
    ∀ c ∈ ((optionSuffix stated).toList ++ [';']).head?, ¬ (c.isAlphanum = true ∨ c = '-') := by
  unfold optionSuffix
  split
  · simp
  · simp [String.toList_append]

/-- A field with plain names is known by the way in which it is written. -/
theorem content_eq_of_fieldText_eq (labels : options.WritesLabels)
    (otherLabels : other.WritesLabels) (plain : planned.IsPlain) (furtherPlain : further.IsPlain)
    (same : fieldText options planned = fieldText other further) :
    planned.content = further.content := by
  have halves : (fieldFront planned).toList ++ '=' :: ' ' ::
        ((planned.writtenNumber options).display.toList
          ++ ((optionSuffix planned.options).toList ++ [';'])) =
      (fieldFront further).toList ++ '=' :: ' ' ::
        ((further.writtenNumber other).display.toList
          ++ ((optionSuffix further.options).toList ++ [';'])) := by
    have lists := congrArg String.toList same
    simpa [fieldText, String.toList_append] using lists
  have noSign : ∀ {planned : PlannedField}, planned.IsPlain →
      ∀ c ∈ (fieldFront planned).toList, c ≠ '=' := by
    rintro planned plain c inside rfl
    exact notMem_fieldFront plain (by decide) (by decide) inside
  rcases Text.append_inj_of_class (noSign plain) (noSign furtherPlain) (by simp) (by simp) halves
    with ⟨fronts, backs⟩
  -- before the sign: the words of the kind, and the name
  have single : ∀ {planned : PlannedField}, planned.IsPlain →
      ∀ word ∈ planned.kind.words ++ [planned.name], ' ' ∉ word.toList :=
    fun plain word member => notMem_of_mem_words plain member (by decide)
  have words : planned.kind.words ++ [planned.name] = further.kind.words ++ [further.name] := by
    refine Text.eq_of_intercalate_blank_eq (by simp) (by simp) (single plain)
      (single furtherPlain) ?_
    rw [← String.toList_inj]
    simpa [fieldFront, String.toList_append] using fronts
  rcases List.append_inj' words rfl with ⟨kindWords, names⟩
  have kinds : planned.kind = further.kind :=
    FieldKind.eq_of_words_eq plain.types furtherPlain.types kindWords
  -- behind the sign: the number, and the options
  have digits : ∀ {options : Options} (planned : PlannedField), options.WritesLabels →
      ∀ c ∈ (planned.writtenNumber options).display.toList, c.isAlphanum = true ∨ c = '-' :=
    fun planned labels c inside => Options.isAlphanum_or_eq_of_mem_display
      (Options.integer?_writtenNumber labels.integer planned.isExplicit planned.number) inside
  rcases Text.append_inj_of_class (digits planned labels) (digits further otherLabels)
    (head?_optionSuffix _) (head?_optionSuffix _) (List.cons.inj (List.cons.inj backs).2).2
    with ⟨displays, rests⟩
  have numbers : planned.number = further.number :=
    Options.eq_of_display_eq (Options.integer?_writtenNumber labels.integer _ _)
      (Options.integer?_writtenNumber otherLabels.integer _ _) (String.toList_inj.mp displays)
  have suffixes : optionSuffix planned.options = optionSuffix further.options :=
    String.toList_inj.mp (List.append_cancel_right rests)
  rw [PlannedField.content, PlannedField.content, kinds, (List.cons.inj names).1, numbers, suffixes]

theorem isDeclaration_fieldText (labels : options.WritesLabels) (plain : planned.IsPlain) :
    IsDeclaration (fieldText options planned) := by
  have counts := Options.integer?_writtenNumber labels.integer planned.isExplicit planned.number
  constructor
  · intro feed
    simp only [fieldText, String.toList_append, List.mem_append] at feed
    rcases feed with (((front | sign) | number) | stated) | ending
    · exact notMem_fieldFront plain (by decide) (by decide) front
    · simp at sign
    · rcases Options.isAlphanum_or_eq_of_mem_display counts number with letter | hyphen
      · exact absurd letter (by decide)
      · exact absurd hyphen (by decide)
    · exact notMem_optionSuffix plain.options stated
    · simp at ending
  · rcases exists_fieldFront plain with ⟨c, behind, front, dark, other⟩
    simp only [fieldText, String.toList_append, front, List.cons_append, isComment_blank_cons]
    exact isComment_cons dark other

end ProtoText

end WireSchema
