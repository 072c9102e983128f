import WireSchema.Proofs.Document.Order
import WireSchema.Proofs.ProtoText.Blocks
import WireSchema.Proofs.Schema.JsonName
import WireSchema.Proofs.Schema.Origin
import WireSchema.Proofs.Text.Joined
import WireSchema.Proofs.Text.Literals
import WireSchema.Proofs.Validation.Refusal
import WireSchema.ProtoText.File

namespace WireSchema

/-!
# Literals in a schema file

A file puts texts between quotes in five kinds of places: values of file options, paths of imports,
reserved names, names of fields in JSON and values of field options.  Each stands between its quotes
as it is.  So a reader of the file gets back the text that was to be written exactly when no
character of it has a meaning of its own in a literal.

A value of a field option stands without quotes when it is a truth value or an integer text.
Integer texts admit more than the schema language does: blanks around the number, underscores
inside, and digits of any script.
-/

open Asked

/-! ## Texts inside texts -/

namespace Text

/-- A text stands somewhere inside another one.  Where exactly does not matter
for what a quoted text is read as. -/
def Holds (text part : String) : Prop :=
  ∃ before after, text = before ++ part ++ after

theorem Holds.self (text : String) : Holds text text :=
  ⟨"", "", by rw [String.empty_append, String.append_empty]⟩

theorem Holds.trans {whole text part : String} (outer : Holds whole text)
    (inner : Holds text part) : Holds whole part := by
  rcases outer with ⟨before, after, rfl⟩
  rcases inner with ⟨front, back, rfl⟩
  exact ⟨before ++ front, back ++ after, by simp only [String.append_assoc]⟩

theorem Holds.left (text rest : String) : Holds (text ++ rest) text :=
  ⟨"", rest, by rw [String.empty_append]⟩

theorem Holds.right (rest text : String) : Holds (rest ++ text) text :=
  ⟨rest, "", by rw [String.append_empty]⟩

theorem Holds.of_mem_join {texts : List String} {text : String} (member : text ∈ texts) :
    Holds (String.join texts) text := by
  rcases List.append_of_mem member with ⟨before, after, rfl⟩
  refine ⟨String.join before, String.join after, ?_⟩
  rw [String.join_append, String.join_cons, String.append_assoc]

theorem Holds.of_mem_intercalate (separator : String) {items : List String} {item : String}
    (member : item ∈ items) : Holds (String.intercalate separator items) item := by
  induction items with
  | nil => cases member
  | cons first items ih =>
      cases items with
      | nil =>
          rw [List.mem_singleton.mp member, String.intercalate_singleton]
          exact .self first
      | cons second items =>
          rw [String.intercalate_cons_cons, String.append_assoc]
          rcases List.mem_cons.mp member with rfl | later
          · exact .left item _
          · exact (Holds.right first _).trans ((Holds.right separator _).trans (ih later))

end Text

/-! ## What sets the options of a field -/

/-- An option of a field, and what sets it: a flag, a name in JSON from an annotation or the tag, or
the value of an `option` annotation. -/
inductive DeclaredField.Sets (model : Model) (field : DeclaredField) : FieldOption → Prop where
  | flag {name : String} (known : name ∈ ["packed", "deprecated"]) :
      field.Sets model { name, literal := "true" }
  | jsonName {note : Annotation} {name : String} (member : note ∈ field.annotations)
      (own : note.isNamed ["field"] = true)
      (given : nonempty? (note.string "json_name") = some name) :
      field.Sets model (.ofJsonName name)
  | tagJsonName {tag : TagInfo} {name : String} (tagged : model.tagOf field = .ok tag)
      (given : tagJsonName? tag = some name) : field.Sets model (.ofJsonName name)
  | value {note : Annotation} {name value : String} (member : note ∈ field.annotations)
      (own : note.isNamed ["option"] = true) (named : nonempty? (note.string "name") = some name)
      (given : note.string? "value" = some value) :
      field.Sets model { name, literal := FieldOption.literalOf value }

namespace FieldOption

variable {option : FieldOption}

theorem mem_flagWhen {condition : Bool} {name : String}
    (member : option ∈ flagWhen condition name) : option = { name, literal := "true" } := by
  unfold flagWhen at member
  split at member
  · exact List.mem_singleton.mp member
  · cases member

theorem exists_of_mem_ofAnnotations {notes : List Annotation} {options : List FieldOption}
    (stated : ofAnnotations notes = .ok options) (member : option ∈ options) :
    ∃ note ∈ notes, ∃ own, ofAnnotation note = .ok own ∧ option ∈ own := by
  induction notes generalizing options with
  | nil =>
      cases stated
      cases member
  | cons note notes ih =>
      rcases bind_eq_ok_iff.mp stated with ⟨own, first, rest⟩
      rcases bind_eq_ok_iff.mp rest with ⟨others, further, final⟩
      cases final
      rcases List.mem_append.mp member with here | later
      · exact ⟨note, List.mem_cons_self, own, first, here⟩
      · rcases ih further later with ⟨other, among, found⟩
        exact ⟨other, List.mem_cons_of_mem note among, found⟩

variable {model : Model} {field : DeclaredField}

theorem sets_of_ofFieldNote {note : Annotation} (among : note ∈ field.annotations)
    (own : note.isNamed ["field"] = true) (member : option ∈ ofFieldNote note) :
    field.Sets model option := by
  unfold ofFieldNote at member
  rcases List.mem_append.mp member with flags | named
  · rcases List.mem_append.mp flags with packed | deprecated
    · rw [mem_flagWhen packed]
      exact .flag (by simp)
    · rw [mem_flagWhen deprecated]
      exact .flag (by simp)
  · rw [Option.mem_toList, Option.map_eq_some_iff] at named
    rcases named with ⟨name, given, rfl⟩
    exact .jsonName among own given

theorem sets_of_ofOptionNote {note : Annotation} (among : note ∈ field.annotations)
    (own : note.isNamed ["option"] = true) (member : option ∈ ofOptionNote note) :
    field.Sets model option := by
  unfold ofOptionNote at member
  split at member
  · rename_i name value named given
    rw [List.mem_singleton.mp member]
    exact .value among own named given
  · cases member

theorem sets_of_ofAnnotation {note : Annotation} {options : List FieldOption}
    (among : note ∈ field.annotations) (stated : ofAnnotation note = .ok options)
    (member : option ∈ options) : field.Sets model option := by
  rcases bind_eq_ok_iff.mp stated with ⟨ofField, asked, rest⟩
  rcases Annotation.goesBy_eq_ok_iff.mp asked with ⟨-, own⟩
  cases ofField with
  | true =>
      cases rest
      exact sets_of_ofFieldNote among own member
  | false =>
      rcases bind_eq_ok_iff.mp rest with ⟨ofOption, further, rest⟩
      rcases Annotation.goesBy_eq_ok_iff.mp further with ⟨-, own⟩
      cases ofOption with
      | true =>
          cases rest
          exact sets_of_ofOptionNote among own member
      | false =>
          cases rest
          cases member

theorem sets_of_ofTag {tag : TagInfo} (tagged : model.tagOf field = .ok tag)
    (member : option ∈ ofTag tag) : field.Sets model option := by
  unfold ofTag at member
  rcases List.mem_append.mp member with first | deprecated
  · rcases List.mem_append.mp first with named | packed
    · rw [Option.mem_toList, Option.map_eq_some_iff] at named
      rcases named with ⟨name, given, rfl⟩
      exact .tagJsonName tagged given
    · rw [mem_flagWhen packed]
      exact .flag (by simp)
  · rw [mem_flagWhen deprecated]
    exact .flag (by simp)

/-- Every option of a field is set by its annotations or its tag. -/
theorem sets_of_fieldOptions {options : List FieldOption}
    (stated : field.fieldOptions model = .ok options) (member : option ∈ options) :
    field.Sets model option := by
  rcases bind_eq_ok_iff.mp stated with ⟨annotated, ofNotes, rest⟩
  rcases bind_eq_ok_iff.mp rest with ⟨tag, tagged, final⟩
  cases final
  rcases List.mem_append.mp (mem_of_mem_distinct member) with ofNote | ofTag
  · rcases exists_of_mem_ofAnnotations ofNotes ofNote with ⟨note, among, own, made, here⟩
    exact sets_of_ofAnnotation among made here
  · exact sets_of_ofTag tagged ofTag

end FieldOption

/-! ## Values of options -/

namespace FieldOption

theorem literalOf_cases (value : String) :
    literalOf value = inQuotes value ∨ literalOf value = value ∧
      (value = "true" ∨ value = "false" ∨ (Text.readInteger? value).isSome = true) := by
  unfold literalOf
  split
  · rename_i truth
    simp only [Bool.or_eq_true, decide_eq_true_eq] at truth
    exact Or.inr ⟨rfl, truth.imp_right Or.inl⟩
  · split
    · rename_i integer
      exact Or.inr ⟨rfl, Or.inr (Or.inr integer)⟩
    · exact Or.inl rfl

/-- A value that stands without quotes is a truth value or an integer text. -/
theorem literal_of_unquoted {model : Model} {field : DeclaredField} {option : FieldOption}
    (set : field.Sets model option) (unquoted : ∀ source, option.literal ≠ inQuotes source) :
    option.literal = "true" ∨ option.literal = "false" ∨
      (Text.readInteger? option.literal).isSome = true := by
  cases set with
  | flag => exact Or.inl rfl
  | jsonName => exact absurd rfl (unquoted _)
  | tagJsonName => exact absurd rfl (unquoted _)
  | value member own named given =>
      rename_i value
      rcases literalOf_cases value with quoted | ⟨same, kinds⟩
      · exact absurd quoted (unquoted value)
      · dsimp only
        rw [same]
        exact kinds

end FieldOption

/-! ## Where texts stand between quotes -/

namespace ProtoText

open FieldOption (inQuotes)
open Text (Holds)

/-- A place in the file of a unit at which a text is put between quotes, with what stands before the
quotes there. -/
inductive QuotedPlace (context : SchemaContext) (schema : SchemaUnit) (plans : List MessagePlan) :
    String → String → Prop where
  | edition : QuotedPlace context schema plans "syntax = " context.options.edition.display
  | fileOption {goal : Value} {settings : FileOptions} {name : Value}
      (stated : fileOptions context.options schema.model = .ok (goal, settings))
      (set : name ∈ settings.map (·.1)) :
      QuotedPlace context schema plans ("option " ++ name.display ++ " = ")
        ((lookupKey? name settings).getD .null).display
  | importPath {services : List Service} {paths : List Value} {path : Value}
      (resolved : writtenServices context schema = .ok services)
      (collected : imports context schema plans services = .ok paths) (member : path ∈ paths) :
      QuotedPlace context schema plans "import " path.display
  | reservedName {plan : MessagePlan} {name : String} (member : plan ∈ plans)
      (reserved : name ∈ plan.reservedNames) : QuotedPlace context schema plans "" name
  | fieldOption {plan : MessagePlan} {planned : PlannedField} {option : FieldOption}
      {source : String} (member : plan ∈ plans) (among : planned ∈ plan.fields)
      (set : option ∈ planned.options) (quoted : option.literal = inQuotes source) :
      QuotedPlace context schema plans (option.name ++ " = ") source

variable {context : SchemaContext} {schema : SchemaUnit} {plans : List MessagePlan}

/-! ### The head of a file -/

theorem holds_paragraph (lines : String) : Holds (paragraph lines) lines := by
  unfold paragraph
  split
  · rename_i none
    rw [none]
    exact .self ""
  · exact .left lines "\n"

theorem holds_editionLine (edition : Value) :
    Holds (editionLine edition) ("syntax = " ++ inQuotes edition.display) := by
  refine ⟨"", ";\n\n", ?_⟩
  rw [← String.toList_inj]
  simp [editionLine, inQuotes, String.toList_append]

theorem holds_optionLine (name value : Value) :
    Holds (optionLine name value) ("option " ++ name.display ++ " = " ++
      inQuotes value.display) := by
  refine ⟨"", ";\n", ?_⟩
  rw [← String.toList_inj]
  simp [optionLine, inQuotes, String.toList_append]

theorem holds_importLine (path : Value) :
    Holds (importLine path) ("import " ++ inQuotes path.display) := by
  refine ⟨"", ";\n", ?_⟩
  rw [← String.toList_inj]
  simp [importLine, inQuotes, String.toList_append]

theorem holds_optionLines {goal name : Value} {settings : FileOptions} {lines : String}
    (written : optionLines goal settings = .ok lines) (set : name ∈ settings.map (·.1)) :
    Holds lines (optionLine name ((lookupKey? name settings).getD .null)) := by
  rcases bind_eq_ok_iff.mp written with ⟨names, ordered, final⟩
  cases final
  have member : optionLine name ((lookupKey? name settings).getD .null) ∈
      names.map fun name => optionLine name ((lookupKey? name settings).getD .null) :=
    List.mem_map_of_mem (Value.mem_of_inOrder ordered set)
  exact (holds_paragraph _).trans ((Holds.right _ _).trans (.of_mem_join member))

/-- The parts of the head of a file. -/
theorem header_eq_ok {services : List Service} {head : String}
    (started : header context schema plans services = .ok head) :
    ∃ package goal settings options paths,
      fileOptions context.options schema.model = .ok (goal, settings) ∧
      optionLines goal settings = .ok options ∧
      imports context schema plans services = .ok paths ∧
      head = editionLine context.options.edition ++ packageLine package ++ options
        ++ importLines paths := by
  rcases bind_eq_ok_iff.mp started with ⟨package, -, rest⟩
  rcases bind_eq_ok_iff.mp rest with ⟨⟨goal, settings⟩, stated, rest⟩
  rcases bind_eq_ok_iff.mp rest with ⟨options, written, rest⟩
  rcases bind_eq_ok_iff.mp rest with ⟨paths, collected, final⟩
  cases final
  exact ⟨package, goal, settings, options, paths, stated, written, collected, rfl⟩

/-! ### The blocks of messages -/

theorem holds_optionSuffix {options : List FieldOption} {option : FieldOption}
    (member : option ∈ options) : Holds (optionSuffix options) option.text := by
  have given : options.isEmpty = false := by
    rw [List.isEmpty_eq_false_iff]
    exact List.ne_nil_of_mem member
  rw [optionSuffix, if_neg (Bool.eq_false_iff.mp given)]
  exact (Holds.left _ _).trans ((Holds.right _ _).trans
    (.of_mem_intercalate ", " (List.mem_map_of_mem member)))

theorem holds_reservedNameLine {plan : MessagePlan} {name : String}
    (reserved : name ∈ plan.reservedNames) :
    ∃ line ∈ reservedNameLines plan, Holds line (inQuotes name) := by
  have given : plan.reservedNames.isEmpty = false := by
    rw [List.isEmpty_eq_false_iff]
    exact List.ne_nil_of_mem reserved
  rw [reservedNameLines, if_neg (Bool.eq_false_iff.mp given)]
  refine ⟨_, List.mem_singleton_self _, (Holds.left _ _).trans ((Holds.right _ _).trans ?_)⟩
  exact .of_mem_intercalate ", " (List.mem_map_of_mem reserved)

theorem holds_fieldLine {options : Options} {planned : PlannedField} {option : FieldOption}
    {lines : List String} (written : fieldLines options planned = .ok lines)
    (set : option ∈ planned.options) : ∃ line ∈ lines, Holds line option.text := by
  rcases exists_of_fieldLines written with ⟨line, own, rfl⟩
  rcases exists_of_fieldLine own with ⟨type, -, rfl⟩
  refine ⟨_, List.mem_append_right _ (List.mem_singleton_self _), ?_⟩
  exact (Holds.left _ _).trans ((Holds.right _ _).trans (holds_optionSuffix set))

/-- A block holds what a line of its message holds. -/
theorem holds_messageBlock {options : Options} {plan : MessagePlan} {block part : String}
    (written : messageBlock options plan = .ok block)
    (stands : ∀ lines, messageLines options plan = .ok lines → ∃ line ∈ lines, Holds line part) :
    Holds block part := by
  rcases exists_of_messageBlock written with ⟨lines, listed, rfl⟩
  rcases stands lines listed with ⟨line, member, holds⟩
  exact (Holds.left _ _).trans ((Holds.of_mem_intercalate "\n" member).trans holds)

theorem holds_reservedName {options : Options} {plan : MessagePlan} {block name : String}
    (written : messageBlock options plan = .ok block) (reserved : name ∈ plan.reservedNames) :
    Holds block (inQuotes name) := by
  refine holds_messageBlock written fun lines listed => ?_
  rcases exists_of_messageLines listed with ⟨fields, numbers, -, -, rfl⟩
  rcases holds_reservedNameLine reserved with ⟨line, member, holds⟩
  exact ⟨line, List.mem_append_left _ (List.mem_append_right _ member), holds⟩

theorem holds_fieldOption {options : Options} {plan : MessagePlan} {planned : PlannedField}
    {option : FieldOption} {block : String} (written : messageBlock options plan = .ok block)
    (among : planned ∈ plan.fields) (set : option ∈ planned.options) :
    Holds block option.text := by
  refine holds_messageBlock written fun lines listed => ?_
  rcases exists_of_messageLines listed with ⟨fields, numbers, each, -, rfl⟩
  rcases exists_mem_of_mapM each among with ⟨own, member, made⟩
  rcases holds_fieldLine made set with ⟨line, inside, holds⟩
  have inFields := List.mem_flatten_of_mem member inside
  refine ⟨line, ?_, holds⟩
  simp only [List.mem_append]
  exact Or.inl (Or.inl (Or.inl (Or.inr inFields)))

/-! ### The whole file -/

/-- A file holds the block of each of its messages. -/
theorem holds_block {services : List Service} {body : String} {plan : MessagePlan}
    (written : blocks context schema plans services = .ok body) (member : plan ∈ plans) :
    ∃ block, messageBlock context.options plan = .ok block ∧ Holds body block := by
  rcases bind_eq_ok_iff.mp written with ⟨messages, each, rest⟩
  rcases bind_eq_ok_iff.mp rest with ⟨enums, -, final⟩
  cases final
  rcases exists_mem_of_mapM each member with ⟨block, among, made⟩
  refine ⟨block, made, .of_mem_join ?_⟩
  exact List.mem_append_left _ (List.mem_append_left _ among)

/-- At every place the text stands in the file between quotes, behind what leads to the place. -/
theorem holds_of_quotedPlace {text lead source : String}
    (planned : context.messagePlans schema.composites = .ok plans)
    (written : write context schema = .ok text)
    (place : QuotedPlace context schema plans lead source) :
    Holds text (lead ++ inQuotes source) := by
  rcases bind_eq_ok_iff.mp written with ⟨others, again, rest⟩
  cases planned.symm.trans again
  rcases bind_eq_ok_iff.mp rest with ⟨services, resolved, rest⟩
  rcases bind_eq_ok_iff.mp rest with ⟨head, started, rest⟩
  rcases bind_eq_ok_iff.mp rest with ⟨body, joined, final⟩
  cases final
  rcases header_eq_ok started with
    ⟨package, goal, settings, options, paths, stated, listed, collected, rfl⟩
  cases place with
  | edition =>
      refine (Holds.left _ _).trans ((Holds.left _ _).trans ((Holds.left _ _).trans ?_))
      exact (Holds.left _ _).trans (holds_editionLine _)
  | fileOption others set =>
      cases stated.symm.trans others
      refine (Holds.left _ _).trans ((Holds.left _ _).trans ((Holds.right _ _).trans ?_))
      exact (holds_optionLines listed set).trans (holds_optionLine _ _)
  | importPath others further member =>
      cases resolved.symm.trans others
      cases collected.symm.trans further
      refine (Holds.left _ _).trans ((Holds.right _ _).trans ((holds_paragraph _).trans ?_))
      exact (Holds.of_mem_join (List.mem_map_of_mem member)).trans (holds_importLine _)
  | reservedName member reserved =>
      rcases holds_block joined member with ⟨block, made, holds⟩
      rw [String.empty_append]
      exact (Holds.right _ _).trans (holds.trans (holds_reservedName made reserved))
  | fieldOption member among set quoted =>
      rcases holds_block joined member with ⟨block, made, holds⟩
      rw [← quoted]
      exact (Holds.right _ _).trans (holds.trans (holds_fieldOption made among set))

/-- How literals of a file read back.  At every place where a text is put between quotes, the file
reads there as a string literal that holds the text and ends at its closing quote, exactly when no
character of the text has a meaning of its own in literals.  Every option of a field is set by its
annotations or its tag; one that stands without quotes is a truth value or an integer text, and such
a text is an integer literal exactly when it has the characters of one. -/
theorem literals_of_write {text : String}
    (planned : context.messagePlans schema.composites = .ok plans)
    (written : write context schema = .ok text) :
    (∀ lead source, QuotedPlace context schema plans lead source →
      ∃ before after, text = before ++ lead ++ inQuotes source ++ after ∧
        (Text.readLiteral? (inQuotes source ++ after) = some (Text.bytesOf source.toList, after) ↔
          Text.IsLiteralContent source)) ∧
    ∀ plan ∈ plans, ∀ planned ∈ plan.fields, ∀ option ∈ planned.options,
      planned.field.Sets context.model option ∧
      ((∀ source, option.literal ≠ inQuotes source) →
        option.literal = "true" ∨ option.literal = "false" ∨
          (Text.readInteger? option.literal).isSome = true ∧
          (Text.IsIntegerLiteral option.literal ↔
            ∀ c ∈ option.literal.toList, Text.IsIntegerChar c)) := by
  constructor
  · intro lead source place
    rcases holds_of_quotedPlace planned written place with ⟨before, after, same⟩
    refine ⟨before, after, ?_, ?_⟩
    · rw [same]
      simp only [String.append_assoc]
    · exact Text.readLiteral?_iff
  · intro plan member field among option set
    rcases SchemaContext.exists_of_mem_messagePlans planned member with
      ⟨composite, -, names, -, message, -, own⟩
    rcases SchemaContext.exists_resolveField_of_plan own among with
      ⟨fields, -, declared, -, next, resolved⟩
    have sets := FieldOption.sets_of_fieldOptions
      (SchemaContext.parts_of_resolveField resolved).2.1 set
    refine ⟨sets, fun unquoted => ?_⟩
    rcases FieldOption.literal_of_unquoted sets unquoted with truth | falsity | integer
    · exact Or.inl truth
    · exact Or.inr (Or.inl falsity)
    · exact Or.inr (Or.inr ⟨integer, Text.isIntegerLiteral_iff integer⟩)

/-- A model with a reserved name that holds a quote, and with a field that has a name in JSON and an
option whose value is an integer text but no integer literal. -/
def quotedModel : Model :=
  { composites :=
      [{ name := .text "User"
         annotations := [{ name := .text "reserved", params := [("names", .list ["old\"name"])] }]
         fields :=
           [{ name := .text "Id", type := .named "int64" ""
              annotations :=
                [{ name := .text "field", params := [("json_name", .text "ident")] },
                  { name := .text "option"
                    params := [("name", .text "(min)"), ("value", .text "1_0")] }] }] }] }

/-- Options with a package for Java that holds a quote and a backslash, and with an import of two
lines. -/
def quotedOptions : Options where
  javaPackage := .text "a\"b\\c"
  customImports := some (.list [.text "a\nb.proto"])

def quotedContext : SchemaContext := .of quotedModel quotedOptions

/-- What the literal behind the first place of a mark holds.  The text is read as
the language reads it, with its escapes, and not compared with what was to be
written. -/
def literalBehind? (mark text : String) : Option (List UInt8) :=
  (Text.breakAt? mark.toList text.toList).bind fun parts =>
    (Text.readLiteral? (String.ofList parts.2)).map (·.1)

theorem literals_of_write_quotedModel :
    ∃ plans text, quotedContext.messagePlans quotedModel.wholeUnit.composites = .ok plans ∧
      write quotedContext quotedModel.wholeUnit = .ok text ∧
      (∃ before after, text = before ++ "option java_package = " ++ inQuotes "a\"b\\c" ++ after ∧
        Text.readLiteral? (inQuotes "a\"b\\c" ++ after) ≠
          some (Text.bytesOf "a\"b\\c".toList, after)) ∧
      (∃ before after, text = before ++ "json_name = " ++ inQuotes "ident" ++ after ∧
        Text.readLiteral? (inQuotes "ident" ++ after) =
          some (Text.bytesOf "ident".toList, after)) ∧
      ∃ plan ∈ plans, ∃ planned ∈ plan.fields, ∃ option ∈ planned.options,
        option.literal = "1_0" ∧ ¬Text.IsIntegerLiteral option.literal := by
  have written : (write quotedContext quotedModel.wholeUnit).toOption.isSome = true := by
    decide +kernel
  have held : (quotedContext.messagePlans quotedModel.wholeUnit.composites).toOption.map
      (·.map fun plan => plan.fields.map (·.options)) =
        some [[[.ofJsonName "ident", { name := "(min)", literal := "1_0" }]]] := by
    decide +kernel
  rcases exists_of_isSome_toOption written with ⟨text, written⟩
  rcases exists_of_toOption_map held with ⟨plans, planned, held⟩
  rcases List.map_eq_singleton_iff.mp held with ⟨plan, rfl, fields⟩
  rcases List.map_eq_singleton_iff.mp fields with ⟨field, one, options⟩
  have among : field ∈ plan.fields := one ▸ List.mem_singleton_self field
  rcases literals_of_write planned written with ⟨places, unquoted⟩
  have stated : fileOptions quotedContext.options quotedModel.wholeUnit.model =
      .ok (.text "", [(.text "java_package", .text "a\"b\\c")]) := by
    cbv
  have jsonName : FieldOption.ofJsonName "ident" ∈ field.options := options ▸ List.mem_cons_self
  have package : QuotedPlace quotedContext quotedModel.wholeUnit [plan] "option java_package = "
      "a\"b\\c" :=
    .fileOption stated List.mem_cons_self
  have ident : QuotedPlace quotedContext quotedModel.wholeUnit [plan] "json_name = " "ident" :=
    .fieldOption List.mem_cons_self among jsonName rfl
  rcases places _ _ package with ⟨before, after, same, back⟩
  rcases places _ _ ident with ⟨front, rest, again, returns⟩
  refine ⟨[plan], text, planned, written, ⟨before, after, same, ?_⟩, ⟨front, rest, again, ?_⟩,
    plan, List.mem_cons_self, field, among, ?_⟩
  · exact fun read => absurd (back.mp read) (by decide +kernel)
  · exact returns.mpr (by decide +kernel)
  · have set : { name := "(min)", literal := "1_0" } ∈ field.options :=
      options ▸ List.mem_cons_of_mem _ List.mem_cons_self
    rcases unquoted plan List.mem_cons_self field among _ set with ⟨-, kinds⟩
    have bare : ∀ source, "1_0" ≠ inQuotes source := by
      intro source quoted
      have letters := congrArg (fun text => text.toList.head?) quoted
      simp [inQuotes, String.toList_append] at letters
    rcases kinds bare with truth | falsity | ⟨-, exactly⟩
    · exact absurd truth (by decide)
    · exact absurd falsity (by decide)
    · exact ⟨_, set, rfl, fun literal => absurd (exactly.mp literal '_' (by decide)) (by decide)⟩

/-- Texts that are put between quotes as they are do not read back: of the package for Java and of
the reserved name what stands before the first quote is left, and the import reads as no literal.
The value `1_0` stands without quotes and is no integer literal. -/
theorem literalBehind?_quotedModel :
    ∃ text, write quotedContext quotedModel.wholeUnit = .ok text ∧
      literalBehind? "option java_package = " text = some (Text.bytesOf "a".toList) ∧
      literalBehind? "import " text = none ∧
      literalBehind? "  reserved " text = some (Text.bytesOf "old".toList) ∧
      Text.containsMark "[json_name = \"ident\", (min) = 1_0]".toList text.toList = true ∧
      ¬Text.IsIntegerLiteral "1_0" := by
  have evaluated : (write quotedContext quotedModel.wholeUnit).toOption.map (fun text =>
      (literalBehind? "option java_package = " text, literalBehind? "import " text,
        literalBehind? "  reserved " text,
        Text.containsMark "[json_name = \"ident\", (min) = 1_0]".toList text.toList)) =
      some (some (Text.bytesOf "a".toList), none, some (Text.bytesOf "old".toList), true) := by
    decide +kernel
  rcases exists_of_toOption_map evaluated with ⟨text, written, parts⟩
  simp only [Prod.mk.injEq] at parts
  exact ⟨text, written, parts.1, parts.2.1, parts.2.2.1, parts.2.2.2, by decide +kernel⟩

end ProtoText

end WireSchema
