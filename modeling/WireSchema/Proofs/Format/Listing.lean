import WireSchema.Format.Emitter
import WireSchema.Proofs.Failure
import WireSchema.Proofs.ProtoText.Blocks
import WireSchema.Proofs.Stub.Data

namespace WireSchema

/-!
# Messages in the outputs of a unit

Every output of a unit has a part for each message: a block of the schema text, a section of the
reference document, a definition in TypeScript and a descriptor in the stub data.  What the part of
a message holds is said here by its plan alone, and in characters wherever a name is written, so
that it does not depend on the functions that write.  An output lists plans when its parts are those
of the plans, one by one and in order, and whatever stands around them is no message.
-/

open Asked

/-! ## Ends of documents -/

namespace Text

/-- A text as it is after all line feeds at its end have been replaced by a
single one.  The body is determined by what was there before, for it does not end
with a line feed. -/
def IsEndedOnce (before after : String) : Prop :=
  ∃ (body : String) (count : Nat),
    before = body ++ String.ofList (List.replicate count '\n') ∧
      body.toList.getLast? ≠ some '\n' ∧ after = body ++ "\n"

theorem isEndedOnce_endedOnce (text : String) : IsEndedOnce text (endedOnce text) := by
  have parts := List.takeWhile_append_dropWhile (p := (· == '\n')) (l := text.toList.reverse)
  have feeds : text.toList.reverse.takeWhile (· == '\n') =
      List.replicate (text.toList.reverse.takeWhile (· == '\n')).length '\n' := by
    refine List.eq_replicate_of_mem fun c member => ?_
    simpa using List.mem_takeWhile_imp member
  refine ⟨String.ofList (trimEndWhile (· == '\n') text.toList),
    (text.toList.reverse.takeWhile (· == '\n')).length, ?_, ?_, rfl⟩
  · have whole := congrArg List.reverse parts
    rw [List.reverse_append, List.reverse_reverse, feeds, List.reverse_replicate] at whole
    rw [← String.toList_inj, String.toList_append, String.toList_ofList, String.toList_ofList,
      trimEndWhile, whole]
  · rw [String.toList_ofList, trimEndWhile, List.getLast?_reverse]
    intro feed
    have stops := List.head?_dropWhile_not (· == '\n') text.toList.reverse
    rw [feed] at stops
    simp at stops

end Text

/-! ## The schema text -/

namespace ProtoText

/-- The blocks of messages in a file are those of plans; the head of the file stands before them,
and the blocks of enumerations and services after them. -/
def Lists (context : SchemaContext) (schema : SchemaUnit) (plans : List MessagePlan)
    (text : String) : Prop :=
  ∃ services head blocks enums, writtenServices context schema = .ok services ∧
    header context schema plans services = .ok head ∧
    List.Forall₂ (IsBlockOf context.options) plans blocks ∧
    schema.enums.mapM writtenEnumBlock = .ok enums ∧
    text = head ++ String.join (blocks ++ enums ++ services.map serviceBlock)

variable {context : SchemaContext} {schema : SchemaUnit} {plans : List MessagePlan}

/-- The file of a unit lists its plans. -/
theorem lists_of_generate {text : String}
    (planned : context.messagePlans schema.composites = .ok plans)
    (written : generate context schema = .ok text) : Lists context schema plans text := by
  rcases bind_eq_ok_iff.mp written with ⟨found, -, written⟩
  rcases bind_eq_ok_iff.mp (Failure.liftShape_eq_ok_iff.mp written) with ⟨others, again, written⟩
  cases planned.symm.trans again
  rcases bind_eq_ok_iff.mp written with ⟨services, resolved, written⟩
  rcases bind_eq_ok_iff.mp written with ⟨head, started, written⟩
  rcases bind_eq_ok_iff.mp written with ⟨body, joined, final⟩
  cases final
  rcases bind_eq_ok_iff.mp joined with ⟨blocks, each, joined⟩
  rcases bind_eq_ok_iff.mp joined with ⟨enums, ofEnums, final⟩
  cases final
  exact ⟨services, head, blocks, enums, resolved, started,
    (mapM_eq_ok_iff.mp each).imp fun _ _ => isBlockOf_of_messageBlock, ofEnums, rfl⟩

end ProtoText

/-! ## Views -/

/-- What further formats read of a unit are its plans. -/
theorem SchemaView.plans_of {context : SchemaContext} {schema : SchemaUnit} {view : SchemaView}
    (viewed : SchemaView.of context schema = .ok view) :
    view.context = context ∧ context.messagePlans schema.composites = .ok view.plans ∧
      writtenEnums schema.enums = .ok view.enums := by
  rcases bind_eq_ok_iff.mp viewed with ⟨package, -, viewed⟩
  rcases bind_eq_ok_iff.mp viewed with ⟨plans, planned, viewed⟩
  rcases bind_eq_ok_iff.mp viewed with ⟨templates, -, viewed⟩
  rcases bind_eq_ok_iff.mp viewed with ⟨enums, written, viewed⟩
  rcases bind_eq_ok_iff.mp viewed with ⟨services, -, final⟩
  cases final
  exact ⟨rfl, planned, written⟩

/-! ## The reference document -/

namespace Markdown

/-- The row of a field between bars: its name, its type and its description, the first two of them
marked as code. -/
def IsFieldRow (planned : PlannedField) (line : String) : Prop :=
  ∃ description, cell planned.description = .ok description ∧
    line = "| `" ++ planned.name ++ "` | `" ++ fieldType planned ++ "` | " ++ description ++ " |"

/-- The section of a message: a heading with its name, its description, what it is an alias of, and
a table of its fields if there are any. -/
def IsSectionOf (plan : MessagePlan) (lines : List Value) : Prop :=
  ∃ rows, List.Forall₂ IsFieldRow plan.fields rows ∧
    lines = [.text ("### " ++ plan.name.display), .text ""]
      ++ (if plan.description.isTruthy then [plan.description, .text ""] else [])
      ++ (aliasLines plan.composite).map .text
      ++ (if rows = [] then []
        else (["| Field | Type | Description |", "|-------|------|-------------|"] ++ rows
          ++ [""]).map .text)

/-- The sections of messages in a document are those of plans, under a heading of their own; the
title and the table of contents stand before them, and the chapters of enumerations and services
after them. -/
def Lists (context : SchemaContext) (schema : SchemaUnit) (plans : List MessagePlan)
    (text : String) : Prop :=
  ∃ view listed sections enums services lines, SchemaView.of context schema = .ok view ∧
    contents view = .ok listed ∧ List.Forall₂ IsSectionOf plans sections ∧
    chapter "Enums" view.enums enumSection = .ok enums ∧
    chapter "Services" view.services serviceSection = .ok services ∧
    lines.map .text = (headLines view.title ++ listed).map .text
      ++ (if sections = [] then [] else [.text "## Messages", .text ""] ++ sections.flatten)
      ++ enums ++ services ∧
    Text.IsEndedOnce (String.intercalate "\n" lines) text

theorem isFieldRow_of_fieldRow {planned : PlannedField} {line : String}
    (written : fieldRow planned = .ok line) : IsFieldRow planned line := by
  rcases bind_eq_ok_iff.mp written with ⟨description, escaped, final⟩
  cases final
  refine ⟨description, escaped, ?_⟩
  have mark : tick = "`" := by decide
  simp [row, code, mark, ← String.toList_inj, String.toList_append]

/-- Lines that are made of the results for some items are none when there are no results. -/
theorem exists_of_unlessEmpty {α β γ : Type} {step : α → Asked β} {items : List α}
    {build : List β → List γ} {lines : List γ}
    (written : (if items.isEmpty then .ok [] else do return build (← items.mapM step) :
      Asked (List γ)) = .ok lines) :
    ∃ results, List.Forall₂ (fun item result => step item = .ok result) items results ∧
      lines = if results.isEmpty then [] else build results := by
  split at written
  · rename_i none
    cases written
    exact ⟨[], by rw [List.isEmpty_iff.mp none]; exact .nil, rfl⟩
  · rename_i some
    rcases bind_eq_ok_iff.mp written with ⟨results, each, final⟩
    cases final
    have related := mapM_eq_ok_iff.mp each
    refine ⟨results, related, ?_⟩
    rw [if_neg]
    rw [List.isEmpty_iff] at some ⊢
    rintro rfl
    exact some (List.forall₂_nil_right_iff.mp related)

theorem isSectionOf_of_messageSection {plan : MessagePlan} {lines : List Value}
    (written : messageSection plan = .ok lines) : IsSectionOf plan lines := by
  rcases bind_eq_ok_iff.mp written with ⟨table, tabled, final⟩
  cases final
  rcases exists_of_unlessEmpty tabled with ⟨rows, each, rfl⟩
  refine ⟨rows, each.imp fun _ _ => isFieldRow_of_fieldRow, ?_⟩
  rw [headingLines, textLines, textLines, descriptionLines, List.map_append, ← List.append_assoc]
  cases rows <;> rfl

theorem exists_sections_of_chapter {plans : List MessagePlan} {lines : List Value}
    (written : chapter "Messages" plans messageSection = .ok lines) :
    ∃ sections, List.Forall₂ IsSectionOf plans sections ∧
      lines = if sections = [] then []
        else [.text "## Messages", .text ""] ++ sections.flatten := by
  rcases exists_of_unlessEmpty written with ⟨sections, each, made⟩
  refine ⟨sections, each.imp fun _ _ => isSectionOf_of_messageSection, ?_⟩
  rw [made]
  cases sections <;> rfl

/-- Lines that are admitted are texts. -/
theorem eq_map_text_of_admitText {lines : List Value} {texts : List String}
    (admitted : lines.mapM (·.admitText) = .ok texts) : texts.map .text = lines := by
  rw [← List.forall₂_eq_eq_eq, List.forall₂_map_left_iff]
  refine (mapM_eq_ok_iff.mp admitted).flip.imp fun text line own => ?_
  cases line <;> cases own
  rfl

/-- The reference document of a unit lists its plans. -/
theorem lists_of_emit {context : SchemaContext} {schema : SchemaUnit} {plans : List MessagePlan}
    {text : String} (planned : context.messagePlans schema.composites = .ok plans)
    (written : emit context schema = .ok text) : Lists context schema plans text := by
  rcases bind_eq_ok_iff.mp written with ⟨view, viewed, written⟩
  rcases SchemaView.plans_of viewed with ⟨-, again, -⟩
  cases planned.symm.trans again
  rcases bind_eq_ok_iff.mp written with ⟨all, listed, written⟩
  rcases bind_eq_ok_iff.mp written with ⟨lines, admitted, final⟩
  cases final
  rcases bind_eq_ok_iff.mp listed with ⟨start, contained, listed⟩
  rcases bind_eq_ok_iff.mp listed with ⟨messages, ofMessages, listed⟩
  rcases bind_eq_ok_iff.mp listed with ⟨enums, ofEnums, listed⟩
  rcases bind_eq_ok_iff.mp listed with ⟨services, ofServices, final⟩
  cases final
  rcases exists_sections_of_chapter ofMessages with ⟨sections, each, rfl⟩
  exact ⟨view, start, sections, enums, services, lines, viewed, contained, each, ofEnums,
    ofServices, eq_map_text_of_admitText admitted, Text.isEndedOnce_endedOnce _⟩

end Markdown

/-! ## TypeScript -/

namespace TypeScript

/-- The line of a member: its comment, its name, a mark when it may be absent,
and its type.  All marks are spelled out here, so that what is said of a member
does not depend on its printer. -/
def IsMemberLine (description : Value) (name : String) (mayBeAbsent : Bool) (type line : String) :
    Prop :=
  line = comment "  " description ++ "  " ++ name ++ (if mayBeAbsent then "?" else "") ++ ": "
    ++ type ++ ";\n"

/-- The text of an interface: its comment, its name, and the lines of its
members in braces.  Nothing stands between the lines, and an empty line follows
the closing brace. -/
def IsInterfaceText (description : Value) (name : String) (members : List String)
    (definition : String) : Prop :=
  definition = comment "" description ++ "export interface " ++ name ++ " \x7b\n"
    ++ String.join members ++ "\x7d\n\n"

/-- The member of an interface for a field: under its name in JSON, and marked when it may be
absent. -/
def IsMemberOf (context : SchemaContext) (planned : PlannedField) (member : String) : Prop :=
  ∃ name type, planned.field.jsonName context.model = .ok name ∧
    fieldType context.types planned = .ok type ∧
    IsMemberLine planned.description name planned.mayBeAbsent type member

/-- The definition of a message under its name: the type of its instantiation for an alias, and an
interface with a member for each of its fields otherwise. -/
inductive IsDefinitionOf (context : SchemaContext) (plan : MessagePlan) : String → Prop where
  | instantiation {target : Value} {type : String} (isAlias : plan.composite.target? = some target)
      (typed : exprType context.types [] (plan.composite.instantiation target) = .ok type) :
      IsDefinitionOf context plan (comment "" plan.description ++ "export type "
        ++ plan.name.display ++ " = " ++ type ++ ";\n\n")
  | interface {members : List String} {definition : String}
      (plain : plan.composite.target? = none)
      (each : List.Forall₂ (IsMemberOf context) plan.fields members)
      (text : IsInterfaceText plan.description plan.name.display members definition) :
      IsDefinitionOf context plan definition

/-- The definitions for messages in a text are those of plans, which follow the definitions of
enumerations and templates. -/
def Lists (context : SchemaContext) (schema : SchemaUnit) (plans : List MessagePlan)
    (definitions : List String) (text : String) : Prop :=
  ∃ view enums templates, SchemaView.of context schema = .ok view ∧
    view.enums.mapM enumText = .ok enums ∧ view.templates.mapM (templateText view) = .ok templates ∧
    List.Forall₂ (IsDefinitionOf context) plans definitions ∧
    Text.IsEndedOnce (headText ++ String.join (enums ++ templates ++ definitions)) text

theorem isMemberOf_of_fieldText {context : SchemaContext} {planned : PlannedField} {member : String}
    (written : fieldText context planned = .ok member) : IsMemberOf context planned member := by
  rcases bind_eq_ok_iff.mp written with ⟨name, named, written⟩
  rcases bind_eq_ok_iff.mp written with ⟨type, typed, final⟩
  cases final
  exact ⟨name, type, named, typed, rfl⟩

theorem isDefinitionOf_of_messageText {context : SchemaContext} {plan : MessagePlan}
    {definition : String} (written : messageText context plan = .ok definition) :
    IsDefinitionOf context plan definition := by
  unfold messageText at written
  split at written
  · rename_i target isAlias
    rcases bind_eq_ok_iff.mp written with ⟨type, typed, final⟩
    cases final
    exact .instantiation isAlias typed
  · rename_i plain
    rcases bind_eq_ok_iff.mp written with ⟨members, each, final⟩
    cases final
    refine .interface plain ((mapM_eq_ok_iff.mp each).imp fun _ _ => isMemberOf_of_fieldText) ?_
    simp [IsInterfaceText, braced, ← String.toList_inj, String.toList_append]

/-- The TypeScript of a unit lists its plans. -/
theorem exists_definitions_of_emit {context : SchemaContext} {schema : SchemaUnit}
    {plans : List MessagePlan} {text : String}
    (planned : context.messagePlans schema.composites = .ok plans)
    (written : emit context schema = .ok text) :
    ∃ definitions, Lists context schema plans definitions text := by
  rcases bind_eq_ok_iff.mp written with ⟨view, viewed, written⟩
  rcases SchemaView.plans_of viewed with ⟨-, again, -⟩
  cases planned.symm.trans again
  rcases bind_eq_ok_iff.mp written with ⟨enums, ofEnums, written⟩
  rcases bind_eq_ok_iff.mp written with ⟨templates, ofTemplates, written⟩
  rcases bind_eq_ok_iff.mp written with ⟨definitions, each, final⟩
  exact ⟨definitions, view, enums, templates, viewed, ofEnums, ofTemplates,
    (mapM_eq_ok_iff.mp each).imp fun _ _ => isDefinitionOf_of_messageText,
    (Except.ok.inj final) ▸ Text.isEndedOnce_endedOnce _⟩

end TypeScript

/-! ## Stub data -/

namespace Stub

/-- The descriptor of a field under its names.  Everything else in a descriptor
tells how a value is converted and is not compared with other outputs. -/
structure IsFieldInfoOf (planned : PlannedField) (info : FieldInfo) : Prop where
  schemaName : info.schemaName = planned.name
  sourceName : info.sourceName = planned.field.name

/-- The descriptor of a message: it has the message's names and a descriptor for
each of its fields, in the same order.  Adapter stubs are filled from descriptors
alone, so that this is what they agree on with the other outputs. -/
structure IsTypeInfoOf (plan : MessagePlan) (info : TypeInfo) : Prop where
  name : info.name = plan.name
  sourceName : info.sourceName = plan.composite.name
  isEnum : info.isEnum = false
  fields : List.Forall₂ IsFieldInfoOf plan.fields info.fields

theorem isFieldInfoOf_of_fieldInfo {types : ConvertedTypes} {planned : PlannedField}
    {info : FieldInfo} (described : fieldInfo types planned = .ok info) :
    IsFieldInfoOf planned info := by
  unfold fieldInfo at described
  split at described
  · rcases bind_eq_ok_iff.mp described with ⟨conversion, -, final⟩
    cases final
    exact ⟨rfl, rfl⟩
  · rcases exists_of_plainFieldInfo described with ⟨value, helper, pointer, -, -, -, rfl⟩
    exact ⟨rfl, rfl⟩

theorem isTypeInfoOf_of_messageInfo {types : ConvertedTypes} {plan : MessagePlan} {info : TypeInfo}
    (described : messageInfo types plan = .ok info) : IsTypeInfoOf plan info := by
  rcases exists_of_messageInfo described with ⟨fields, made⟩
  rw [made]
  exact ⟨rfl, rfl, rfl, fields.imp fun _ _ => isFieldInfoOf_of_fieldInfo⟩

/-- Conversions of maps are shared without a change of names. -/
theorem IsTypeInfoOf.sharing {plan : MessagePlan} {info : TypeInfo} (own : IsTypeInfoOf plan info)
    (maps : List MapConversion) : IsTypeInfoOf plan (info.sharing maps) where
  name := own.name
  sourceName := own.sourceName
  isEnum := own.isEnum
  fields := List.forall₂_map_right_iff.mpr
    (own.fields.imp fun _ _ field => ⟨field.schemaName, field.sourceName⟩)

section Plans

variable {context : SchemaContext} {plans : List MessagePlan}

/-- The descriptors of composite types are those of the plans of their messages. -/
theorem typeInfos_of_messageInfos {composites : List Composite} {types : ConvertedTypes}
    {lists : List (List TypeInfo)} (planned : context.messagePlans composites = .ok plans)
    (described : composites.mapM (messageInfos context types) = .ok lists) :
    List.Forall₂ IsTypeInfoOf plans lists.flatten := by
  rcases exists_plans_of_messageInfos described with ⟨others, again, each⟩
  cases planned.symm.trans again
  exact each.imp fun _ _ => isTypeInfoOf_of_messageInfo

/-- The types of the stub data of a model are those of the plans of its messages. -/
theorem types_of_stubData {stubs : StubOptions} {commandLine : String} {data : StubData}
    (planned : context.messagePlans context.model.composites = .ok plans)
    (made : StubData.of context stubs commandLine = .ok data) :
    List.Forall₂ IsTypeInfoOf plans data.types := by
  rcases StubData.exists_isMadeOf made with ⟨converted, lists, origin⟩
  rw [origin.types]
  have each := typeInfos_of_messageInfos planned origin.ofComposites
  exact List.forall₂_map_right_iff.mpr (each.imp fun _ _ own => own.sharing data.maps)

end Plans

end Stub

end WireSchema
