import Mathlib
import WireSchema.Proofs.Format.Listing
import WireSchema.Proofs.Validation.Plans

namespace WireSchema

/-!
# The names that a file declares

A file declares messages, enumerations and services, each in a block that opens under its name.  The
validation goes through the names of each kind by themselves, so no two declarations of one kind
have one name.  Names of different kinds are never compared: all names of a file are different
exactly when no two kinds share one.
-/

open Asked

/-- Texts are different as values exactly when they are written differently. -/
theorem Value.nodup_display_iff {values : List Value} (texts : ∀ value ∈ values, value.IsText) :
    (values.map Value.display).Nodup ↔ Value.Distinct values := by
  rw [List.Nodup, List.pairwise_map, Value.Distinct]
  apply List.Pairwise.iff_of_mem
  intro first second member further
  rcases texts first member with ⟨content, rfl⟩
  rcases texts second further with ⟨other, rfl⟩
  rw [Value.display_text, Value.display_text, Value.text_beq_text, beq_eq_false_iff_ne, ne_comm]

namespace ProtoText

/-! ## Blocks under their names -/

/-- A block that declares something under a name, after its description.  The
lines behind the opening brace are left open: only the name has to be the one in
writing. -/
def Declares (word : String) (name : Value) (block : String) : Prop :=
  ∃ description lines, block = blockText
    (commentLines "" description ++ (word ++ " " ++ name.display ++ " \x7b") :: lines)

/-- The names under which a file declares messages, enumerations and services.
The schema language has one scope for all three, so they must differ across
kinds. -/
structure DeclaredNames where
  messages : List Value
  enums : List Value
  services : List Value
deriving Repr

namespace DeclaredNames

/-- All names of a file, in the order of its blocks. -/
def all (names : DeclaredNames) : List Value :=
  names.messages ++ names.enums ++ names.services

/-- No two declarations of one kind have one name.  This is what the scan
enforces, with a set of names for each kind. -/
structure AreDistinct (names : DeclaredNames) : Prop where
  messages : Value.Distinct names.messages
  enums : Value.Distinct names.enums
  services : Value.Distinct names.services

/-- No two declarations of different kinds have one name.  Nothing in a run looks
for such names, so that this is a condition and never a result. -/
structure AreApart (names : DeclaredNames) : Prop where
  enums : ∀ name ∈ names.messages, ∀ other ∈ names.enums, (other == name) = false
  services : ∀ name ∈ names.messages ++ names.enums, ∀ other ∈ names.services,
    (other == name) = false

theorem distinct_all_iff {names : DeclaredNames} :
    Value.Distinct names.all ↔ names.AreDistinct ∧ names.AreApart := by
  rw [Value.Distinct, all, List.pairwise_append, List.pairwise_append]
  constructor
  · rintro ⟨⟨messages, enums, first⟩, services, second⟩
    exact ⟨⟨messages, enums, services⟩, ⟨first, second⟩⟩
  · rintro ⟨⟨messages, enums, services⟩, ⟨first, second⟩⟩
    exact ⟨⟨messages, enums, first⟩, services, second⟩

end DeclaredNames

/-- The names that the file of a unit declares, kind by kind.  They are asked of
the plans, as the names under which messages are written are known only from
there. -/
def declaredNames (context : SchemaContext) (schema : SchemaUnit) : Asked DeclaredNames := do
  let plans ← context.messagePlans schema.composites
  let enums ← (← writtenEnums schema.enums).mapM (·.schemaName)
  let services ← writtenServices context schema
  return { messages := plans.map (·.name), enums, services := services.map (·.name) }

variable {context : SchemaContext} {schema : SchemaUnit}

theorem declares_of_isBlockOf {options : Options} {plan : MessagePlan} {block : String}
    (written : IsBlockOf options plan block) : Declares "message" plan.name block := by
  rcases written with ⟨fields, reserved, -, -, rfl⟩
  refine ⟨plan.description, fields.flatten ++ reserved ++ reservedNameLines plan ++ ["\x7d"], ?_⟩
  simp only [List.append_assoc, List.cons_append, List.nil_append]
  rfl

/-- The block of an enumeration declares it under its name, and has lines for each value. -/
theorem exists_of_enumBlock {enum : EnumType} {block : String}
    (written : enumBlock enum = .ok block) :
    ∃ name values, enum.schemaName = .ok name ∧ enum.values.mapM enumValueLines = .ok values ∧
      Declares "enum" name block := by
  rcases bind_eq_ok_iff.mp written with ⟨lines, listed, final⟩
  rcases bind_eq_ok_iff.mp listed with ⟨description, -, rest⟩
  rcases bind_eq_ok_iff.mp rest with ⟨name, named, rest⟩
  rcases bind_eq_ok_iff.mp rest with ⟨allowed, -, rest⟩
  rcases bind_eq_ok_iff.mp rest with ⟨values, each, own⟩
  cases own
  cases final
  refine ⟨name, values, named, each, description,
    (if allowed then ["  option allow_alias = true;"] else []) ++ values.flatten ++ ["\x7d"], ?_⟩
  simp only [List.append_assoc, List.cons_append, List.nil_append]
  rfl

theorem declares_serviceBlock (service : Service) :
    Declares "service" service.name (serviceBlock service) := by
  refine ⟨service.description, service.rpcs.flatMap rpcLines ++ ["\x7d"], ?_⟩
  simp only [serviceBlock, serviceLines, List.append_assoc, List.cons_append, List.nil_append]
  rfl

/-- The blocks of enumerations are those of the ones that are written; the others have empty
ones. -/
theorem exists_enumBlocks {enums : List EnumType} {blocks : List String}
    (written : enums.mapM writtenEnumBlock = .ok blocks) :
    ∃ kept own, writtenEnums enums = .ok kept ∧ kept.mapM enumBlock = .ok own ∧
      String.join blocks = String.join own := by
  induction enums generalizing blocks with
  | nil =>
      cases written
      exact ⟨[], [], rfl, rfl, rfl⟩
  | cons enum enums ih =>
      rw [List.mapM_cons] at written
      rcases bind_eq_ok_iff.mp written with ⟨block, first, rest⟩
      rcases bind_eq_ok_iff.mp rest with ⟨others, further, final⟩
      cases final
      rcases ih further with ⟨kept, own, selected, each, same⟩
      rcases bind_eq_ok_iff.mp first with ⟨isWritten, asked, first⟩
      have all := keepWhere_cons asked selected
      rw [String.join_cons, same]
      cases isWritten with
      | true =>
          exact ⟨enum :: kept, block :: own, all,
            mapM_cons_eq_ok ((if_pos rfl).symm.trans first) each, String.join_cons.symm⟩
      | false =>
          cases first
          exact ⟨kept, own, all, each, String.empty_append⟩

/-- Enumerations with blocks have names, under which the blocks declare them. -/
theorem exists_declares_of_enumBlocks {enums : List EnumType} {blocks : List String}
    (written : enums.mapM enumBlock = .ok blocks) :
    ∃ names, enums.mapM EnumType.schemaName = .ok names ∧
      List.Forall₂ (Declares "enum") names blocks := by
  have related := mapM_eq_ok_iff.mp written
  clear written
  induction related with
  | nil => exact ⟨[], rfl, .nil⟩
  | cons head _ ih =>
      rcases exists_of_enumBlock head with ⟨name, _, named, -, declares⟩
      rcases ih with ⟨names, others, rest⟩
      exact ⟨name :: names, mapM_cons_eq_ok named others, .cons declares rest⟩

/-! ## Names that are accepted -/

/-- The services that are written of a unit that is accepted have different names. -/
theorem distinct_writtenServices {found : List Finding} {services : List Service}
    (accepted : Validation.check context schema = .ok found)
    (resolved : writtenServices context schema = .ok services) :
    Value.Distinct (services.map (·.name)) := by
  rw [writtenServices] at resolved
  split at resolved
  · exact not_not.mp fun repeated =>
      Validation.not_defect_of_check accepted (.serviceName resolved repeated)
  · cases resolved
    exact List.Pairwise.nil

/-- A file declares its messages, enumerations and services block by block under their names.  Names
of one kind are different, and all names are different exactly when no two kinds share one; names
that are texts are also written differently then. -/
theorem declaredNames_of_generate (context : SchemaContext) (schema : SchemaUnit) (text : String)
    (written : generate context schema = .ok text) :
    ∃ names head messages enums services, declaredNames context schema = .ok names ∧
      text = head ++ String.join (messages ++ enums ++ services) ∧
      List.Forall₂ (Declares "message") names.messages messages ∧
      List.Forall₂ (Declares "enum") names.enums enums ∧
      List.Forall₂ (Declares "service") names.services services ∧
      names.AreDistinct ∧ (Value.Distinct names.all ↔ names.AreApart) ∧
      ((∀ name ∈ names.all, name.IsText) →
        ((names.all.map Value.display).Nodup ↔ names.AreApart)) := by
  rcases bind_eq_ok_iff.mp written with ⟨found, accepted, -⟩
  rcases Validation.exists_messagePlans_of_check accepted with ⟨plans, planned, distinct⟩
  rcases lists_of_generate planned written with
    ⟨services, head, messages, enums, resolved, -, each, ofEnums, rfl⟩
  rcases exists_enumBlocks ofEnums with ⟨kept, own, selected, ofKept, joined⟩
  rcases exists_declares_of_enumBlocks ofKept with ⟨enumNames, named, declares⟩
  have distinctEnums : Value.Distinct enumNames := not_not.mp fun repeated =>
    Validation.not_defect_of_check accepted (.enumName selected named repeated)
  have areDistinct : DeclaredNames.AreDistinct
      ⟨plans.map (·.name), enumNames, services.map (·.name)⟩ :=
    ⟨distinct, distinctEnums, distinct_writtenServices accepted resolved⟩
  have apart := DeclaredNames.distinct_all_iff.trans (and_iff_right areDistinct)
  refine ⟨_, head, messages, own, services.map serviceBlock, ?_, ?_, ?_, declares, ?_, areDistinct,
    apart, fun texts => (Value.nodup_display_iff texts).trans apart⟩
  · simp only [declaredNames, planned, selected, named, resolved, ok_bind, pure_eq_ok]
  · simp only [String.join_append, joined]
  · rw [List.forall₂_map_left_iff]
    exact each.imp fun _ _ => declares_of_isBlockOf
  · rw [List.forall₂_map_left_iff, List.forall₂_map_right_iff, List.forall₂_same]
    exact fun service _ => declares_serviceBlock service

/-- A model with a message, an enumeration and a service. -/
def libraryModel : Model :=
  { composites :=
      [{ name := .text "Book", fields := [{ name := .text "Title", type := .named "string" "" }] }]
    enums := [{ name := .text "Genre", values := [{ name := .text "Novel", index := .int 0 }] }]
    services :=
      [{ name := .text "Lending", annotations := [{ name := .text "service" }]
         methods := [{ name := .text "Lend", params := [{ type := .named "Book" "" }] }] }] }

theorem declaredNames_of_generate_libraryModel :
    ∃ text names, generate (.of libraryModel {}) libraryModel.wholeUnit = .ok text ∧
      declaredNames (.of libraryModel {}) libraryModel.wholeUnit = .ok names ∧
      names.all.map Value.display = ["Book", "Genre", "Lending"] ∧ names.AreApart := by
  have generated :
      (generate (.of libraryModel {}) libraryModel.wholeUnit).toOption.isSome = true := by
    decide +kernel
  have named : (declaredNames (.of libraryModel {}) libraryModel.wholeUnit).toOption.map
      (fun names => (names.all.map Value.display, names.all.all fun name => name.text?.isSome)) =
        some (["Book", "Genre", "Lending"], true) := by
    decide +kernel
  rcases exists_of_isSome_toOption generated with ⟨text, written⟩
  rcases exists_of_toOption_map named with ⟨names, found, shown⟩
  rcases Prod.mk.inj shown with ⟨displayed, textual⟩
  have texts : ∀ name ∈ names.all, name.IsText := by
    intro name member
    have shape := List.all_eq_true.mp textual name member
    cases name with
    | text content => exact Value.isText_text content
    | _ => cases shape
  rcases declaredNames_of_generate (.of libraryModel {}) libraryModel.wholeUnit text written with
    ⟨others, _, _, _, _, again, _, _, _, _, _, _, apart⟩
  cases found.symm.trans again
  exact ⟨text, names, written, found, displayed, (apart texts).mp (displayed ▸ by decide)⟩

/-- A model with a message and an enumeration of one name. -/
def sharedModel : Model :=
  { composites :=
      [{ name := .text "Status", fields := [{ name := .text "Code", type := .named "int32" "" }] }]
    enums := [{ name := .text "Status", values := [{ name := .text "Active", index := .int 0 }] }] }

/-- A message and an enumeration of one name pass the validation and are both declared. -/
theorem declaredNames_of_generate_sharedModel :
    ∃ names, generate (.of sharedModel {}) sharedModel.wholeUnit =
        .ok ("syntax = \"proto3\";\n\nmessage Status \x7b\n  int32 code = 1;\n\x7d\n\n" ++
          "enum Status \x7b\n  ACTIVE = 0;\n\x7d\n\n") ∧
      declaredNames (.of sharedModel {}) sharedModel.wholeUnit = .ok names ∧
      names.all.map Value.display = ["Status", "Status"] ∧ ¬Value.Distinct names.all := by
  have generated : (generate (.of sharedModel {}) sharedModel.wholeUnit).toOption.map id =
      some ("syntax = \"proto3\";\n\nmessage Status \x7b\n  int32 code = 1;\n\x7d\n\n" ++
        "enum Status \x7b\n  ACTIVE = 0;\n\x7d\n\n") := by
    decide +kernel
  have named : (declaredNames (.of sharedModel {}) sharedModel.wholeUnit).toOption.map
      DeclaredNames.all = some [.text "Status", .text "Status"] := by
    cbv
  rcases exists_of_toOption_map generated with ⟨text, written, same⟩
  rcases exists_of_toOption_map named with ⟨names, found, shown⟩
  refine ⟨names, written.trans (congrArg Except.ok same), found, by rw [shown]; rfl, ?_⟩
  rw [shown]
  intro distinct
  exact absurd ((Value.distinct_map_text ["Status", "Status"]).mp distinct) (by decide)

end ProtoText

end WireSchema
