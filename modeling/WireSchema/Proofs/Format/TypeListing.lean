import Mathlib.Data.List.Count
import WireSchema.Proofs.Format.Properties
import WireSchema.Proofs.Validation.Plans

namespace WireSchema

/-!
# The types that a JSON Schema document lists

Besides its definitions a document has properties, one for each message and each enumeration, and
each of them refers to the definition of its type.  A property stands under the name of its type in
small letters.  Different names may become the same in small letters, as `UserID` and `UserId` do,
and of the properties under one name the document keeps the last one.

So a type is listed unless a later type has its name in small letters, and it is listed once.  All
types are listed exactly when their names differ in small letters.
-/

open Asked

namespace JsonSchema

/-- The references of the properties of a document, in order.  Properties without
a reference are passed over, as are all definitions. -/
def propertyReferences (document : Value) : List String :=
  (((document.member? "properties").bind Value.members?).getD []).filterMap fun property =>
    (property.2.member? "$ref").bind Value.text?

/-- Names in a table by what they are in small letters: of several that are the same there, the last
one. -/
def lastNames (names : List String) : List String :=
  (setKeys (names.map fun name => (Text.toSnakeCase name, name))).map (·.2)

/-- A unit is written with some types: the names and definitions of its messages, and behind them
those of the enumerations that are not left out. -/
def HasTypes (context : SchemaContext) (schema : SchemaUnit) (types : List (String × Members)) :
    Prop :=
  ∃ plans enums ofPlans ofEnums, context.messagePlans schema.composites = .ok plans ∧
    writtenEnums schema.enums = .ok enums ∧ types = ofPlans ++ ofEnums ∧
    List.Forall₂ (fun plan type => plan.name = .text type.1 ∧
      messageDefinition context.model plan = .ok type.2) plans ofPlans ∧
    List.Forall₂ (fun enum type => enum.schemaName = .ok (.text type.1) ∧
      enumDefinition enum = .ok type.2) enums ofEnums

/-! ## The entries of types -/

def Entry.type (entry : Entry) : String × Members :=
  (entry.name.display, entry.definition)

/-- An entry that is a property under its name in small letters.  Entries of
templates have no property and are not listed in this sense. -/
structure Entry.IsListed (entry : Entry) : Prop where
  name : entry.name = .text entry.name.display
  property : entry.property = some (Text.toSnakeCase entry.name.display)

theorem isListed_of_namedEntry {name : Value} {definition : Members} {entry : Entry}
    (made : namedEntry name definition = .ok entry) : entry.IsListed := by
  rcases bind_eq_ok_iff.mp made with ⟨key, asked, made⟩
  rcases bind_eq_ok_iff.mp made with ⟨snake, worded, final⟩
  cases final
  rcases eq_text_of_snakeCaseOf worded with ⟨content, rfl, rfl⟩
  exact ⟨rfl, rfl⟩

theorem isListed_of_messageEntry {model : Model} {plan : MessagePlan} {entry : Entry}
    (made : messageEntry model plan = .ok entry) : entry.IsListed := by
  rcases bind_eq_ok_iff.mp made with ⟨definition, -, made⟩
  exact isListed_of_namedEntry made

theorem isListed_of_enumEntry {enum : EnumType} {entry : Entry}
    (made : enumEntry enum = .ok entry) : entry.IsListed := by
  rcases bind_eq_ok_iff.mp made with ⟨name, -, made⟩
  rcases bind_eq_ok_iff.mp made with ⟨definition, -, made⟩
  exact isListed_of_namedEntry made

theorem property_of_templateEntry {view : SchemaView} {template : Composite} {entry : Entry}
    (made : templateEntry view template = .ok entry) : entry.property = none := by
  rcases bind_eq_ok_iff.mp made with ⟨definition, -, made⟩
  rcases bind_eq_ok_iff.mp made with ⟨name, -, final⟩
  cases final
  rfl

/-- The properties of a document are a table of its types by their names in small letters. -/
theorem properties_eq {templates listed : List Entry}
    (unlisted : ∀ entry ∈ templates, entry.property = none)
    (each : ∀ entry ∈ listed, entry.IsListed) :
    properties (templates ++ listed) =
      (setKeys ((listed.map (·.type.1)).map fun name => (Text.toSnakeCase name, name))).map
        fun pair => (.text pair.1, .map (reference (.text pair.2))) := by
  have pairs : (templates ++ listed).filterMap (fun entry => entry.property.map fun property =>
      (Value.text property, Value.map (reference entry.name))) =
        ((listed.map (·.type.1)).map fun name => (Text.toSnakeCase name, name)).map
          fun pair => (.text pair.1, .map (reference (.text pair.2))) := by
    have none : templates.filterMap (fun entry => entry.property.map fun property =>
        (Value.text property, Value.map (reference entry.name))) = [] := by
      rw [List.filterMap_eq_nil_iff]
      intro entry member
      rw [unlisted entry member]
      rfl
    rw [List.filterMap_append, none, List.nil_append, List.map_map, List.map_map,
      ← List.filterMap_eq_map]
    refine List.filterMap_congr fun entry member => ?_
    rw [(each entry member).property, (each entry member).name]
    rfl
  rw [properties, pairs]
  exact setKeys_map Value.text (fun name => Value.map (reference (.text name)))
    (fun first second => Value.text_beq_text first second) _

theorem propertyReferences_document (title : Value) {templates listed : List Entry}
    (unlisted : ∀ entry ∈ templates, entry.property = none)
    (each : ∀ entry ∈ listed, entry.IsListed) :
    propertyReferences (document title (templates ++ listed)) =
      (lastNames (listed.map (·.type.1))).map ("#/definitions/" ++ ·) := by
  have found : (document title (templates ++ listed)).member? "properties" =
      some (.map (properties (templates ++ listed))) := rfl
  rw [propertyReferences, found, properties_eq unlisted each, lastNames]
  generalize setKeys ((listed.map (·.type.1)).map fun name => (Text.toSnakeCase name, name)) = table
  rw [Option.bind_some, Value.members?, Option.getD_some, List.filterMap_map, List.map_map,
    ← List.filterMap_eq_map]
  rfl

/-! ## How often a type is listed -/

theorem nodup_map_iff {α β : Type} {view : α → β} {items : List α} :
    (items.map view).Nodup ↔
      ∀ before item after, items = before ++ item :: after → view item ∉ after.map view := by
  induction items with
  | nil => simp
  | cons first items ih =>
      rw [List.map_cons, List.nodup_cons, ih]
      constructor
      · rintro ⟨alone, rest⟩ before item after parted
        rcases List.cons_eq_append_iff.mp parted with ⟨rfl, same⟩ | ⟨before, rfl, same⟩
        · cases same
          exact alone
        · exact rest before item after same
      · intro apart
        exact ⟨apart [] first items rfl, fun before item after parted =>
          apart (first :: before) item after (by rw [parted, List.cons_append])⟩

theorem injective_definitionReference : Function.Injective ("#/definitions/" ++ ·) := by
  intro first second same
  have letters := congrArg String.toList same
  rw [String.toList_append, String.toList_append] at letters
  exact String.toList_inj.mp (List.append_cancel_left letters)

/-- Among different names, one is kept unless a later one is the same in small letters. -/
theorem count_lastNames {names before after : List String} {name : String} (distinct : names.Nodup)
    (parted : names = before ++ name :: after) :
    (lastNames names).count name =
      if Text.toSnakeCase name ∈ after.map Text.toSnakeCase then 0 else 1 := by
  let entry (name : String) := (Text.toSnakeCase name, name)
  have different : ((names.map entry).map (·.2)).Nodup := by
    rw [List.map_map]
    exact (List.map_id names).symm ▸ distinct
  have places : names.map entry = before.map entry ++ entry name :: after.map entry := by
    rw [parted, List.map_append, List.map_cons]
  have count := count_setKeys different places
  rw [List.map_map] at count
  exact count

/-! ## The types of a unit -/

variable {context : SchemaContext} {schema : SchemaUnit} {types : List (String × Members)}

theorem forall₂_map_type {α : Type} {relation : α → String × Members → Prop} {items : List α}
    {entries : List Entry}
    (related : List.Forall₂ (fun item entry => relation item (Entry.type entry)) items entries) :
    List.Forall₂ relation items (entries.map Entry.type) :=
  List.forall₂_map_right_iff.mpr related

/-- No two types of a unit that is accepted have one name, as long as no enumeration has the name of
a message. -/
theorem nodup_names_of_hasTypes {found : List Finding}
    (accepted : Validation.check context schema = .ok found)
    (apart : HasDisjointNames context schema) (typed : HasTypes context schema types) :
    (types.map (·.1)).Nodup := by
  rcases typed with ⟨plans, enums, ofPlans, ofEnums, planned, selected, rfl, eachPlan, eachEnum⟩
  rcases Validation.exists_messagePlans_of_check accepted with ⟨others, again, distinct⟩
  cases planned.symm.trans again
  have planNames : plans.map (·.name) = (ofPlans.map (·.1)).map .text := by
    rw [List.map_map, ← List.forall₂_eq_eq_eq, List.forall₂_map_left_iff,
      List.forall₂_map_right_iff]
    exact eachPlan.imp fun _ _ own => own.1
  have enumNames : enums.mapM EnumType.schemaName = .ok ((ofEnums.map (·.1)).map .text) := by
    rw [List.map_map, mapM_eq_ok_iff, List.forall₂_map_right_iff]
    exact eachEnum.imp fun _ _ own => own.1
  have distinctEnums : Value.Distinct ((ofEnums.map (·.1)).map .text) :=
    not_not.mp fun repeated =>
      Validation.not_defect_of_check accepted (.enumName selected enumNames repeated)
  rw [planNames, Value.distinct_map_text] at distinct
  rw [Value.distinct_map_text] at distinctEnums
  rw [List.map_append]
  refine List.nodup_append.mpr ⟨distinct, distinctEnums, ?_⟩
  intro name ofPlan other ofEnum same
  rcases List.mem_map.mp ofPlan with ⟨first, listed, rfl⟩
  rcases List.mem_map.mp ofEnum with ⟨second, written, rfl⟩
  rcases exists_left_of_forall₂ eachPlan listed with ⟨plan, amongPlans, own⟩
  rcases exists_left_of_forall₂ eachEnum written with ⟨enum, amongEnums, named⟩
  refine apart plans enums planned selected plan amongPlans enum amongEnums ?_
  rw [named.1, own.1, same]

/-- The names of types as they are written. -/
theorem names_of_hasTypes {names enumNames : List String} (typed : HasTypes context schema types)
    (ofPlans : (context.messagePlans schema.composites).toOption.map (·.map (·.name.display)) =
      some names)
    (ofEnums : (writtenEnums schema.enums).toOption.map
      (·.map (·.schemaName.toOption.map (·.display))) = some (enumNames.map some)) :
    types.map (·.1) = names ++ enumNames := by
  rcases typed with ⟨plans, enums, planTypes, enumTypes, planned, selected, rfl, eachPlan, eachEnum⟩
  rw [planned] at ofPlans
  rw [selected] at ofEnums
  have first : planTypes.map (·.1) = names := by
    rw [← Option.some.inj ofPlans, ← List.forall₂_eq_eq_eq, List.forall₂_map_left_iff,
      List.forall₂_map_right_iff]
    refine eachPlan.flip.imp fun type plan own => ?_
    rw [own.1]
    rfl
  have second : (enumTypes.map (·.1)).map some = enumNames.map some := by
    rw [← Option.some.inj ofEnums, List.map_map, ← List.forall₂_eq_eq_eq,
      List.forall₂_map_left_iff, List.forall₂_map_right_iff]
    refine eachEnum.flip.imp fun type enum own => ?_
    rw [own.1]
    rfl
  have injective : Function.Injective (some : String → Option String) := fun _ _ => Option.some.inj
  rw [List.map_append, first, List.map_injective_iff.mpr injective second]

/-- The document of a unit lists the types of the unit by a table, and defines them. -/
theorem exists_types_of_emit {text : String} (written : emit context schema = .ok text) :
    ∃ document types, IsPrinted document text ∧ HasTypes context schema types ∧
      propertyReferences document = (lastNames (types.map (·.1))).map ("#/definitions/" ++ ·) ∧
      ((types.map (·.1)).Nodup → ∀ type ∈ types,
        definition? document type.1 = some (.map type.2)) := by
  rcases bind_eq_ok_iff.mp written with ⟨view, viewed, written⟩
  rcases SchemaView.plans_of viewed with ⟨same, planned, selected⟩
  rcases bind_eq_ok_iff.mp written with ⟨entries, entered, written⟩
  rcases bind_eq_ok_iff.mp written with ⟨body, printed, final⟩
  rcases bind_eq_ok_iff.mp entered with ⟨templates, ofTemplates, entered⟩
  rcases bind_eq_ok_iff.mp entered with ⟨messages, ofMessages, entered⟩
  rcases bind_eq_ok_iff.mp entered with ⟨enums, ofEnums, entered⟩
  cases entered
  rw [same] at ofMessages
  have unlisted : ∀ entry ∈ templates, entry.property = none := by
    intro entry member
    rcases exists_of_mem_mapM ofTemplates member with ⟨template, -, made⟩
    exact property_of_templateEntry made
  have each : ∀ entry ∈ messages ++ enums, entry.IsListed := by
    intro entry member
    rcases List.mem_append.mp member with ofMessage | ofEnum
    · rcases exists_of_mem_mapM ofMessages ofMessage with ⟨plan, -, made⟩
      exact isListed_of_messageEntry made
    · rcases exists_of_mem_mapM ofEnums ofEnum with ⟨enum, -, made⟩
      exact isListed_of_enumEntry made
  rw [List.append_assoc] at printed
  refine ⟨_, (messages ++ enums).map Entry.type, ⟨body, printed, (Except.ok.inj final).symm⟩, ?_,
    ?_, ?_⟩
  · refine ⟨view.plans, view.enums, messages.map Entry.type, enums.map Entry.type,
      planned, selected, List.map_append, forall₂_map_type ?_, forall₂_map_type ?_⟩
    · exact (mapM_eq_ok_iff.mp ofMessages).imp fun plan entry made => by
        rcases messageEntry_eq_ok made with ⟨isText, named, defined⟩
        exact ⟨by rw [Entry.type, named]; exact isText, defined⟩
    · exact (mapM_eq_ok_iff.mp ofEnums).imp fun enum entry made => by
        rcases enumEntry_eq_ok made with ⟨named, isText, defined⟩
        exact ⟨by rw [named]; exact congrArg Except.ok isText, defined⟩
  · rw [propertyReferences_document _ unlisted each, List.map_map]
    rfl
  · intro distinct type member
    rcases List.mem_map.mp member with ⟨entry, among, rfl⟩
    rcases List.append_of_mem among with ⟨early, late, parted⟩
    rw [definition?_document, parted, ← List.append_assoc]
    refine lookupKey?_definitions (each entry among).name ?_
    rw [parted, List.map_map] at distinct
    intro again
    rcases List.mem_map.mp again with ⟨other, later, sameName⟩
    refine nodup_map_iff.mp distinct early entry late rfl (List.mem_map.mpr ⟨other, later, ?_⟩)
    change other.name.display = entry.name.display
    rw [sameName]
    rfl

/-- Which types a document lists.  A unit that is accepted, and in which no enumeration has the name
of a message, has types with different names, and its document defines each of them under its name.
One property refers to a type, and just one does, unless a later type has the same name in small
letters.  So every type is listed exactly once when and only when all names differ in small
letters. -/
theorem typeListing_of_emit {found : List Finding} {text : String}
    (accepted : Validation.check context schema = .ok found)
    (apart : HasDisjointNames context schema) (written : emit context schema = .ok text) :
    ∃ document types names, IsPrinted document text ∧ HasTypes context schema types ∧
      types.map (·.1) = names ∧ names.Nodup ∧
      (∀ type ∈ types, definition? document type.1 = some (.map type.2)) ∧
      (∀ before name after, names = before ++ name :: after →
        (propertyReferences document).count ("#/definitions/" ++ name) =
          if Text.toSnakeCase name ∈ after.map Text.toSnakeCase then 0 else 1) ∧
      ((∀ name ∈ names, (propertyReferences document).count ("#/definitions/" ++ name) = 1) ↔
        (names.map Text.toSnakeCase).Nodup) := by
  rcases exists_types_of_emit written with ⟨document, types, printed, typed, references, defined⟩
  have distinct := nodup_names_of_hasTypes accepted apart typed
  have counted : ∀ before name after, types.map (·.1) = before ++ name :: after →
      (propertyReferences document).count ("#/definitions/" ++ name) =
        if Text.toSnakeCase name ∈ after.map Text.toSnakeCase then 0 else 1 := by
    intro before name after parted
    rw [references, List.count_map_of_injective _ _ injective_definitionReference]
    exact count_lastNames distinct parted
  refine ⟨document, types, _, printed, typed, rfl, distinct, defined distinct, counted, ?_⟩
  rw [nodup_map_iff]
  constructor
  · intro once before name after parted later
    have count := counted before name after parted
    rw [if_pos later, once name (parted ▸ List.mem_append_right before List.mem_cons_self)] at count
    cases count
  · intro apartInSmall name member
    rcases List.append_of_mem member with ⟨before, after, parted⟩
    rw [counted before name after parted, if_neg (apartInSmall before name after parted)]

/-- A model with two types whose names are the same in small letters, and with an enumeration. -/
def accountModel : Model :=
  { composites :=
      [{ name := .text "UserID", fields := [{ name := .text "Id", type := .named "int64" "" }] },
       { name := .text "UserId", fields := [{ name := .text "Id", type := .named "int64" "" }] }]
    enums := [{ name := .text "Color" }] }

def accountContext : SchemaContext := .of accountModel {}

theorem names_accountModel :
    (accountContext.messagePlans accountModel.wholeUnit.composites).toOption.map
        (·.map (·.name.display)) = some ["UserID", "UserId"] ∧
      (writtenEnums accountModel.wholeUnit.enums).toOption.map
        (·.map (·.schemaName.toOption.map (·.display))) = some (["Color"].map some) := by
  decide +kernel

theorem hasDisjointNames_accountModel : HasDisjointNames accountContext accountModel.wholeUnit :=
  hasDisjointNames_of_display names_accountModel.1 names_accountModel.2 (by decide)

theorem typeListing_of_emit_accountModel :
    ∃ document text, emit accountContext accountModel.wholeUnit = .ok text ∧
      IsPrinted document text ∧
      (propertyReferences document).count "#/definitions/UserID" = 0 ∧
      (propertyReferences document).count "#/definitions/UserId" = 1 ∧
      (propertyReferences document).count "#/definitions/Color" = 1 := by
  have accepted : (Validation.check accountContext accountModel.wholeUnit).toOption.isSome =
      true := by
    decide +kernel
  have written : (emit accountContext accountModel.wholeUnit).toOption.isSome = true := by
    decide +kernel
  rcases exists_of_isSome_toOption accepted with ⟨found, accepted⟩
  rcases exists_of_isSome_toOption written with ⟨text, written⟩
  rcases typeListing_of_emit accepted hasDisjointNames_accountModel written with
    ⟨document, types, names, printed, typed, named, -, -, counted, -⟩
  rw [names_of_hasTypes typed names_accountModel.1 names_accountModel.2] at named
  subst named
  refine ⟨document, text, written, printed, ?_, ?_, ?_⟩
  · exact (counted [] "UserID" ["UserId", "Color"] rfl).trans (by decide +kernel)
  · exact (counted ["UserID"] "UserId" ["Color"] rfl).trans (by decide +kernel)
  · exact (counted ["UserID", "UserId"] "Color" [] rfl).trans (by decide +kernel)

/-- Names that are the same in small letters lose a type: the document of this unit, which is
accepted, refers to `UserId` and to `Color`, and not to `UserID`. -/
theorem propertyReferences_accountModel :
    ∃ found text document, Validation.check accountContext accountModel.wholeUnit = .ok found ∧
      HasDisjointNames accountContext accountModel.wholeUnit ∧
      emit accountContext accountModel.wholeUnit = .ok text ∧ IsPrinted document text ∧
      (definition? document "UserID").isSome = true ∧
      propertyReferences document = ["#/definitions/UserId", "#/definitions/Color"] := by
  have accepted : (Validation.check accountContext accountModel.wholeUnit).toOption.isSome =
      true := by
    decide +kernel
  have written : (emit accountContext accountModel.wholeUnit).toOption.isSome = true := by
    decide +kernel
  have shown : ((SchemaView.of accountContext accountModel.wholeUnit).toOption.bind fun view =>
      (entries view).toOption.map fun listed =>
        ((definition? (document view.title listed) "UserID").isSome,
          propertyReferences (document view.title listed))) =
      some (true, ["#/definitions/UserId", "#/definitions/Color"]) := by
    decide +kernel
  rcases exists_of_isSome_toOption accepted with ⟨found, accepted⟩
  rcases exists_of_isSome_toOption written with ⟨text, written⟩
  rcases bind_eq_ok_iff.mp written with ⟨view, viewed, rest⟩
  rcases bind_eq_ok_iff.mp rest with ⟨listed, entered, rest⟩
  rcases bind_eq_ok_iff.mp rest with ⟨body, printed, final⟩
  rw [viewed] at shown
  simp only [Except.toOption, Option.bind_some, entered, Option.map_some, Option.some.injEq,
    Prod.mk.injEq] at shown
  exact ⟨found, text, document view.title listed, accepted, hasDisjointNames_accountModel, written,
    ⟨body, printed, (Except.ok.inj final).symm⟩, shown.1, shown.2⟩

end JsonSchema

end WireSchema
