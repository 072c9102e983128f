import Mathlib.Data.List.Perm.Basic
import WireSchema.Proofs.Failure
import WireSchema.Proofs.Validation.Parts
import WireSchema.Proofs.Validation.Refusal

namespace WireSchema

/-!
# Files of parts of a unit

A file is a head and the blocks of the declarations of its unit.  A block depends on its declaration
and on the context that all parts of a model share, and on nothing else; so the blocks of a unit are
put together from those of its declarations one by one.  Only heads differ between a unit and its
parts: a part imports what its own declarations refer to and the files of other parts.

A file can be written of every part of a unit of which one can be written, as long as all imports
are texts.  The condition is there for the order of the imports, which values of other kinds have
among themselves but not with the names of files.
-/

open Asked

namespace Asked

variable {α β : Type} {items : List α}

/-- The results of a step for each item are put together from those of the items one by one. -/
theorem eq_flatMap_of_mapM {step : α → Asked β} {results : List β}
    (each : items.mapM step = .ok results) :
    results = items.flatMap fun item => (step item).toOption.toList := by
  induction items generalizing results with
  | nil =>
      cases each
      rfl
  | cons item items ih =>
      rw [List.mapM_cons] at each
      rcases bind_eq_ok_iff.mp each with ⟨head, own, rest⟩
      rcases bind_eq_ok_iff.mp rest with ⟨tail, others, final⟩
      cases final
      rw [List.flatMap_cons, own, ← ih others]
      rfl

theorem flatten_eq_of_mapM {step : α → Asked (List β)} {lists : List (List β)}
    (each : items.mapM step = .ok lists) :
    lists.flatten = items.flatMap fun item => (step item).toOption.getD [] := by
  rw [eq_flatMap_of_mapM each, List.flatten_eq_flatMap, List.flatMap_assoc]
  congr 1
  funext item
  cases step item with
  | ok list => exact List.append_nil list
  | error fault => rfl

end Asked

/-! ## Imports that are texts -/

/-- Texts for the imports that are asked for and for those of known types.
Imports are put in order, and values of different kinds have none. -/
structure SchemaContext.HasTextImports (context : SchemaContext) : Prop where
  custom : ∃ items, context.options.customImports = some (.list items) ∧
    ∀ item ∈ items, item.IsText
  known : ∃ entries, context.types.known = .read entries ∧
    ∀ entry ∈ entries, entry.2.importPath.IsText

namespace Value

theorem mem_of_mem_distinct {values : List Value} {value : Value}
    (member : value ∈ distinct values) : value ∈ values := by
  have fold : ∀ kept, value ∈ values.foldl
      (fun kept value => if kept.contains value then kept else kept ++ [value]) kept →
      value ∈ kept ∨ value ∈ values := by
    clear member
    induction values with
    | nil => exact fun kept inside => Or.inl inside
    | cons first values ih =>
        intro kept inside
        rcases ih _ inside with before | later
        · beta_reduce at before
          split at before
          · exact Or.inl before
          · rcases List.mem_append.mp before with old | new
            · exact Or.inl old
            · exact Or.inr (List.mem_singleton.mp new ▸ List.mem_cons_self)
        · exact Or.inr (List.mem_cons_of_mem first later)
  exact (fold [] member).resolve_left List.not_mem_nil

/-- Texts have an order. -/
theorem succeeds_inOrder {values : List Value} (texts : ∀ value ∈ values, value.IsText) :
    (inOrder values).Succeeds := by
  have kind : ∀ value ∈ values, value.orderKind? = some .texts := by
    intro value member
    rcases texts value member with ⟨content, rfl⟩
    rfl
  match values, kind with
  | [], _ => exact succeeds_ok _
  | [value], _ => exact succeeds_ok _
  | first :: second :: others, kind =>
      rcases List.forall_mem_cons.mp kind with ⟨own, rest⟩
      have all : (second :: others).all (fun other => other.orderKind? == some .texts) = true := by
        refine List.all_eq_true.mpr fun other member => ?_
        rw [rest other member]
        rfl
      simp only [inOrder, own, all, if_true]
      exact succeeds_ok _

end Value

theorem TypeTable.importFor_isText {table : TypeTable} {type path : Value} {source : String}
    (known : ∃ entries, table.known = .read entries ∧ ∀ entry ∈ entries, entry.2.importPath.IsText)
    (found : table.importFor type source = .ok path) : path.IsText := by
  rcases known with ⟨entries, read, texts⟩
  rcases bind_eq_ok_iff.mp found with ⟨ofKnown, looked, rest⟩
  rw [knownImport?, read] at looked
  cases looked
  split at rest
  · rename_i given
    cases rest
    rcases Option.map_eq_some_iff.mp (Option.filter_eq_some_iff.mp given).1 with ⟨entry, first, rfl⟩
    rcases exists_of_lookupKey? first with ⟨pair, member, rfl⟩
    exact texts pair member
  · unfold wellKnownImport at rest
    split at rest
    · cases rest
      exact Value.isText_text _
    · rcases bind_eq_ok_iff.mp rest with ⟨_, -, final⟩
      cases final
      exact Value.isText_text _

namespace ProtoText

variable {context : SchemaContext} {part whole schema : SchemaUnit}
  {plans plansOfPart : List MessagePlan} {services servicesOfPart : List Service}

/-- A reference is followed in every unit when it is in one, and leads to a text. -/
theorem exists_referenceImport {reference : Reference} {import? : Option Value}
    (texts : context.HasTextImports)
    (found : referenceImport? context.types whole reference = .ok import?) (part : SchemaUnit) :
    ∃ import?, referenceImport? context.types part reference = .ok import? ∧
      ∀ path ∈ import?, path.IsText := by
  rcases bind_eq_ok_iff.mp found with ⟨path, looked, rest⟩
  have isText := TypeTable.importFor_isText texts.known looked
  rw [referenceImport?, looked, ok_bind]
  split
  · rcases isText with ⟨content, rfl⟩
    refine ⟨_, rfl, ?_⟩
    rintro other ⟨⟩
    exact Value.isText_text content
  · refine ⟨_, rfl, ?_⟩
    intro other member
    rcases Option.map_eq_some_iff.mp member with ⟨file, -, rfl⟩
    exact Value.isText_text file

theorem references_subset (fewerPlans : plansOfPart ⊆ plans)
    (fewerServices : servicesOfPart ⊆ services) :
    references plansOfPart servicesOfPart ⊆ references plans services := by
  intro reference member
  rcases List.mem_append.mp member with ofPlans | ofServices
  · rcases List.mem_flatMap.mp ofPlans with ⟨plan, among, own⟩
    exact List.mem_append_left _ (List.mem_flatMap.mpr ⟨plan, fewerPlans among, own⟩)
  · rcases List.mem_flatMap.mp ofServices with ⟨service, among, own⟩
    exact List.mem_append_right _ (List.mem_flatMap.mpr ⟨service, fewerServices among, own⟩)

theorem succeeds_imports (texts : context.HasTextImports) (model : part.model = whole.model)
    (fewerPlans : plansOfPart ⊆ plans) (fewerServices : servicesOfPart ⊆ services)
    (written : (imports context whole plans services).Succeeds) :
    (imports context part plansOfPart servicesOfPart).Succeeds := by
  rcases written with ⟨paths, written⟩
  rcases bind_eq_ok_iff.mp written with ⟨given, asked, rest⟩
  rcases bind_eq_ok_iff.mp rest with ⟨items, counted, rest⟩
  rcases bind_eq_ok_iff.mp rest with ⟨custom, keys, rest⟩
  rcases bind_eq_ok_iff.mp rest with ⟨annotated, ofModel, rest⟩
  rcases bind_eq_ok_iff.mp rest with ⟨referenced, followed, -⟩
  have customTexts : ∀ path ∈ custom, path.IsText := by
    rcases texts.custom with ⟨stated, same, statedTexts⟩
    rw [same] at asked
    cases asked
    cases counted
    intro path member
    rcases exists_of_mem_mapM keys member with ⟨item, declared, own⟩
    rw [(Validation.askKey_eq_ok_iff.mp own).2] at declared
    exact statedTexts path declared
  have ofPart : ∃ found, (references plansOfPart servicesOfPart).mapM
      (referenceImport? context.types part) = .ok found ∧
        ∀ import? ∈ found, ∀ path ∈ import?, path.IsText := by
    refine exists_mapM fun reference member => ?_
    rcases exists_mem_of_mapM followed (references_subset fewerPlans fewerServices member) with
      ⟨import?, -, found⟩
    exact exists_referenceImport texts found part
  rcases ofPart with ⟨found, followedAgain, foundTexts⟩
  rw [imports, asked, ok_bind, counted, ok_bind, keys, ok_bind, model, ofModel, ok_bind,
    followedAgain, ok_bind]
  refine Value.succeeds_inOrder fun path member => ?_
  rcases List.mem_append.mp (Value.mem_of_mem_distinct member) with first | last
  · rcases List.mem_append.mp first with ofCustom | ofAnnotations
    · exact customTexts path ofCustom
    · rcases List.mem_map.mp ofAnnotations with ⟨content, -, rfl⟩
      exact Value.isText_text content
  · rcases List.mem_filterMap.mp last with ⟨import?, among, own⟩
    exact foundTexts import? among path own

theorem succeeds_header (texts : context.HasTextImports) (model : part.model = whole.model)
    (fewerPlans : plansOfPart ⊆ plans) (fewerServices : servicesOfPart ⊆ services)
    (written : (header context whole plans services).Succeeds) :
    (header context part plansOfPart servicesOfPart).Succeeds := by
  rcases written with ⟨head, written⟩
  rcases bind_eq_ok_iff.mp written with ⟨package, named, rest⟩
  rcases bind_eq_ok_iff.mp rest with ⟨⟨goal, settings⟩, set, rest⟩
  rcases bind_eq_ok_iff.mp rest with ⟨optionPart, listed, rest⟩
  rcases bind_eq_ok_iff.mp rest with ⟨paths, imported, -⟩
  have ofPart : (packageName context.options part).Succeeds := by
    unfold packageName at named ⊢
    split
    · exact succeeds_ok _
    · rename_i unstated
      rw [if_neg unstated] at named
      rcases bind_eq_ok_iff.mp named with ⟨stated, found, -⟩
      rw [model, found, ok_bind]
      cases stated with
      | some name => exact succeeds_ok _
      | none => exact succeeds_ok _
  refine ofPart.bind fun _ _ => ?_
  rw [model, set, ok_bind]
  simp only [listed, ok_bind]
  exact (succeeds_imports texts model fewerPlans fewerServices ⟨paths, imported⟩).bind
    fun _ _ => succeeds_ok _

/-! ## Blocks -/

/-- The blocks of a file, by their kinds.  The text of a file does not tell where
one block ends, so that blocks are compared before they are joined. -/
structure Blocks where
  messages : List String
  enums : List String
  services : List String
deriving DecidableEq, Repr

/-- All blocks, in the order of the file. -/
def Blocks.all (blocks : Blocks) : List String :=
  blocks.messages ++ blocks.enums ++ blocks.services

/-- The blocks of a unit.  An enumeration that is left out has none. -/
def blocksOf (context : SchemaContext) (schema : SchemaUnit) : Asked Blocks := do
  let plans ← context.messagePlans schema.composites
  let services ← writtenServices context schema
  let messages ← plans.mapM (messageBlock context.options)
  let enums ← schema.enums.mapM writtenEnumBlock
  return { messages, enums := enums.filter (· != ""), services := services.map serviceBlock }

/-- A text is the file of a unit: its head, and behind it nothing but its
blocks.  The head is the one thing in which files of different divisions
differ. -/
structure IsFileOf (context : SchemaContext) (schema : SchemaUnit) (blocks : Blocks)
    (text : String) : Prop where
  declared : blocksOf context schema = .ok blocks
  split : ∃ plans services head, context.messagePlans schema.composites = .ok plans ∧
    writtenServices context schema = .ok services ∧
    header context schema plans services = .ok head ∧ text = head ++ String.join blocks.all

theorem join_filter (texts : List String) :
    String.join (texts.filter (· != "")) = String.join texts := by
  induction texts with
  | nil => rfl
  | cons text texts ih =>
      by_cases empty : text = ""
      · rw [List.filter_cons_of_neg (by simp [empty]), ih, String.join_cons, empty,
          String.empty_append]
      · rw [List.filter_cons_of_pos (by simp [empty]), String.join_cons, String.join_cons, ih]

/-- What is written of a unit is its file. -/
theorem exists_isFileOf {text : String} (written : write context schema = .ok text) :
    ∃ blocks, IsFileOf context schema blocks text := by
  rcases bind_eq_ok_iff.mp written with ⟨plans, planned, rest⟩
  rcases bind_eq_ok_iff.mp rest with ⟨services, resolved, rest⟩
  rcases bind_eq_ok_iff.mp rest with ⟨head, headed, rest⟩
  rcases bind_eq_ok_iff.mp rest with ⟨body, joined, final⟩
  cases final
  rcases bind_eq_ok_iff.mp joined with ⟨messages, ofMessages, rest⟩
  rcases bind_eq_ok_iff.mp rest with ⟨enums, ofEnums, final⟩
  cases final
  refine ⟨{ messages, enums := enums.filter (· != ""), services := services.map serviceBlock },
    ?_, plans, services, head, planned, resolved, headed, ?_⟩
  · rw [blocksOf, planned, ok_bind, resolved, ok_bind, ofMessages, ok_bind, ofEnums, ok_bind,
      pure_eq_ok]
  · rw [Blocks.all, String.join_append, String.join_append, String.join_append, String.join_append,
      join_filter]

theorem exists_messagePlans_part (some : part.IsPart whole)
    (planned : context.messagePlans whole.composites = .ok plans) :
    ∃ kept, context.messagePlans part.composites = .ok kept ∧ kept.Sublist plans := by
  rcases bind_eq_ok_iff.mp planned with ⟨lists, each, final⟩
  cases final
  rcases exists_mapM_sublist some.composites each with ⟨kept, found, fewer⟩
  refine ⟨kept.flatten, ?_, fewer.flatten⟩
  rw [SchemaContext.messagePlans, found, ok_bind, pure_eq_ok]

theorem exists_writtenServices_part (some : part.IsPart whole)
    (resolved : writtenServices context whole = .ok services) :
    ∃ kept, writtenServices context part = .ok kept ∧ kept.Sublist services := by
  rw [writtenServices] at resolved ⊢
  cases writes : context.options.writesServices with
  | true =>
      rw [writes] at resolved
      exact context.exists_services_part some resolved
  | false => exact ⟨[], rfl, List.nil_sublist services⟩

theorem succeeds_write_part (texts : context.HasTextImports) (some : part.IsPart whole)
    (written : (write context whole).Succeeds) : (write context part).Succeeds := by
  rcases written with ⟨text, written⟩
  rcases bind_eq_ok_iff.mp written with ⟨plans, planned, rest⟩
  rcases bind_eq_ok_iff.mp rest with ⟨services, resolved, rest⟩
  rcases bind_eq_ok_iff.mp rest with ⟨head, headed, rest⟩
  rcases bind_eq_ok_iff.mp rest with ⟨body, joined, -⟩
  rcases bind_eq_ok_iff.mp joined with ⟨messages, ofMessages, rest⟩
  rcases bind_eq_ok_iff.mp rest with ⟨enums, ofEnums, -⟩
  rcases exists_messagePlans_part some planned with ⟨somePlans, plannedAgain, fewerPlans⟩
  rcases exists_writtenServices_part some resolved with ⟨someServices, resolvedAgain, fewerServices⟩
  rcases exists_mapM_sublist fewerPlans ofMessages with ⟨someMessages, messagesAgain, -⟩
  rcases exists_mapM_sublist some.enums ofEnums with ⟨someEnums, enumsAgain, -⟩
  rcases succeeds_header texts some.model fewerPlans.subset fewerServices.subset ⟨head, headed⟩
    with ⟨ownHead, headedAgain⟩
  rw [write, plannedAgain, ok_bind, resolvedAgain, ok_bind, headedAgain, ok_bind, blocks,
    messagesAgain, ok_bind, enumsAgain, ok_bind]
  exact succeeds_ok _

theorem write_of_generate {text : String} (generated : generate context schema = .ok text) :
    write context schema = .ok text := by
  cases accepted : Validation.check context schema with
  | error failure =>
      rw [generate, accepted] at generated
      cases generated
  | ok found =>
      rw [generate, accepted] at generated
      exact Failure.liftShape_eq_ok_iff.mp generated

/-- The validation accepts a unit exactly when its scans pass it. -/
theorem exists_check_iff :
    (∃ found, Validation.check context schema = .ok found) ↔
      Validation.Passes (Validation.findings context schema) := by
  unfold Validation.check
  cases result : Validation.findings context schema with
  | error fault => exact ⟨nofun, nofun⟩
  | ok found =>
      rw [Failure.liftShape_ok, Failure.ok_bind]
      cases refused : found.any (·.isError) with
      | true =>
          refine ⟨nofun, ?_⟩
          rintro ⟨_, ⟨⟩, harmless⟩
          exact absurd harmless (Validation.any_isError_eq_true_iff.mp refused)
      | false =>
          have harmless : Finding.Harmless found := by
            refine not_not.mp fun harmful => ?_
            rw [Validation.any_isError_eq_true_iff.mpr harmful] at refused
            cases refused
          exact ⟨fun _ => ⟨found, rfl, harmless⟩, fun _ => ⟨found, rfl⟩⟩

/-- A file is generated of every part of a unit of which one is. -/
theorem exists_generate_part (texts : context.HasTextImports) (some : part.IsPart whole)
    {text : String} (generated : generate context whole = .ok text) :
    ∃ text, generate context part = .ok text := by
  cases accepted : Validation.check context whole with
  | error failure =>
      rw [generate, accepted] at generated
      cases generated
  | ok found =>
      have passes := Validation.findings_passes some (exists_check_iff.mp ⟨found, accepted⟩)
      rcases exists_check_iff.mpr passes with ⟨foundAgain, acceptedAgain⟩
      rcases succeeds_write_part texts some ⟨text, write_of_generate generated⟩ with
        ⟨textAgain, written⟩
      rw [generate, acceptedAgain]
      exact ⟨textAgain, congrArg Failure.liftShape written⟩

/-! ## Blocks of declarations -/

/-- The blocks of the messages of a composite type.  Those of a whole file are
these for its types in order, when all of them can be written. -/
def messageBlocks (context : SchemaContext) (composite : Composite) : List String :=
  ((context.plansIfMessage composite).toOption.getD []).flatMap fun plan =>
    (messageBlock context.options plan).toOption.toList

/-- The block of an enumeration, unless it is left out. -/
def enumBlocks (enum : EnumType) : List String :=
  (writtenEnumBlock enum).toOption.toList.filter (· != "")

/-- The blocks of services that a declaration makes, if services are written. -/
def serviceBlocks (context : SchemaContext) (services : Asked (List Service)) : List String :=
  if context.options.writesServices then (services.toOption.getD []).map serviceBlock else []

def contractBlocks (context : SchemaContext) (contract : ServiceContract) : List String :=
  serviceBlocks context (serviceIfAsked contract.annotations (contract.toService context.types))

def receiverBlocks (context : SchemaContext) (composite : Composite) : List String :=
  serviceBlocks context
    (serviceIfAsked composite.annotations (composite.toService context.model context.types))

theorem map_serviceBlock_writtenServices
    (resolved : writtenServices context schema = .ok services) :
    services.map serviceBlock = schema.services.flatMap (contractBlocks context) ++
      schema.composites.flatMap (receiverBlocks context) := by
  rw [writtenServices] at resolved
  unfold contractBlocks receiverBlocks serviceBlocks
  cases writes : context.options.writesServices with
  | false =>
      rw [writes] at resolved
      cases resolved
      simp
  | true =>
      rw [writes] at resolved
      rcases bind_eq_ok_iff.mp resolved with ⟨ofContracts, contracts, rest⟩
      rcases bind_eq_ok_iff.mp rest with ⟨ofComposites, composites, final⟩
      cases final
      rw [List.map_append, flatten_eq_of_mapM contracts, flatten_eq_of_mapM composites,
        List.map_flatMap, List.map_flatMap]
      rfl

/-- The blocks of a unit are those of its declarations, one after the other. -/
theorem blocksOf_eq {blocks : Blocks} (found : blocksOf context schema = .ok blocks) :
    blocks =
      { messages := schema.composites.flatMap (messageBlocks context)
        enums := schema.enums.flatMap enumBlocks
        services := schema.services.flatMap (contractBlocks context) ++
          schema.composites.flatMap (receiverBlocks context) } := by
  rcases bind_eq_ok_iff.mp found with ⟨plans, planned, rest⟩
  rcases bind_eq_ok_iff.mp rest with ⟨services, resolved, rest⟩
  rcases bind_eq_ok_iff.mp rest with ⟨messages, ofMessages, rest⟩
  rcases bind_eq_ok_iff.mp rest with ⟨enums, ofEnums, final⟩
  cases final
  rcases bind_eq_ok_iff.mp planned with ⟨lists, each, final⟩
  cases final
  rw [map_serviceBlock_writtenServices resolved, eq_flatMap_of_mapM ofMessages,
    flatten_eq_of_mapM each, eq_flatMap_of_mapM ofEnums, List.flatMap_assoc, List.filter_flatMap]
  rfl

/-! ## Dividing a unit -/

/-- Parts of a unit that together declare what the unit declares, each
declaration as often as there.  Parts keep the order of declarations, and the
whole need not be their concatenation. -/
structure IsDivision (parts : List SchemaUnit) (whole : SchemaUnit) : Prop where
  each : ∀ part ∈ parts, part.IsPart whole
  composites : (parts.flatMap (·.composites)).Perm whole.composites
  enums : (parts.flatMap (·.enums)).Perm whole.enums
  services : (parts.flatMap (·.services)).Perm whole.services

/-- Blocks that together are those of a file, kind by kind and each as often as
there.  Blocks are compared as texts, so that nothing inside of them may
differ. -/
structure SameBlocks (parts : List Blocks) (whole : Blocks) : Prop where
  messages : (parts.flatMap (·.messages)).Perm whole.messages
  enums : (parts.flatMap (·.enums)).Perm whole.enums
  services : (parts.flatMap (·.services)).Perm whole.services

theorem sameBlocks_of_division {parts : List SchemaUnit} {blocksOfParts : List Blocks}
    {blocks : Blocks} (division : IsDivision parts whole)
    (ofParts : List.Forall₂ (fun part own => blocksOf context part = .ok own) parts blocksOfParts)
    (ofWhole : blocksOf context whole = .ok blocks) : SameBlocks blocksOfParts blocks := by
  have each : blocksOfParts = parts.map fun part =>
      { messages := part.composites.flatMap (messageBlocks context)
        enums := part.enums.flatMap enumBlocks
        services := part.services.flatMap (contractBlocks context) ++
          part.composites.flatMap (receiverBlocks context) } := by
    clear division
    induction ofParts with
    | nil => rfl
    | cons own _ ih => rw [List.map_cons, blocksOf_eq own, ih]
  rw [each, blocksOf_eq ofWhole]
  constructor
  · rw [List.flatMap_map, ← List.flatMap_assoc]
    exact division.composites.flatMap_right _
  · rw [List.flatMap_map, ← List.flatMap_assoc]
    exact division.enums.flatMap_right _
  · have ofContracts := division.services.flatMap_right (contractBlocks context)
    have ofComposites := division.composites.flatMap_right (receiverBlocks context)
    rw [List.flatMap_assoc] at ofContracts ofComposites
    rw [List.flatMap_map]
    exact (List.flatMap_append_perm parts _ _).symm.trans (ofContracts.append ofComposites)

end ProtoText

end WireSchema
