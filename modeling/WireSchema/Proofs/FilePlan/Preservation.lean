import WireSchema.Proofs.FilePlan.Groups
import WireSchema.Proofs.FilePlan.Run
import WireSchema.Proofs.ProtoText.Parts
import WireSchema.Proofs.ProtoText.Strategy

namespace WireSchema.FilePlan

/-!
# What a division into files preserves

The groups of a partition divide the unit of the whole model, and the contexts of all groups are the
one of the model.  So where the file of the whole model can be written, that of every group can be,
and together the files of the groups have the same blocks.  What is left to prove of a run is that
its files do not get into each other's way: their paths are those of the groups, which are distinct.
-/

open Asked

variable {options : Options} {model : Model} {groups : List FileGroup}

theorem blocksOf_withStrategy (context : SchemaContext) (strategy : Strategy)
    (schema : SchemaUnit) :
    ProtoText.blocksOf (context.withStrategy strategy) schema =
      ProtoText.blocksOf context schema := by
  have services : ProtoText.writtenServices (context.withStrategy strategy) schema =
      ProtoText.writtenServices context schema := rfl
  have message : ProtoText.messageBlock (context.withStrategy strategy).options =
      ProtoText.messageBlock context.options := rfl
  rw [ProtoText.blocksOf, ProtoText.blocksOf, context.messagePlans_withStrategy, services, message]

/-! ## Groups as parts of a model -/

/-- The unit of a group in a run that makes several files.  It shares the model
of the whole, so types are mapped alike in all files, and differs in what it
declares. -/
def groupUnit (model : Model) (typeFiles : List (Value × String)) (group : FileGroup) :
    SchemaUnit :=
  { model, composites := group.composites, enums := group.enums, services := group.services
    file := group.file, typeFiles }

namespace Declaration

def composite? : Declaration → Option Composite
  | .composite item => some item
  | _ => none

def enum? : Declaration → Option EnumType
  | .enum item => some item
  | _ => none

def service? : Declaration → Option ServiceContract
  | .service item => some item
  | _ => none

/-- Declarations of all kinds in the order in which they are put into groups.
The parts of a group by kind can be recovered from such a list. -/
def ofKinds (composites : List Composite) (enums : List EnumType)
    (services : List ServiceContract) : List Declaration :=
  composites.map .composite ++ enums.map .enum ++ services.map .service

variable (composites : List Composite) (enums : List EnumType) (services : List ServiceContract)

theorem filterMap_composite? : (ofKinds composites enums services).filterMap composite? =
    composites := by
  simp [ofKinds, composite?, List.filterMap_map, Function.comp_def]

theorem filterMap_enum? : (ofKinds composites enums services).filterMap enum? = enums := by
  simp [ofKinds, enum?, List.filterMap_map, Function.comp_def]

theorem filterMap_service? : (ofKinds composites enums services).filterMap service? = services := by
  simp [ofKinds, service?, List.filterMap_map, Function.comp_def]

end Declaration

/-- What the groups of a partition select of one kind is together what the model has of it. -/
theorem IsPartition.flatMap_perm {α : Type} (divided : IsPartition options model groups)
    (select : Declaration → Option α) :
    (groups.flatMap fun group => group.members.filterMap select).Perm
      ((declarations model).filterMap select) := by
  rw [← List.filterMap_flatMap]
  exact divided.whole.filterMap select

theorem members_eq_ofKinds (group : FileGroup) :
    group.members = Declaration.ofKinds group.composites group.enums group.services := rfl

theorem declarations_eq_ofKinds (model : Model) :
    declarations model = Declaration.ofKinds model.composites model.enums model.services := rfl

/-- The units of the groups of a partition divide the unit of the model. -/
theorem IsPartition.isDivision (divided : IsPartition options model groups)
    (typeFiles : List (Value × String)) :
    ProtoText.IsDivision (groups.map (groupUnit model typeFiles)) model.wholeUnit := by
  constructor
  · intro part among
    rcases List.mem_map.mp among with ⟨group, member, rfl⟩
    have order := divided.order group member
    rw [members_eq_ofKinds, declarations_eq_ofKinds] at order
    have composites := order.filterMap Declaration.composite?
    have enums := order.filterMap Declaration.enum?
    have services := order.filterMap Declaration.service?
    rw [Declaration.filterMap_composite?, Declaration.filterMap_composite?] at composites
    rw [Declaration.filterMap_enum?, Declaration.filterMap_enum?] at enums
    rw [Declaration.filterMap_service?, Declaration.filterMap_service?] at services
    exact ⟨rfl, composites, enums, services⟩
  · have composites := divided.flatMap_perm Declaration.composite?
    simp only [members_eq_ofKinds, declarations_eq_ofKinds, Declaration.filterMap_composite?]
      at composites
    rwa [List.flatMap_map]
  · have enums := divided.flatMap_perm Declaration.enum?
    simp only [members_eq_ofKinds, declarations_eq_ofKinds, Declaration.filterMap_enum?] at enums
    rwa [List.flatMap_map]
  · have services := divided.flatMap_perm Declaration.service?
    simp only [members_eq_ofKinds, declarations_eq_ofKinds, Declaration.filterMap_service?]
      at services
    rwa [List.flatMap_map]

/-! ## Places of types -/

theorem succeeds_compositeTypeNames {composite : Composite} (typed : composite.IsTyped) :
    (compositeTypeNames composite).Succeeds := by
  rcases Composite.exists_messageNames typed with ⟨names, named, texts⟩
  refine typed.name.succeeds_askKey.bind fun _ _ => ?_
  rw [named, ok_bind]
  have keys : (Value.askKeys names).Succeeds :=
    succeeds_mapM fun name member => (texts name member).succeeds_askKey
  exact keys.bind fun _ _ => succeeds_ok _

theorem succeeds_enumTypeNames {enum : EnumType} (typed : enum.IsTyped) :
    (enumTypeNames enum).Succeeds := by
  rcases EnumType.exists_schemaName typed with ⟨name, named, isText⟩
  refine typed.name.succeeds_askKey.bind fun _ _ => ?_
  rw [named, ok_bind]
  exact isText.succeeds_askKey.bind fun _ _ => succeeds_ok _

theorem succeeds_typeFiles (names : ∀ group ∈ groups, (groupTypeNames group).Succeeds) :
    (typeFiles groups).Succeeds := by
  unfold typeFiles
  generalize ([] : List (Value × String)) = known
  induction groups generalizing known with
  | nil => exact succeeds_ok known
  | cons group groups ih =>
      rcases List.forall_mem_cons.mp names with ⟨⟨own, found⟩, others⟩
      rw [List.foldlM_cons, found, ok_bind]
      exact ih others _

/-- The files that declare the types of a typed model are found. -/
theorem succeeds_typeFiles_of_partition (typed : model.wholeUnit.IsTyped)
    (divided : IsPartition options model groups) : (typeFiles groups).Succeeds := by
  refine succeeds_typeFiles fun group member => ?_
  have part := (divided.isDivision []).each _ (List.mem_map_of_mem member)
  have composites : (group.composites.mapM compositeTypeNames).Succeeds :=
    succeeds_mapM fun composite declared =>
      succeeds_compositeTypeNames (typed.composites composite (part.composites.subset declared))
  have enums : (group.enums.mapM enumTypeNames).Succeeds :=
    succeeds_mapM fun enum declared =>
      succeeds_enumTypeNames (typed.enums enum (part.enums.subset declared))
  exact composites.bind fun _ _ => enums.bind fun _ _ => succeeds_ok _

/-! ## The run over groups -/

/-- No output format other than the schema text.  Further formats make files of
their own, which are not counted where blocks of schema files are compared. -/
def IsProtoOnly (options : Options) : Prop :=
  ∃ formats, options.outputFormats = .read formats ∧ ∀ format ∈ formats, format = .proto

theorem IsProtoOnly.listsFormats (protoOnly : IsProtoOnly options) : ListsFormats options [] := by
  rcases protoOnly with ⟨formats, given, only⟩
  refine .read given (List.filter_eq_nil_iff.mpr ?_).symm
  intro format member
  rw [only format member]
  decide

theorem isMultiFile_withStrategy {strategy : Strategy} (several : strategy ≠ .single) :
    (options.withStrategy strategy).isMultiFile = true := by
  cases strategy with
  | single => exact absurd rfl several
  | follow | package | namespaces => rfl

theorem unitOf_eq_groupUnit (multi : options.isMultiFile = true)
    (typeFiles : List (Value × String)) (group : FileGroup) :
    unitOf options model typeFiles group = groupUnit model typeFiles group := by
  rw [unitOf, multi, if_pos rfl, groupUnit]

/-- The schema file of a group: it has the path of the group, and the text that
is generated for the group's declarations in a run over the whole model. -/
structure IsSchemaFile (options : Options) (model : Model) (typeFiles : List (Value × String))
    (group : FileGroup) (file : GeneratedFile) : Prop where
  path : file.path = group.file
  generated : ProtoText.generate (.of model options) (groupUnit model typeFiles group) =
    .ok file.content

section Run

variable {typeFiles : List (Value × String)}

/-- A group whose schema file can be written has this file only. -/
theorem exists_isGroupOutput {group : FileGroup} (multi : options.isMultiFile = true)
    (protoOnly : IsProtoOnly options) (strategy : options.strategy.content.Succeeds)
    (written : ∃ content,
      ProtoText.generate (.of model options) (groupUnit model typeFiles group) = .ok content) :
    ∃ file, IsGroupOutput options model typeFiles group [file] ∧
      IsSchemaFile options model typeFiles group file := by
  rcases strategy with ⟨own, stated⟩
  rcases written with ⟨content, generated⟩
  have ofUnit : ProtoText.generate (.of model options) (unitOf options model typeFiles group) =
      .ok content := by
    rw [unitOf_eq_groupUnit multi]
    exact generated
  exact ⟨_, .files (content_eq_ok_iff.mp stated) ofUnit protoOnly.listsFormats .nil, rfl, generated⟩

theorem map_path_eq {files : List GeneratedFile}
    (made : List.Forall₂ (IsSchemaFile options model typeFiles) groups files) :
    files.map (·.path) = groups.map (·.file) := by
  induction made with
  | nil => rfl
  | cons own _ ih => rw [List.map_cons, List.map_cons, own.path, ih]

/-- Groups that have one file each have these files together. -/
theorem exists_outputs
    (each : ∀ group ∈ groups, ∃ file, IsGroupOutput options model typeFiles group [file] ∧
      IsSchemaFile options model typeFiles group file) :
    ∃ files : List GeneratedFile,
      List.Forall₂ (IsGroupOutput options model typeFiles) groups (files.map ([·])) ∧
      List.Forall₂ (IsSchemaFile options model typeFiles) groups files := by
  induction groups with
  | nil => exact ⟨[], .nil, .nil⟩
  | cons group groups ih =>
      rcases List.forall_mem_cons.mp each with ⟨⟨file, made, own⟩, others⟩
      rcases ih others with ⟨files, outputs, rest⟩
      exact ⟨file :: files, .cons made outputs, .cons own rest⟩

/-- A run that makes several files has the schema file of each group, where all can be written. -/
theorem exists_generate (multi : options.isMultiFile = true) (protoOnly : IsProtoOnly options)
    (strategy : options.strategy.content.Succeeds) (divided : partition options model = .ok groups)
    (known : knownTypeFiles options groups = .ok typeFiles)
    (each : ∀ group ∈ groups, ∃ content,
      ProtoText.generate (.of model options) (groupUnit model typeFiles group) = .ok content) :
    ∃ files, generate options model = .ok files ∧
      List.Forall₂ (IsSchemaFile options model typeFiles) groups files := by
  rcases exists_outputs fun group member =>
    exists_isGroupOutput multi protoOnly strategy (each group member) with ⟨files, made, own⟩
  have paths : (files.map (·.path)).Nodup := by
    rw [map_path_eq own]
    exact (isPartition_of_ok divided).1.files
  have whole : files = (files.map ([·])).flatten := by
    rw [← List.flatMap_def, List.flatMap_singleton']
  have generated :=
    generate_eq_ok_iff.mpr ⟨groups, typeFiles, _, divided, known, made, whole, paths⟩
  exact ⟨files, generated, own⟩

/-- The schema files of groups consist of heads and the blocks of the groups. -/
theorem exists_blocks_of_groups {files : List GeneratedFile}
    (made : List.Forall₂ (IsSchemaFile options model typeFiles) groups files) :
    ∃ parts, List.Forall₂ (fun group part => ProtoText.blocksOf (.of model options)
        (groupUnit model typeFiles group) = .ok part) groups parts ∧
      List.Forall₂ (fun file part => ∃ group ∈ groups, file.path = group.file ∧
        ProtoText.IsFileOf (.of model options) (groupUnit model typeFiles group) part file.content)
        files parts := by
  induction made with
  | nil => exact ⟨[], .nil, .nil⟩
  | @cons group file groups files own _ ih =>
      rcases ProtoText.exists_isFileOf (ProtoText.write_of_generate own.generated) with
        ⟨part, isFile⟩
      rcases ih with ⟨parts, ofGroups, ofFiles⟩
      refine ⟨part :: parts, .cons isFile.declared ofGroups,
        .cons ⟨group, List.mem_cons_self, own.path, isFile⟩ (ofFiles.imp ?_)⟩
      rintro other content ⟨later, member, found⟩
      exact ⟨later, List.mem_cons_of_mem group member, found⟩

end Run

/-- Dividing a model into files preserves its blocks.  Where the file of the whole model can be
written and the model can be divided into groups, every group has its file, which consists of a head
and the blocks of the group; and the blocks of all these files are those of the file of the whole
model, each as often as there. -/
theorem generate_preserves (options : Options) (model : Model) (strategy : Strategy)
    (groups : List FileGroup) (text : String) (several : strategy ≠ .single)
    (protoOnly : IsProtoOnly options) (imports : (SchemaContext.of model options).HasTextImports)
    (typed : model.wholeUnit.IsTyped)
    (whole : ProtoText.generate (.of model (options.withStrategy .single)) model.wholeUnit =
      .ok text)
    (divided : partition (options.withStrategy strategy) model = .ok groups) :
    ∃ files typeFiles blocks parts,
      generate (options.withStrategy strategy) model = .ok files ∧
      files.map (·.path) = groups.map (·.file) ∧
      knownTypeFiles (options.withStrategy strategy) groups = .ok typeFiles ∧
      ProtoText.IsFileOf (.of model (options.withStrategy .single)) model.wholeUnit blocks text ∧
      List.Forall₂ (fun file part => ∃ group ∈ groups, file.path = group.file ∧
        ProtoText.IsFileOf (.of model (options.withStrategy strategy))
          (groupUnit model typeFiles group) part file.content) files parts ∧
      ProtoText.SameBlocks parts blocks := by
  have multi : (options.withStrategy strategy).isMultiFile = true :=
    isMultiFile_withStrategy several
  have partitioned := (isPartition_of_ok divided).1
  rcases succeeds_typeFiles_of_partition typed partitioned with ⟨typeFiles, found⟩
  have known : knownTypeFiles (options.withStrategy strategy) groups = .ok typeFiles := by
    rw [knownTypeFiles, multi, if_pos rfl, found]
  have division := partitioned.isDivision typeFiles
  -- The strategy does not count for what is generated of a unit.
  have wholeGenerated := whole
  rw [SchemaContext.of_withStrategy, ProtoText.generate_withStrategy] at wholeGenerated
  have each : ∀ group ∈ groups, ∃ content, ProtoText.generate
      (.of model (options.withStrategy strategy)) (groupUnit model typeFiles group) =
        .ok content := by
    intro group member
    have part := division.each _ (List.mem_map_of_mem member)
    rw [SchemaContext.of_withStrategy, ProtoText.generate_withStrategy]
    exact ProtoText.exists_generate_part imports part wholeGenerated
  have only : IsProtoOnly (options.withStrategy strategy) := protoOnly
  rcases exists_generate multi only (succeeds_ok strategy) divided known each with
    ⟨files, run, made⟩
  rcases ProtoText.exists_isFileOf (ProtoText.write_of_generate whole) with ⟨blocks, ofWhole⟩
  rcases exists_blocks_of_groups made with ⟨parts, ofGroups, ofFiles⟩
  refine ⟨files, typeFiles, blocks, parts, run, map_path_eq made, known, ofWhole, ofFiles, ?_⟩
  refine ProtoText.sameBlocks_of_division division ?_ ofWhole.declared
  rw [List.forall₂_map_left_iff]
  refine ofGroups.imp fun group part written => ?_
  rw [SchemaContext.of_withStrategy, blocksOf_withStrategy] at written ⊢
  exact written

/-- A type with a field of an enumeration that another source file declares. -/
def accountModel : Model :=
  { composites :=
      [{ name := .text "Account", sourceFile := .text "account.go"
         fields :=
          [{ name := .text "Id", type := .named "int64" "" },
            { name := .text "Role", type := .named "Role" "" }] }]
    enums :=
      [{ name := .text "Role", sourceFile := .text "role.go"
         values := [{ name := .text "Guest", index := .int 0 }] }] }

private theorem isTyped_accountModel : accountModel.wholeUnit.IsTyped := by
  have composites : ∀ composite ∈ accountModel.composites, composite.IsTyped := by
    intro composite member
    rw [List.mem_singleton.mp member]
    refine ⟨Value.isText_text _, rfl, ?_, List.forall_mem_nil _⟩
    intro field declared
    rcases List.mem_cons.mp declared with rfl | later
    · exact ⟨Value.isText_text _, Value.isText_text _, rfl⟩
    · rw [List.mem_singleton.mp later]
      exact ⟨Value.isText_text _, Value.isText_text _, rfl⟩
  refine ⟨⟨composites, List.forall_mem_nil _⟩, composites, ?_, List.forall_mem_nil _⟩
  intro enum member
  rw [List.mem_singleton.mp member]
  refine ⟨Value.isText_text _, rfl, ?_⟩
  intro value declared
  rw [List.mem_singleton.mp declared]
  exact ⟨Value.isText_text _, ⟨0, rfl⟩, rfl⟩

theorem generate_preserves_accountModel :
    ∃ files blocks parts,
      generate (({} : Options).withStrategy .follow) accountModel = .ok files ∧
      files.map (·.path) = ["account.proto", "role.proto"] ∧
      ProtoText.blocksOf (.of accountModel (({} : Options).withStrategy .single))
        accountModel.wholeUnit = .ok blocks ∧
      blocks.messages.length = 1 ∧ blocks.enums.length = 1 ∧ ProtoText.SameBlocks parts blocks := by
  have written : (ProtoText.generate (.of accountModel (({} : Options).withStrategy .single))
      accountModel.wholeUnit).toOption.map (fun _ => ()) = some () := by
    decide +kernel
  have heads : (partition (({} : Options).withStrategy .follow) accountModel).toOption.map
      (·.map (·.file)) = some ["account.proto", "role.proto"] := by
    decide +kernel
  have lengths : (ProtoText.blocksOf (.of accountModel (({} : Options).withStrategy .single))
      accountModel.wholeUnit).toOption.map
        (fun blocks => (blocks.messages.length, blocks.enums.length)) = some (1, 1) := by
    decide +kernel
  rcases exists_of_toOption_map written with ⟨text, whole, -⟩
  rcases exists_of_toOption_map heads with ⟨groups, divided, paths⟩
  rcases exists_of_toOption_map lengths with ⟨blocks, found, counted⟩
  have imports : (SchemaContext.of accountModel {}).HasTextImports :=
    ⟨⟨[], rfl, List.forall_mem_nil _⟩, [], rfl, List.forall_mem_nil _⟩
  have protoOnly : IsProtoOnly {} := ⟨[.proto], rfl, fun _ member => List.mem_singleton.mp member⟩
  rcases generate_preserves {} accountModel .follow groups text (by decide) protoOnly imports
    isTyped_accountModel whole divided with
    ⟨files, _, wholeBlocks, parts, generated, ofGroups, _, ofWhole, _, same⟩
  cases found.symm.trans ofWhole.declared
  rw [Prod.mk.injEq] at counted
  exact ⟨files, blocks, parts, generated, ofGroups.trans paths, found, counted.1, counted.2, same⟩

end WireSchema.FilePlan
