import Mathlib
import WireSchema.Proofs.Document.Pointwise
import WireSchema.Proofs.FilePlan.TypePlaces
import WireSchema.Proofs.ProtoText.Declarations

namespace WireSchema

/-!
# Owners of types

In a run that makes several files, a unit is said to emit the names under which its file declares
messages and enumerations, and to refer to the types of its fields and methods.  The notes of the
run are made of the names of declarations, so that every group notes what it emits, and the first
group that notes a name owns it.  What a reference adds to the imports of its unit is decided by two
look-ups: for the import of a known or well-known type, and only if there is none, for the owner.

So a type is reached from a unit if nothing comes before the group that emits it: no import of
another type by which the field was declared, and no group that notes the name without emitting it.
A type that the unit itself emits brings in no other file as long as no earlier group notes its
name.  Both conditions are needed; two runs at the end show what happens without them.
-/

open Asked

namespace Value

/-! ## Texts among values -/

/-- A text is not lost when repetitions are left out. -/
theorem text_mem_distinct {values : List Value} {content : String}
    (member : text content ∈ values) : text content ∈ distinct values := by
  have fold : ∀ kept : List Value, text content ∈ kept ∨ text content ∈ values →
      text content ∈ values.foldl
        (fun kept value => if kept.contains value then kept else kept ++ [value]) kept := by
    clear member
    induction values with
    | nil => exact fun kept inside => inside.resolve_right List.not_mem_nil
    | cons first values ih =>
        intro kept inside
        rw [List.foldl_cons]
        apply ih
        rcases inside with before | here
        · left
          split
          · exact before
          · exact List.mem_append_left _ before
        · rcases List.mem_cons.mp here with rfl | later
          · left
            split
            · rename_i known
              rcases List.contains_iff_exists_mem_beq.mp known with ⟨value, among, alike⟩
              rw [← text_beq_iff.mp alike]
              exact among
            · exact List.mem_append_right _ List.mem_cons_self
          · exact Or.inr later
  exact fold [] (Or.inr member)

end Value

namespace ProtoText

variable {context : SchemaContext} {schema : SchemaUnit} {plans : List MessagePlan}
  {services : List Service} {paths : List Value} {reference : Reference}

/-! ## What references add -/

/-- The plans, the services and the imports of a unit that is written.  The
lemmas on owners start from these and not from the text, in which they cannot be
told apart. -/
structure HasParts (context : SchemaContext) (schema : SchemaUnit) (plans : List MessagePlan)
    (services : List Service) (paths : List Value) : Prop where
  planned : context.messagePlans schema.composites = .ok plans
  written : writtenServices context schema = .ok services
  imported : imports context schema plans services = .ok paths

theorem exists_hasParts {text : String} (generated : generate context schema = .ok text) :
    ∃ plans services paths, HasParts context schema plans services paths := by
  rcases bind_eq_ok_iff.mp (write_of_generate generated) with ⟨plans, planned, rest⟩
  rcases bind_eq_ok_iff.mp rest with ⟨services, written, rest⟩
  rcases bind_eq_ok_iff.mp rest with ⟨head, started, -⟩
  rcases bind_eq_ok_iff.mp started with ⟨package, -, rest⟩
  rcases bind_eq_ok_iff.mp rest with ⟨⟨goal, settings⟩, -, rest⟩
  rcases bind_eq_ok_iff.mp rest with ⟨optionPart, -, rest⟩
  rcases bind_eq_ok_iff.mp rest with ⟨paths, imported, -⟩
  exact ⟨plans, services, paths, planned, written, imported⟩

/-- A path to which a reference leads is imported. -/
theorem HasParts.mem_of_referenceImport? {content : String}
    (parts : HasParts context schema plans services paths)
    (member : reference ∈ references plans services)
    (added : referenceImport? context.types schema reference = .ok (some (.text content))) :
    .text content ∈ paths := by
  rcases bind_eq_ok_iff.mp parts.imported with ⟨given, -, rest⟩
  rcases bind_eq_ok_iff.mp rest with ⟨items, -, rest⟩
  rcases bind_eq_ok_iff.mp rest with ⟨custom, -, rest⟩
  rcases bind_eq_ok_iff.mp rest with ⟨annotated, -, rest⟩
  rcases bind_eq_ok_iff.mp rest with ⟨referenced, followed, ordered⟩
  rcases exists_mem_of_mapM followed member with ⟨path, among, same⟩
  cases added.symm.trans same
  refine Value.mem_of_inOrder ordered (Value.text_mem_distinct (List.mem_append_right _ ?_))
  exact List.mem_filterMap.mpr ⟨_, among, rfl⟩

/-- A reference whose type has no import of its own leads to the file of another group, if to
any. -/
theorem referenceImport?_of_pathless {table : TypeTable}
    (pathless : table.importFor reference.type reference.source = .ok (.text "")) :
    referenceImport? table schema reference =
      .ok ((otherFile? schema reference.type).map Value.text) := by
  rw [referenceImport?, pathless, ok_bind, Value.isTruthy_text]
  rfl

/-- What a reference adds is the import of its type, unless it leads to the file of another
group. -/
theorem importFor_of_referenceImport? {table : TypeTable} {path : Value}
    (none : otherFile? schema reference.type = none)
    (added : referenceImport? table schema reference = .ok (some path)) :
    table.importFor reference.type reference.source = .ok path := by
  rcases bind_eq_ok_iff.mp added with ⟨own, found, rest⟩
  split at rest
  · rcases bind_eq_ok_iff.mp rest with ⟨key, asked, final⟩
    cases final
    rw [found, (Validation.askKey_eq_ok_iff.mp asked).2]
  · rw [none] at rest
    cases rest

theorem fieldReference_mem {plan : MessagePlan} {planned : PlannedField} (services : List Service)
    (among : plan ∈ plans) (declared : planned ∈ plan.fields) :
    fieldReference planned ∈ references plans services :=
  List.mem_append_left _ (List.mem_flatMap.mpr ⟨plan, among, List.mem_map_of_mem declared⟩)

/-- What plans refer to is the reference of one of their fields. -/
theorem exists_field_of_references {rows : List (List Reference)} {row : List Reference}
    (shown : plans.map (fun plan => plan.fields.map fieldReference) = rows) (member : row ∈ rows)
    (among : reference ∈ row) :
    ∃ plan ∈ plans, ∃ planned ∈ plan.fields, fieldReference planned = reference := by
  subst shown
  rcases List.mem_map.mp member with ⟨plan, own, rfl⟩
  rcases List.mem_map.mp among with ⟨planned, declared, same⟩
  exact ⟨plan, own, planned, declared, same⟩

/-! ## Names that are emitted -/

/-- The file of a unit declares a message or an enumeration under a name.
Services are left out, since no field can refer to one. -/
def Emits (context : SchemaContext) (schema : SchemaUnit) (name : String) : Prop :=
  ∃ names, declaredNames context schema = .ok names ∧ .text name ∈ names.messages ++ names.enums

theorem emits_iff {name : String} (values : List Value)
    (declared : (declaredNames context schema).toOption.map (fun names =>
      names.messages ++ names.enums) = some values) :
    Emits context schema name ↔ .text name ∈ values := by
  rcases exists_of_toOption_map declared with ⟨names, found, rfl⟩
  constructor
  · rintro ⟨others, again, member⟩
    cases found.symm.trans again
    exact member
  · exact fun member => ⟨names, found, member⟩

theorem exists_of_emits {name : String} (emits : Emits context schema name) :
    (∃ composite ∈ schema.composites, ∃ names, composite.messageNames = .ok names ∧
        .text name ∈ names) ∨
      ∃ enum ∈ schema.enums, enum.schemaName = .ok (.text name) := by
  rcases emits with ⟨names, declared, member⟩
  rcases bind_eq_ok_iff.mp declared with ⟨plans, planned, rest⟩
  rcases bind_eq_ok_iff.mp rest with ⟨kept, selected, rest⟩
  rcases bind_eq_ok_iff.mp rest with ⟨enums, named, rest⟩
  rcases bind_eq_ok_iff.mp rest with ⟨services, -, final⟩
  cases final
  rcases List.mem_append.mp member with ofMessage | ofEnum
  · left
    rcases List.mem_map.mp ofMessage with ⟨plan, among, same⟩
    rcases SchemaContext.exists_of_mem_messagePlans planned among with
      ⟨composite, own, messages, written, message, listed, made⟩
    rcases bind_eq_ok_iff.mp written with ⟨isMessage, -, rest⟩
    cases isMessage with
    | false =>
        cases rest
        cases listed
    | true =>
        rw [SchemaContext.name_of_plan made] at same
        exact ⟨composite, own, messages, rest, same ▸ listed⟩
  · right
    rcases exists_of_mem_mapM named ofEnum with ⟨enum, among, same⟩
    exact ⟨enum, mem_of_mem_keepWhere selected among, same⟩

end ProtoText

namespace FilePlan

variable {options : Options} {model : Model} {groups : List FileGroup} {group : FileGroup}
  {typeFiles known : List (Value × String)} {name : String}

/-! ## What is noted -/

/-- Names that are noted of a group include those that its file emits. -/
theorem registers_of_emits {context : SchemaContext} {noted : List Value}
    (emits : ProtoText.Emits context (groupUnit model typeFiles group) name)
    (named : groupTypeNames group = .ok noted) : group.registers name = true := by
  have isKey : ∀ value, (Value.text name).askKey = .ok value → value = .text name :=
    fun value asked => (Validation.askKey_eq_ok_iff.mp asked).2.symm
  rw [FileGroup.registers, named]
  rcases bind_eq_ok_iff.mp named with ⟨ofComposites, first, rest⟩
  rcases bind_eq_ok_iff.mp rest with ⟨ofEnums, second, final⟩
  cases final
  refine List.contains_iff_exists_mem_beq.mpr ⟨.text name, ?_, Value.beq_text_iff.mpr rfl⟩
  rcases ProtoText.exists_of_emits emits with
    ⟨composite, own, messages, listed, member⟩ | ⟨enum, own, given⟩
  · rcases exists_mem_of_mapM first own with ⟨list, among, found⟩
    rcases bind_eq_ok_iff.mp found with ⟨declared, -, rest⟩
    rw [listed, ok_bind] at rest
    rcases bind_eq_ok_iff.mp rest with ⟨keys, asked, final⟩
    cases final
    rcases exists_mem_of_mapM asked member with ⟨key, inside, same⟩
    rw [isKey key same] at inside
    exact List.mem_append_left _ (List.mem_flatten.mpr ⟨_, among, List.mem_cons_of_mem _ inside⟩)
  · rcases exists_mem_of_mapM second own with ⟨list, among, found⟩
    rcases bind_eq_ok_iff.mp found with ⟨declared, -, rest⟩
    rw [given, ok_bind] at rest
    rcases bind_eq_ok_iff.mp rest with ⟨key, asked, final⟩
    cases final
    rw [isKey key asked] at among
    exact List.mem_append_right _ (List.mem_flatten.mpr
      ⟨_, among, List.mem_cons_of_mem _ List.mem_cons_self⟩)

/-- A text is found in a table as in the list of all that was added to it. -/
theorem lookupKey?_addKey_eq (key : Value) (file : String) (known : List (Value × String)) :
    lookupKey? (Value.text name) (addKey key file known) =
      lookupKey? (.text name) (known ++ [(key, file)]) := by
  rw [addKey]
  split
  · rename_i present
    rcases List.any_eq_true.mp present with ⟨entry, member, alike⟩
    rw [lookupKey?_append, lookupKey?.eq_def _ [_], List.find?_singleton]
    split
    · rename_i same
      have isText : key = .text name := Value.beq_text_iff.mp same
      rw [isText] at alike
      have found : (known.find? (·.1 == Value.text name)).isSome = true :=
        List.find?_isSome.mpr ⟨entry, member, alike⟩
      rcases Option.isSome_iff_exists.mp found with ⟨first, isFirst⟩
      rw [lookupKey?, isFirst]
      rfl
    · exact Option.or_none.symm
  · rfl

theorem lookupKey?_foldl_addKey_eq (names : List Value) (file : String)
    (known : List (Value × String)) :
    lookupKey? (Value.text name) (names.foldl (fun known name => addKey name file known) known) =
      lookupKey? (.text name) (known ++ names.map (·, file)) := by
  induction names generalizing known with
  | nil => rw [List.map_nil, List.append_nil, List.foldl_nil]
  | cons key names ih =>
      rw [List.foldl_cons, ih, lookupKey?_append, lookupKey?_addKey_eq, ← lookupKey?_append,
        List.append_assoc, List.map_cons, List.singleton_append]

theorem lookupKey?_map_pair (names : List Value) (file : String) :
    lookupKey? (Value.text name) (names.map (·, file)) =
      if names.contains (.text name) then some file else none := by
  rw [lookupKey?, List.find?_map, Option.map_map]
  change (names.find? (· == Value.text name)).map (fun _ => file) = _
  cases first : names.find? (· == Value.text name) with
  | none =>
      rw [if_neg fun known => ?_]
      · rfl
      · rcases List.contains_iff_exists_mem_beq.mp known with ⟨value, member, alike⟩
        rw [Value.text_beq_iff.mp alike] at member
        exact List.find?_eq_none.mp first _ member (Value.beq_text_iff.mpr rfl)
  | some value =>
      have same : value = .text name := by
        have alike := List.find?_some first
        exact Value.beq_text_iff.mp alike
      have known : names.contains (Value.text name) = true :=
        List.contains_iff_exists_mem_beq.mpr
          ⟨value, List.mem_of_find?_eq_some first, Value.text_beq_iff.mpr same⟩
      rw [if_pos known]
      rfl

/-- The notes of a run over groups are found group by group: a name that is noted of several groups
leads to the file of the first one. -/
theorem lookupKey?_of_foldlM (name : String) {result : List (Value × String)}
    (run : groups.foldlM (fun known group => do
      return (← groupTypeNames group).foldl (fun known name => addKey name group.file known) known)
      known = (.ok result : Asked _)) :
    (∀ group ∈ groups, (groupTypeNames group).Succeeds) ∧
      lookupKey? (Value.text name) result = (lookupKey? (.text name) known).or
        ((groups.find? (·.registers name)).map (·.file)) := by
  induction groups generalizing known with
  | nil =>
      cases run
      exact ⟨List.forall_mem_nil _, Option.or_none.symm⟩
  | cons group groups ih =>
      rw [List.foldlM_cons] at run
      rcases bind_eq_ok_iff.mp run with ⟨next, step, rest⟩
      rcases bind_eq_ok_iff.mp step with ⟨names, noted, final⟩
      cases final
      have registers : group.registers name = names.contains (.text name) := by
        rw [FileGroup.registers, noted]
      rcases ih rest with ⟨others, found⟩
      refine ⟨List.forall_mem_cons.mpr ⟨⟨names, noted⟩, others⟩, ?_⟩
      rw [found, lookupKey?_foldl_addKey_eq, lookupKey?_append, Option.or_assoc,
        lookupKey?_map_pair, List.find?_cons, registers]
      cases names.contains (Value.text name) <;> rfl

/-- Where the notes of a run lead from a unit: to the file of the first group that notes the name,
if it is another file. -/
theorem otherFile?_of_typeFiles (found : FilePlan.typeFiles groups = .ok typeFiles) :
    ProtoText.otherFile? (groupUnit model typeFiles group) (.text name) =
      (((groups.find? (·.registers name)).map (·.file)).bind nonempty?).filter
        (· != group.file) := by
  change ((lookupKey? (Value.text name) typeFiles).bind nonempty?).filter (· != group.file) = _
  rw [(lookupKey?_of_foldlM name found).2]
  rfl

/-- A reference whose type has no import of its own leads to the file of the first group that notes
the type's name, if it is another file. -/
theorem referenceImport?_of_first {table : TypeTable} {reference : ProtoText.Reference}
    {owner : FileGroup} (found : FilePlan.typeFiles groups = .ok typeFiles)
    (first : groups.find? (·.registers name) = some owner) (type : reference.type = .text name)
    (pathless : table.importFor reference.type reference.source = .ok (.text ""))
    (given : owner.file ≠ "") (apart : owner.file ≠ group.file) :
    ProtoText.referenceImport? table (groupUnit model typeFiles group) reference =
      .ok (some (.text owner.file)) := by
  have other : ProtoText.otherFile? (groupUnit model typeFiles group) reference.type =
      some owner.file := by
    rw [type, otherFile?_of_typeFiles found, first, Option.map_some, Option.bind_some, nonempty?,
      if_neg given, Option.filter_some, if_pos (bne_iff_ne.mpr apart)]
  rw [ProtoText.referenceImport?_of_pathless pathless, other, Option.map_some]

/-! ## Types of other units -/

/-- The file of a group's unit declares a message or an enumeration under a name. -/
def FileGroup.Emits (options : Options) (model : Model) (typeFiles : List (Value × String))
    (group : FileGroup) (name : String) : Prop :=
  ProtoText.Emits (.of model options) (unitOf options model typeFiles group) name

/-- Of all groups of a run, one emits a name.  Where two groups emit it, the
first one that is registered is imported, which need not be the one that is
meant. -/
structure IsOnlyOwner (options : Options) (model : Model) (groups : List FileGroup)
    (typeFiles : List (Value × String)) (name : String) (owner : FileGroup) : Prop where
  member : owner ∈ groups
  emits : owner.Emits options model typeFiles name
  only : ∀ other ∈ groups, other.Emits options model typeFiles name → other = owner

/-- The units of a run that makes several files are written, and each group has notes. -/
theorem exists_units_of_generate {files : List GeneratedFile} (multi : options.isMultiFile = true)
    (made : generate options model = .ok files) :
    ∃ groups typeFiles, partition options model = .ok groups ∧
      knownTypeFiles options groups = .ok typeFiles ∧ FilePlan.typeFiles groups = .ok typeFiles ∧
      ∀ group ∈ groups, (groupTypeNames group).Succeeds ∧ ∃ plans services paths,
        ProtoText.HasParts (.of model options) (groupUnit model typeFiles group) plans services
          paths := by
  rcases generate_eq_ok_iff.mp made with ⟨groups, typeFiles, outputs, divided, known, each, -, -⟩
  have found := known
  rw [knownTypeFiles, multi, if_pos rfl] at found
  refine ⟨groups, typeFiles, divided, known, found, fun group member => ?_⟩
  refine ⟨(lookupKey?_of_foldlM "" found).1 group member, ?_⟩
  rcases exists_right_of_forall₂ each member with ⟨output, -, own⟩
  cases own with
  | files _ generated _ _ =>
      rw [unitOf_eq_groupUnit multi] at generated
      exact ProtoText.exists_hasParts generated

/-- In a run that makes several files, a field's type is declared by its own unit or by one that is
imported, if one unit emits the type and nothing comes before it: the type has no import of its own,
neither by itself nor by the type as which the field is declared in the model, and its name is noted
of no group that does not emit it. -/
theorem owner_imported (options : Options) (model : Model) (files : List GeneratedFile)
    (multi : options.isMultiFile = true) (made : generate options model = .ok files) :
    ∃ groups typeFiles, partition options model = .ok groups ∧
      knownTypeFiles options groups = .ok typeFiles ∧
      ∀ group ∈ groups, ∃ plans services paths,
        ProtoText.HasParts (.of model options) (unitOf options model typeFiles group) plans services
          paths ∧
        ∀ plan ∈ plans, ∀ planned ∈ plan.fields, ∀ name owner,
          (ProtoText.fieldReference planned).type = .text name →
          IsOnlyOwner options model groups typeFiles name owner →
          (SchemaContext.of model options).types.importFor (.text name)
            (ProtoText.fieldReference planned).source = .ok (.text "") →
          (∀ other ∈ groups, other.registers name = true →
            other.Emits options model typeFiles name) →
          owner.file ≠ "" → owner = group ∨ .text owner.file ∈ paths := by
  rcases exists_units_of_generate multi made with ⟨groups, typeFiles, divided, known, found, each⟩
  refine ⟨groups, typeFiles, divided, known, fun group member => ?_⟩
  rw [unitOf_eq_groupUnit multi]
  rcases (each group member).2 with ⟨plans, services, paths, parts⟩
  refine ⟨plans, services, paths, parts, ?_⟩
  intro plan among planned declared name owner type isOwner pathless noted given
  have emits := isOwner.emits
  rw [FileGroup.Emits, unitOf_eq_groupUnit multi] at emits
  rcases (each owner isOwner.member).1 with ⟨names, named⟩
  have registers := registers_of_emits emits named
  have first : groups.find? (·.registers name) = some owner := by
    cases search : groups.find? (·.registers name) with
    | none => exact absurd registers (List.find?_eq_none.mp search owner isOwner.member)
    | some other =>
        have here := List.mem_of_find?_eq_some search
        have ofOther := List.find?_some search
        rw [isOwner.only other here (noted other here ofOther)]
  by_cases same : owner.file = group.file
  · exact Or.inl (List.inj_on_of_nodup_map (isPartition_of_ok divided).1.files isOwner.member member
      same)
  · right
    rw [← type] at pathless
    exact parts.mem_of_referenceImport? (ProtoText.fieldReference_mem _ among declared)
      (referenceImport?_of_first found first type pathless given same)

/-- The unit of a type imports the file of the enumeration to which the type refers. -/
theorem owner_imported_memberModel :
    ∃ typeFiles plans services paths,
      partition memberOptions memberModel = .ok [memberGroup, roleGroup] ∧
      IsOnlyOwner memberOptions memberModel [memberGroup, roleGroup] typeFiles "Role" roleGroup ∧
      ProtoText.HasParts (.of memberModel memberOptions)
        (unitOf memberOptions memberModel typeFiles memberGroup) plans services paths ∧
      .text "role.proto" ∈ paths := by
  have generated : (generate memberOptions memberModel).toOption.isSome = true := by decide +kernel
  have divided : partition memberOptions memberModel = .ok [memberGroup, roleGroup] := by cbv
  have found : typeFiles [memberGroup, roleGroup] =
      .ok [(.text "Member", "member.proto"), (.text "Role", "role.proto")] := by cbv
  have ofMember : ∀ name, memberGroup.Emits memberOptions memberModel
      [(.text "Member", "member.proto"), (.text "Role", "role.proto")] name ↔
        .text name ∈ [Value.text "Member"] :=
    fun name => ProtoText.emits_iff _ (by cbv)
  have ofRole : ∀ name, roleGroup.Emits memberOptions memberModel
      [(.text "Member", "member.proto"), (.text "Role", "role.proto")] name ↔
        .text name ∈ [Value.text "Role"] :=
    fun name => ProtoText.emits_iff _ (by cbv)
  have unnoted : memberGroup.registers "Role" = false := by decide +kernel
  have computed : (do
      let plans ← (SchemaContext.of memberModel memberOptions).messagePlans memberModel.composites
      return plans.map fun plan => plan.fields.map ProtoText.fieldReference) =
      (.ok [[⟨.text "Role", "Role"⟩, ⟨.text "google.protobuf.Timestamp", "time.Time"⟩]] :
        Asked (List (List ProtoText.Reference))) := by
    cbv
  rcases exists_of_isSome_toOption generated with ⟨files, made⟩
  rcases owner_imported memberOptions memberModel files rfl made with
    ⟨groups, typeFiles, same, known, each⟩
  cases divided.symm.trans same
  cases found.symm.trans known
  have isOwner : IsOnlyOwner memberOptions memberModel [memberGroup, roleGroup]
      [(.text "Member", "member.proto"), (.text "Role", "role.proto")] "Role" roleGroup := by
    refine ⟨List.mem_cons_of_mem _ List.mem_cons_self, (ofRole _).mpr List.mem_cons_self, ?_⟩
    intro other among emits
    rcases List.mem_pair.mp among with rfl | rfl
    · exact absurd (Value.text.inj (List.mem_singleton.mp ((ofMember _).mp emits))) (by decide)
    · rfl
  rcases each memberGroup List.mem_cons_self with ⟨plans, services, paths, parts, reached⟩
  refine ⟨_, plans, services, paths, divided, isOwner, parts, ?_⟩
  rcases bind_eq_ok_iff.mp computed with ⟨others, planned, references⟩
  cases planned.symm.trans parts.planned
  rcases ProtoText.exists_field_of_references (Except.ok.inj references) List.mem_cons_self
    List.mem_cons_self with ⟨plan, among, planned, declared, refers⟩
  have pathless : (SchemaContext.of memberModel memberOptions).types.importFor (.text "Role")
      "Role" = .ok (.text "") := by cbv
  have noted : ∀ other ∈ [memberGroup, roleGroup], other.registers "Role" = true →
      other.Emits memberOptions memberModel
        [(.text "Member", "member.proto"), (.text "Role", "role.proto")] "Role" := by
    intro other listed registers
    rcases List.mem_pair.mp listed with rfl | rfl
    · cases unnoted.symm.trans registers
    · exact isOwner.emits
  refine (reached plan among planned declared "Role" roleGroup (by rw [refers]) isOwner
    (by rw [refers]; exact pathless) noted (by decide)).resolve_left fun same => ?_
  exact absurd (congrArg FileGroup.key same) (by decide)

/-- A field that is declared as a known type with an import, but stated to have a type of another
source file. -/
def holderModel : Model :=
  { composites :=
      [{ name := .text "Account", sourceFile := .text "a.go"
         fields := [{ name := .text "Id", type := .named "int64" "" }] },
       { name := .text "User", sourceFile := .text "b.go"
         fields :=
          [{ name := .text "Owner", type := .named "Owner" "ext"
             annotations :=
              [{ name := .text "field", params := [("type", .text "Account")] }] }] }] }

def holderOptions : Options :=
  { strategy := .read .follow
    knownTypes := .read [(.text "ext.Owner",
      { type := .text "ext.Owner", importPath := .text "ext/owner.proto" })] }

def accountGroup : FileGroup :=
  { key := "a.go", file := "a.proto", name := "a"
    composites := holderModel.composites.take 1, enums := [], services := [] }

def holderGroup : FileGroup :=
  { key := "b.go", file := "b.proto", name := "b"
    composites := holderModel.composites.drop 1, enums := [], services := [] }

/-- The unit with the field imports the file of the known type, to which nothing refers, and not the
one of the type that the field has. -/
theorem owner_not_imported_holderModel :
    ∃ files typeFiles plans services, generate holderOptions holderModel = .ok files ∧
      partition holderOptions holderModel = .ok [accountGroup, holderGroup] ∧
      knownTypeFiles holderOptions [accountGroup, holderGroup] = .ok typeFiles ∧
      IsOnlyOwner holderOptions holderModel [accountGroup, holderGroup] typeFiles "Account"
        accountGroup ∧
      ProtoText.HasParts (.of holderModel holderOptions)
        (unitOf holderOptions holderModel typeFiles holderGroup) plans services
        [.text "ext/owner.proto"] ∧
      ∃ plan ∈ plans, ∃ planned ∈ plan.fields,
        (ProtoText.fieldReference planned).type = .text "Account" := by
  have generated : (generate holderOptions holderModel).toOption.isSome = true := by decide +kernel
  rcases exists_of_isSome_toOption generated with ⟨files, made⟩
  have computed : (do
      let plans ← (SchemaContext.of holderModel holderOptions).messagePlans holderGroup.composites
      let paths ← ProtoText.imports (.of holderModel holderOptions)
        (unitOf holderOptions holderModel
          [(.text "Account", "a.proto"), (.text "User", "b.proto")] holderGroup) plans []
      return (paths, plans.map fun plan => plan.fields.map ProtoText.fieldReference)) =
      (.ok ([.text "ext/owner.proto"], [[⟨.text "Account", "ext.Owner"⟩]]) :
        Asked (List Value × List (List ProtoText.Reference))) := by
    cbv
  rcases bind_eq_ok_iff.mp computed with ⟨plans, planned, rest⟩
  rcases bind_eq_ok_iff.mp rest with ⟨paths, imported, final⟩
  rcases Prod.mk.inj (Except.ok.inj final) with ⟨rfl, references⟩
  refine ⟨files, [(.text "Account", "a.proto"), (.text "User", "b.proto")], plans, [], made, by cbv,
    by cbv, ⟨List.mem_cons_self, (ProtoText.emits_iff _ (by cbv)).mpr List.mem_cons_self, ?_⟩,
    ⟨planned, by cbv, imported⟩, ?_⟩
  · intro other among emits
    rcases List.mem_pair.mp among with rfl | rfl
    · rfl
    · have ofHolder := (ProtoText.emits_iff [.text "User"] (by cbv)).mp emits
      exact absurd (Value.text.inj (List.mem_singleton.mp ofHolder)) (by decide)
  · rcases ProtoText.exists_field_of_references references List.mem_cons_self
      List.mem_cons_self with ⟨plan, among, field, declared, same⟩
    exact ⟨plan, among, field, declared, by rw [same]⟩

/-! ## Types of the unit itself -/

/-- In a run that makes several files, a reference of a unit to a type that the unit itself emits
adds nothing to its imports but the import of the type, as long as no earlier group notes the name.
Otherwise the first such group counts, and the reference adds its file. -/
theorem own_type_adds_no_file (options : Options) (model : Model) (files : List GeneratedFile)
    (multi : options.isMultiFile = true) (made : generate options model = .ok files) :
    ∃ groups typeFiles, partition options model = .ok groups ∧
      knownTypeFiles options groups = .ok typeFiles ∧
      ∀ before group after, groups = before ++ group :: after → ∃ plans services paths,
        ProtoText.HasParts (.of model options) (unitOf options model typeFiles group) plans services
          paths ∧
        ∀ reference ∈ ProtoText.references plans services, ∀ name, reference.type = .text name →
          group.Emits options model typeFiles name →
          ((∀ earlier ∈ before, earlier.registers name = false) → ∀ path,
            ProtoText.referenceImport? (SchemaContext.of model options).types
              (unitOf options model typeFiles group) reference = .ok (some path) →
            (SchemaContext.of model options).types.importFor reference.type reference.source =
              .ok path) ∧
          ∀ owner, before.find? (·.registers name) = some owner → owner.file ≠ "" →
            (SchemaContext.of model options).types.importFor reference.type reference.source =
              .ok (.text "") →
            ProtoText.referenceImport? (SchemaContext.of model options).types
                (unitOf options model typeFiles group) reference = .ok (some (.text owner.file)) ∧
              .text owner.file ∈ paths := by
  rcases exists_units_of_generate multi made with ⟨groups, typeFiles, divided, known, found, each⟩
  refine ⟨groups, typeFiles, divided, known, ?_⟩
  rintro before group after rfl
  have member : group ∈ before ++ group :: after :=
    List.mem_append_right _ List.mem_cons_self
  rw [unitOf_eq_groupUnit multi]
  rcases each group member with ⟨⟨names, named⟩, plans, services, paths, parts⟩
  refine ⟨plans, services, paths, parts, fun reference referred name type emits => ⟨?_, ?_⟩⟩
  · intro unnoted path added
    rw [FileGroup.Emits, unitOf_eq_groupUnit multi] at emits
    have search : (before ++ group :: after).find? (·.registers name) = some group := by
      have none : before.find? (·.registers name) = none :=
        List.find?_eq_none.mpr fun earlier among noted =>
          Bool.false_ne_true ((unnoted earlier among).symm.trans noted)
      rw [List.find?_append, none, List.find?_cons, registers_of_emits emits named]
      rfl
    refine ProtoText.importFor_of_referenceImport? ?_ added
    rw [type, otherFile?_of_typeFiles found, search, Option.map_some, Option.bind_some]
    by_cases given : group.file = ""
    · rw [nonempty?, if_pos given]
      rfl
    · rw [nonempty?, if_neg given, Option.filter_some, bne_self_eq_false, if_neg Bool.false_ne_true]
  · intro owner first given pathless
    have search : (before ++ group :: after).find? (·.registers name) = some owner := by
      rw [List.find?_append, first]
      rfl
    have apart : owner.file ≠ group.file := by
      have unique := (isPartition_of_ok divided).1.files
      rw [List.map_append, List.map_cons, List.nodup_append] at unique
      exact unique.2.2 _ (List.mem_map_of_mem (List.mem_of_find?_eq_some first)) _
        List.mem_cons_self
    have added : ProtoText.referenceImport? (SchemaContext.of model options).types
        (groupUnit model typeFiles group) reference = .ok (some (.text owner.file)) :=
      referenceImport?_of_first found search type pathless given apart
    exact ⟨added, parts.mem_of_referenceImport? referred added⟩

/-- Two source files with a type of one name, to which a type of each file refers. -/
def teamModel : Model :=
  { composites :=
      [{ name := .text "User", sourceFile := .text "a.go"
         fields := [{ name := .text "Manager", type := .named "User" "" }] },
       { name := .text "User", sourceFile := .text "b.go"
         fields := [{ name := .text "Id", type := .named "int64" "" }] },
       { name := .text "Team", sourceFile := .text "b.go"
         fields := [{ name := .text "Lead", type := .named "User" "" }] }] }

def teamOptions : Options := { strategy := .read .follow }

def firstTeamGroup : FileGroup :=
  { key := "a.go", file := "a.proto", name := "a"
    composites := teamModel.composites.take 1, enums := [], services := [] }

def secondTeamGroup : FileGroup :=
  { key := "b.go", file := "b.proto", name := "b"
    composites := teamModel.composites.drop 1, enums := [], services := [] }

/-- The reference in the first unit does not bring in the second file. -/
theorem own_type_adds_no_file_teamModel :
    ∃ typeFiles plans services paths,
      partition teamOptions teamModel = .ok [firstTeamGroup, secondTeamGroup] ∧
      secondTeamGroup.registers "User" = true ∧
      ProtoText.HasParts (.of teamModel teamOptions)
        (unitOf teamOptions teamModel typeFiles firstTeamGroup) plans services paths ∧
      ∃ reference ∈ ProtoText.references plans services, reference.type = .text "User" ∧
        ProtoText.referenceImport? (SchemaContext.of teamModel teamOptions).types
          (unitOf teamOptions teamModel typeFiles firstTeamGroup) reference ≠
            .ok (some (.text "b.proto")) := by
  have generated : (generate teamOptions teamModel).toOption.isSome = true := by decide +kernel
  have divided : partition teamOptions teamModel = .ok [firstTeamGroup, secondTeamGroup] := by cbv
  have computed : (do
      let plans ← (SchemaContext.of teamModel teamOptions).messagePlans firstTeamGroup.composites
      return plans.map fun plan => plan.fields.map ProtoText.fieldReference) =
      (.ok [[⟨.text "User", "User"⟩]] : Asked (List (List ProtoText.Reference))) := by
    cbv
  have pathless : (SchemaContext.of teamModel teamOptions).types.importFor (.text "User") "User" =
      .ok (.text "") := by cbv
  rcases exists_of_isSome_toOption generated with ⟨files, made⟩
  rcases own_type_adds_no_file teamOptions teamModel files rfl made with
    ⟨groups, typeFiles, same, known, each⟩
  cases divided.symm.trans same
  rcases each [] firstTeamGroup [secondTeamGroup] rfl with ⟨plans, services, paths, parts, own⟩
  have emits : firstTeamGroup.Emits teamOptions teamModel typeFiles "User" :=
    (ProtoText.emits_iff [.text "User"] (by cbv)).mpr List.mem_cons_self
  rcases bind_eq_ok_iff.mp computed with ⟨others, planned, references⟩
  cases planned.symm.trans parts.planned
  rcases ProtoText.exists_field_of_references (Except.ok.inj references) List.mem_cons_self
    List.mem_cons_self with ⟨plan, among, field, declared, refers⟩
  have referred := ProtoText.fieldReference_mem services among declared
  rw [refers] at referred
  refine ⟨typeFiles, plans, services, paths, divided, by decide +kernel, parts,
    ⟨.text "User", "User"⟩, referred, rfl, fun added => ?_⟩
  have given := (own _ referred "User" rfl emits).1 (List.forall_mem_nil _) _ added
  exact absurd (Value.text.inj (Except.ok.inj (pathless.symm.trans given))) (by decide)

/-- The reference in the second unit brings in the first file, though the unit declares the type
itself. -/
theorem own_type_adds_file_teamModel :
    ∃ files typeFiles plans services, generate teamOptions teamModel = .ok files ∧
      partition teamOptions teamModel = .ok [firstTeamGroup, secondTeamGroup] ∧
      knownTypeFiles teamOptions [firstTeamGroup, secondTeamGroup] = .ok typeFiles ∧
      secondTeamGroup.Emits teamOptions teamModel typeFiles "User" ∧
      ProtoText.HasParts (.of teamModel teamOptions)
        (unitOf teamOptions teamModel typeFiles secondTeamGroup) plans services
        [.text firstTeamGroup.file] ∧
      ∃ reference ∈ ProtoText.references plans services, reference.type = .text "User" ∧
        ProtoText.referenceImport? (SchemaContext.of teamModel teamOptions).types
          (unitOf teamOptions teamModel typeFiles secondTeamGroup) reference =
            .ok (some (.text firstTeamGroup.file)) := by
  have generated : (generate teamOptions teamModel).toOption.isSome = true := by decide +kernel
  rcases exists_of_isSome_toOption generated with ⟨files, made⟩
  have computed : (do
      let plans ← (SchemaContext.of teamModel teamOptions).messagePlans secondTeamGroup.composites
      let paths ← ProtoText.imports (.of teamModel teamOptions) (unitOf teamOptions teamModel
        [(.text "User", "a.proto"), (.text "Team", "b.proto")] secondTeamGroup) plans []
      return (paths, plans.map fun plan => plan.fields.map ProtoText.fieldReference)) =
      (.ok ([.text firstTeamGroup.file], [[⟨.text "int64", "int64"⟩], [⟨.text "User", "User"⟩]]) :
        Asked (List Value × List (List ProtoText.Reference))) := by
    cbv
  rcases bind_eq_ok_iff.mp computed with ⟨plans, planned, rest⟩
  rcases bind_eq_ok_iff.mp rest with ⟨paths, imported, final⟩
  rcases Prod.mk.inj (Except.ok.inj final) with ⟨rfl, references⟩
  rcases ProtoText.exists_field_of_references references
    (List.mem_cons_of_mem _ List.mem_cons_self) List.mem_cons_self with
    ⟨plan, among, field, declared, refers⟩
  have referred := ProtoText.fieldReference_mem [] among declared
  rw [refers] at referred
  exact ⟨files, [(.text "User", "a.proto"), (.text "Team", "b.proto")], plans, [], made, by cbv,
    by cbv, (ProtoText.emits_iff [.text "User", .text "Team"] (by cbv)).mpr
      List.mem_cons_self, ⟨planned, by cbv, imported⟩, _, referred, rfl, by cbv⟩

end FilePlan

end WireSchema
