import Mathlib
import WireSchema.Proofs.FilePlan.Preservation
import WireSchema.Proofs.ProtoText.Imports

namespace WireSchema.FilePlan

/-!
# Imports between the files of a run

A run first notes for every type the file of the group that declares it, and then looks up in these
notes what the fields and methods of each group refer to.  Both passes go by the name of a type: a
declaration is noted under its own name and under those that it has in the schema.  Where no name is
noted for two groups, the notes tell exactly which group declares a type, so a unit imports the
files of exactly those other groups to whose types it refers.

A reference to a well-known type leads to the import of this type whatever the file of the unit is
called.  So a file that has the path of a well-known import can import itself.
-/

open Asked

variable {options : Options} {model : Model} {groups : List FileGroup}

/-- Whether a type of the name is noted for a group; not if the names of its
types cannot be asked, in which case there is no run either. -/
def FileGroup.registers (group : FileGroup) (name : String) : Bool :=
  match groupTypeNames group with
  | .ok names => names.contains (.text name)
  | .error _ => false

theorem FileGroup.registers_iff {group : FileGroup} {names : List String} {name : String}
    (noted : groupTypeNames group = .ok (names.map .text)) :
    group.registers name = true ↔ name ∈ names := by
  rw [registers, noted]
  change (names.map Value.text).contains (.text name) = true ↔ name ∈ names
  rw [Value.contains_map_text, List.contains_iff_mem]

/-! ## Looking up what was noted -/

theorem lookupKey?_addKey (name key : String) (file : String) (known : List (Value × String)) :
    lookupKey? (Value.text name) (addKey (.text key) file known) =
      (lookupKey? (.text name) known <|> if key = name then some file else none) := by
  rw [addKey]
  by_cases same : key = name
  · subst same
    rw [if_pos rfl]
    by_cases present : known.any (·.1 == Value.text key) = true
    · rw [if_pos present]
      have found : (known.find? (·.1 == Value.text key)).isSome = true := by
        rw [List.find?_isSome]
        exact List.any_eq_true.mp present
      rcases Option.isSome_iff_exists.mp found with ⟨entry, first⟩
      rw [lookupKey?, first]
      rfl
    · rw [if_neg present]
      have absent : known.find? (·.1 == Value.text key) = none := by
        rw [List.find?_eq_none]
        exact fun entry member alike => present (List.any_eq_true.mpr ⟨entry, member, alike⟩)
      have own : (Value.text key == Value.text key) = true := by
        rw [Value.text_beq_text, beq_self_eq_true]
      rw [lookupKey?, lookupKey?, List.find?_append, absent, List.find?_singleton, own]
      rfl
  · rw [if_neg same]
    by_cases present : known.any (·.1 == Value.text key) = true
    · rw [if_pos present]
      cases lookupKey? (Value.text name) known <;> rfl
    · have other : ¬(Value.text key == Value.text name) = true := by
        rw [Value.text_beq_text, beq_iff_eq]
        exact same
      rw [if_neg present, lookupKey?, lookupKey?, List.find?_append, List.find?_singleton,
        if_neg other]
      cases known.find? (·.1 == Value.text name) <;> rfl

theorem lookupKey?_foldl_addKey {names : List Value} (name file : String)
    (known : List (Value × String)) (texts : ∀ noted ∈ names, noted.IsText) :
    lookupKey? (Value.text name) (names.foldl (fun known name => addKey name file known) known) =
      (lookupKey? (.text name) known <|>
        if names.contains (.text name) then some file else none) := by
  induction names generalizing known with
  | nil => simp
  | cons noted names ih =>
      rcases List.forall_mem_cons.mp texts with ⟨⟨key, rfl⟩, others⟩
      rw [List.foldl_cons, ih _ others, lookupKey?_addKey, List.contains_cons, Value.text_beq_text]
      cases lookupKey? (Value.text name) known with
      | some found => rfl
      | none =>
          by_cases same : key = name
          · rw [if_pos same, same, beq_self_eq_true, Bool.true_or, if_pos rfl]
            rfl
          · have different : (name == key) = false := beq_eq_false_iff_ne.mpr (Ne.symm same)
            rw [if_neg same, different, Bool.false_or]
            rfl

/-- Of several groups that note a type, the first one counts. -/
theorem lookupKey?_typeFiles {known result : List (Value × String)} (name : String)
    (texts : ∀ group ∈ groups, ∀ names, groupTypeNames group = .ok names →
      ∀ noted ∈ names, noted.IsText)
    (run : groups.foldlM (fun known group => do
      return (← groupTypeNames group).foldl (fun known name => addKey name group.file known) known)
      known = (.ok result : Asked _)) :
    lookupKey? (Value.text name) result = (lookupKey? (.text name) known <|>
      (groups.find? (·.registers name)).map (·.file)) := by
  induction groups generalizing known with
  | nil =>
      cases run
      simp
  | cons group groups ih =>
      rcases List.forall_mem_cons.mp texts with ⟨own, others⟩
      rw [List.foldlM_cons] at run
      rcases bind_eq_ok_iff.mp run with ⟨next, step, rest⟩
      rcases bind_eq_ok_iff.mp step with ⟨names, noted, final⟩
      cases final
      have registers : group.registers name = names.contains (.text name) := by
        rw [FileGroup.registers, noted]
      rw [ih others rest, lookupKey?_foldl_addKey name group.file known (own names noted),
        List.find?_cons, registers]
      cases lookupKey? (Value.text name) known with
      | some found => rfl
      | none => cases names.contains (Value.text name) <;> rfl

/-! ## The names of typed declarations -/

theorem isText_of_compositeTypeNames {composite : Composite} {names : List Value}
    (typed : composite.IsTyped) (found : compositeTypeNames composite = .ok names) :
    ∀ name ∈ names, name.IsText := by
  rcases Composite.exists_messageNames typed with ⟨messages, named, texts⟩
  rcases bind_eq_ok_iff.mp found with ⟨own, key, rest⟩
  rw [named, ok_bind] at rest
  rcases bind_eq_ok_iff.mp rest with ⟨keys, asked, final⟩
  cases final
  intro name member
  rcases List.mem_cons.mp member with rfl | later
  · exact (Validation.askKey_eq_ok_iff.mp key).2 ▸ typed.name
  · rcases exists_of_mem_mapM asked later with ⟨message, declared, same⟩
    exact (Validation.askKey_eq_ok_iff.mp same).2 ▸ texts message declared

theorem isText_of_enumTypeNames {enum : EnumType} {names : List Value} (typed : enum.IsTyped)
    (found : enumTypeNames enum = .ok names) : ∀ name ∈ names, name.IsText := by
  rcases EnumType.exists_schemaName typed with ⟨schemaName, named, isText⟩
  rcases bind_eq_ok_iff.mp found with ⟨own, key, rest⟩
  rw [named, ok_bind] at rest
  rcases bind_eq_ok_iff.mp rest with ⟨given, asked, final⟩
  cases final
  intro name member
  rcases List.mem_pair.mp member with rfl | rfl
  · exact (Validation.askKey_eq_ok_iff.mp key).2 ▸ typed.name
  · exact (Validation.askKey_eq_ok_iff.mp asked).2 ▸ isText

theorem isText_of_groupTypeNames {group : FileGroup} {names : List Value}
    (composites : ∀ composite ∈ group.composites, composite.IsTyped)
    (enums : ∀ enum ∈ group.enums, enum.IsTyped) (found : groupTypeNames group = .ok names) :
    ∀ name ∈ names, name.IsText := by
  rcases bind_eq_ok_iff.mp found with ⟨ofComposites, first, rest⟩
  rcases bind_eq_ok_iff.mp rest with ⟨ofEnums, second, final⟩
  cases final
  intro name member
  rcases List.mem_append.mp member with here | there
  · rcases List.mem_flatten.mp here with ⟨list, among, own⟩
    rcases exists_of_mem_mapM first among with ⟨composite, declared, named⟩
    exact isText_of_compositeTypeNames (composites composite declared) named name own
  · rcases List.mem_flatten.mp there with ⟨list, among, own⟩
    rcases exists_of_mem_mapM second among with ⟨enum, declared, named⟩
    exact isText_of_enumTypeNames (enums enum declared) named name own

/-! ## Files of other groups -/

/-- Groups whose types are told apart by their names: no name is noted for two groups or is that of
a well-known type, and every group has a file name. -/
structure HaveOwnTypes (groups : List FileGroup) : Prop where
  disjoint : ∀ group ∈ groups, ∀ other ∈ groups, ∀ name, group.registers name = true →
    other.registers name = true → group = other
  foreign : ∀ group ∈ groups, ∀ entry ∈ wellKnownImports, group.registers entry.1 = false
  files : ∀ group ∈ groups, group.file ≠ ""

/-- A type of the name is noted for another group, whose file is at a path.
Nothing is said of the own group, which may have noted a type of the name as
well. -/
def IsElsewhere (groups : List FileGroup) (group : FileGroup) (name path : String) : Prop :=
  ∃ other ∈ groups, other ≠ group ∧ other.registers name = true ∧ other.file = path

theorem lookupKey?_wellKnownImports {name path : String} :
    lookupKey? name wellKnownImports = some path ↔ (name, path) ∈ wellKnownImports :=
  lookupKey?_eq_some_iff (by decide +kernel)

section Places

variable {typeFiles : List (Value × String)} {group : FileGroup}

theorem otherFile?_eq_some_iff {name path : String} (own : HaveOwnTypes groups)
    (noted : lookupKey? (Value.text name) typeFiles =
      (groups.find? (·.registers name)).map (·.file))
    (member : group ∈ groups) (files : (groups.map (·.file)).Nodup) :
    ProtoText.otherFile? (groupUnit model typeFiles group) (.text name) = some path ↔
      IsElsewhere groups group name path := by
  have unique : ∀ other ∈ groups, other.file = group.file → other = group :=
    fun other among same => List.inj_on_of_nodup_map files among member same
  change ((lookupKey? (Value.text name) typeFiles).bind nonempty?).filter (· != group.file) =
    some path ↔ _
  rw [noted]
  constructor
  · intro found
    rcases Option.filter_eq_some_iff.mp found with ⟨given, elsewhere⟩
    rcases Option.bind_eq_some_iff.mp given with ⟨file, ofGroup, whole⟩
    rcases Option.map_eq_some_iff.mp ofGroup with ⟨other, first, rfl⟩
    have among := List.mem_of_find?_eq_some first
    have registers := List.find?_some first
    rw [nonempty?, if_neg (own.files other among)] at whole
    cases whole
    refine ⟨other, among, ?_, registers, rfl⟩
    rintro rfl
    exact absurd rfl (bne_iff_ne.mp elsewhere)
  · rintro ⟨other, among, different, registers, rfl⟩
    have found : groups.find? (·.registers name) = some other := by
      cases first : groups.find? (·.registers name) with
      | none => exact absurd registers (List.find?_eq_none.mp first other among)
      | some owner =>
          have ofOwner := List.find?_some first
          rw [own.disjoint owner (List.mem_of_find?_eq_some first) other among name ofOwner
            registers]
    have elsewhere : (other.file != group.file) = true :=
      bne_iff_ne.mpr fun same => different (unique other among same)
    rw [found, Option.map_some, Option.bind_some, nonempty?, if_neg (own.files other among),
      Option.filter_some, if_pos elsewhere]

/-- A type leads to the import that declares it when it is well known, and else to the file of the
other group for which it is noted. -/
theorem importPath?_eq_some_iff {name path : String} (own : HaveOwnTypes groups)
    (noted : lookupKey? (Value.text name) typeFiles =
      (groups.find? (·.registers name)).map (·.file))
    (member : group ∈ groups) (files : (groups.map (·.file)).Nodup) :
    ProtoText.importPath? (groupUnit model typeFiles group) name = some path ↔
      (name, path) ∈ wellKnownImports ∨ IsElsewhere groups group name path := by
  rw [ProtoText.importPath?, ← otherFile?_eq_some_iff own noted member files]
  cases found : lookupKey? name wellKnownImports with
  | none =>
      have absent : (name, path) ∉ wellKnownImports := by
        rw [← lookupKey?_wellKnownImports, found]
        rintro ⟨⟩
      rw [or_iff_right absent]
      rfl
  | some known =>
      have wellKnown := lookupKey?_wellKnownImports.mp found
      have nowhere : ¬IsElsewhere groups group name path := by
        rintro ⟨other, among, -, registers, -⟩
        rw [own.foreign other among _ wellKnown] at registers
        cases registers
      rw [otherFile?_eq_some_iff own noted member files, or_iff_left nowhere,
        ← lookupKey?_wellKnownImports, found]
      rfl

end Places

/-! ## All imports of a run -/

/-- The plans and services of a unit, with its imports as texts in strictly
increasing order.  The order leaves no room for an import that is stated
twice. -/
structure HasImports (context : SchemaContext) (schema : SchemaUnit) (plans : List MessagePlan)
    (services : List Service) (paths : List String) : Prop where
  planned : context.messagePlans schema.composites = .ok plans
  written : ProtoText.writtenServices context schema = .ok services
  imports : ProtoText.imports context schema plans services = .ok (paths.map .text)
  increasing : paths.Pairwise (· < ·)

/-- In a run that makes several files whose groups have types of their own, the imports of every
unit are exactly those that options and annotations ask for, those of well-known types to which the
unit refers, and the files of the other groups for which types are noted to which it refers.  A
reference makes a unit import its own file only when it is to a well-known type whose import is that
file. -/
theorem imports_exact (options : Options) (model : Model) (groups : List FileGroup)
    (custom : List String) (multi : options.isMultiFile = true)
    (divided : partition options model = .ok groups) (own : HaveOwnTypes groups)
    (pathless : ProtoText.HasNoKnownImports (TypeTable.ofOptions options model))
    (listed : options.customImports = some (.list (custom.map .text)))
    (notes : model.levelAnnotations.all Annotation.hasTextName = true)
    (typed : model.wholeUnit.IsTyped) (optionsTyped : options.IsTyped) :
    ∃ typeFiles, knownTypeFiles options groups = .ok typeFiles ∧
      ∀ group ∈ groups, ∃ plans services paths,
        HasImports (.of model options) (unitOf options model typeFiles group) plans services paths ∧
        (∀ path, path ∈ paths ↔ path ∈ custom ∨ ProtoText.IsAnnotatedImport model path ∨
          ∃ name, ProtoText.Refers plans services (.text name) ∧
            ((name, path) ∈ wellKnownImports ∨ IsElsewhere groups group name path)) ∧
        (group.file ∈ paths → group.file ∈ custom ∨
          ProtoText.IsAnnotatedImport model group.file ∨
          ∃ name, ProtoText.Refers plans services (.text name) ∧
            (name, group.file) ∈ wellKnownImports) := by
  have partitioned := (isPartition_of_ok divided).1
  rcases succeeds_typeFiles_of_partition typed partitioned with ⟨typeFiles, found⟩
  have contextTyped : (SchemaContext.of model options).IsTyped :=
    SchemaContext.of_isTyped typed.model optionsTyped
  have part : ∀ group ∈ groups, (groupUnit model typeFiles group).IsPart model.wholeUnit :=
    fun group member => (partitioned.isDivision typeFiles).each _ (List.mem_map_of_mem member)
  have noted : ∀ name, lookupKey? (Value.text name) typeFiles =
      (groups.find? (·.registers name)).map (·.file) := by
    intro name
    refine (lookupKey?_typeFiles name ?_ found).trans Option.none_or
    intro group member names named
    exact isText_of_groupTypeNames
      (fun composite declared => typed.composites composite
        ((part group member).composites.subset declared))
      (fun enum declared => typed.enums enum ((part group member).enums.subset declared)) named
  refine ⟨typeFiles, by rw [knownTypeFiles, multi, if_pos rfl, found], fun group member => ?_⟩
  rw [unitOf_eq_groupUnit multi]
  have composites : ∀ composite ∈ group.composites, composite.IsTyped :=
    fun composite declared => typed.composites composite
      ((part group member).composites.subset declared)
  have contracts : ∀ contract ∈ group.services, contract.IsTyped :=
    fun contract declared => typed.services contract ((part group member).services.subset declared)
  rcases SchemaContext.succeeds_messagePlans contextTyped composites with ⟨plans, planned⟩
  have services : (ProtoText.writtenServices (.of model options)
      (groupUnit model typeFiles group)).Succeeds := by
    rw [ProtoText.writtenServices]
    split
    · rcases SchemaContext.exists_services contextTyped contracts composites with
        ⟨services, resolved, -⟩
      exact ⟨services, resolved⟩
    · exact succeeds_ok []
  rcases services with ⟨services, written⟩
  rcases ProtoText.exists_imports (.of model options) (groupUnit model typeFiles group) notes
    pathless listed
    fun type refers => ProtoText.isText_of_refers contextTyped.types planned written refers with
    ⟨paths, imported, increasing, members⟩
  simp only [importPath?_eq_some_iff own (noted _) member partitioned.files] at members
  refine ⟨plans, services, paths, ⟨planned, written, imported, increasing⟩, members, ?_⟩
  intro inside
  refine ((members group.file).mp inside).imp_right (Or.imp_right ?_)
  rintro ⟨name, refers, wellKnown | ⟨other, among, different, -, same⟩⟩
  · exact ⟨name, refers, wellKnown⟩
  · exact absurd (List.inj_on_of_nodup_map partitioned.files among member same) different

/-! ## Two runs -/

/-- A type that refers to a well-known type and to an enumeration of another source file. -/
def memberModel : Model :=
  { composites :=
      [{ name := .text "Member", sourceFile := .text "member.go"
         fields :=
          [{ name := .text "Role", type := .named "Role" "" },
            { name := .text "Since", type := .named "Time" "time" }] }]
    enums :=
      [{ name := .text "Role", sourceFile := .text "role.go"
         values := [{ name := .text "Guest", index := .int 0 }] }] }

def memberOptions : Options :=
  { strategy := .read .follow, customImports := some (.list [.text "base.proto"]) }

def memberGroup : FileGroup :=
  { key := "member.go", file := "member.proto", name := "member"
    composites := memberModel.composites, enums := [], services := [] }

def roleGroup : FileGroup :=
  { key := "role.go", file := "role.proto", name := "role"
    composites := [], enums := memberModel.enums, services := [] }

private theorem haveOwnTypes_memberGroups : HaveOwnTypes [memberGroup, roleGroup] := by
  have ofMember : groupTypeNames memberGroup = .ok (["Member", "Member"].map .text) := rfl
  have ofRole : groupTypeNames roleGroup = .ok (["Role", "Role"].map .text) := rfl
  constructor
  · intro group member other among name first second
    rcases List.mem_pair.mp member with rfl | rfl
    · rcases List.mem_pair.mp among with rfl | rfl
      · rfl
      · have isMember := (FileGroup.registers_iff ofMember).mp first
        have isRole := (FileGroup.registers_iff ofRole).mp second
        simp_all
    · rcases List.mem_pair.mp among with rfl | rfl
      · have isRole := (FileGroup.registers_iff ofRole).mp first
        have isMember := (FileGroup.registers_iff ofMember).mp second
        simp_all
      · rfl
  · have ownNames : ∀ entry ∈ wellKnownImports, entry.1 ∉ ["Member", "Member"] ∧
        entry.1 ∉ ["Role", "Role"] := by
      decide
    intro group member entry known
    rcases List.mem_pair.mp member with rfl | rfl
    · exact Bool.eq_false_iff.mpr fun noted =>
        (ownNames entry known).1 ((FileGroup.registers_iff ofMember).mp noted)
    · exact Bool.eq_false_iff.mpr fun noted =>
        (ownNames entry known).2 ((FileGroup.registers_iff ofRole).mp noted)
  · intro group member
    rcases List.mem_pair.mp member with rfl | rfl <;> decide

private theorem isTyped_memberModel : memberModel.wholeUnit.IsTyped := by
  have composites : ∀ composite ∈ memberModel.composites, composite.IsTyped := by
    intro composite member
    rw [List.mem_singleton.mp member]
    refine ⟨Value.isText_text _, rfl, ?_, List.forall_mem_nil _⟩
    intro field declared
    rcases List.mem_pair.mp declared with rfl | rfl <;>
      exact ⟨Value.isText_text _, Value.isText_text _, rfl⟩
  refine ⟨⟨composites, List.forall_mem_nil _⟩, composites, ?_, List.forall_mem_nil _⟩
  intro enum member
  rw [List.mem_singleton.mp member]
  refine ⟨Value.isText_text _, rfl, ?_⟩
  intro value declared
  rw [List.mem_singleton.mp declared]
  exact ⟨Value.isText_text _, ⟨0, rfl⟩, rfl⟩

/-- The file with the type imports what the options list, the file of the well-known type and the
file of the enumeration. -/
theorem imports_exact_memberModel :
    ∃ typeFiles plans services paths,
      partition memberOptions memberModel = .ok [memberGroup, roleGroup] ∧
      knownTypeFiles memberOptions [memberGroup, roleGroup] = .ok typeFiles ∧
      HaveOwnTypes [memberGroup, roleGroup] ∧
      HasImports (.of memberModel memberOptions)
        (unitOf memberOptions memberModel typeFiles memberGroup) plans services paths ∧
      "base.proto" ∈ paths ∧ "google/protobuf/timestamp.proto" ∈ paths ∧ "role.proto" ∈ paths := by
  have divided : partition memberOptions memberModel = .ok [memberGroup, roleGroup] := by cbv
  have pathless : ProtoText.HasNoKnownImports (TypeTable.ofOptions memberOptions memberModel) :=
    ⟨[], rfl, List.forall_mem_nil _⟩
  have types : (do
      let plans ← (SchemaContext.of memberModel memberOptions).messagePlans memberModel.composites
      return (ProtoText.references plans []).map (·.type)) =
      (.ok [.text "Role", .text "google.protobuf.Timestamp"] : Asked (List Value)) := by
    cbv
  rcases imports_exact memberOptions memberModel [memberGroup, roleGroup] ["base.proto"] rfl divided
    haveOwnTypes_memberGroups pathless rfl (by decide +kernel) isTyped_memberModel
    (Options.isTyped_of_empty rfl rfl) with ⟨typeFiles, known, each⟩
  rcases each memberGroup List.mem_cons_self with ⟨plans, services, paths, imported, exact, -⟩
  refine ⟨typeFiles, plans, services, paths, divided, known, haveOwnTypes_memberGroups, imported,
    (exact _).mpr (.inl List.mem_cons_self), ?_⟩
  have planned := imported.planned
  rw [unitOf_eq_groupUnit rfl] at planned
  change (SchemaContext.of memberModel memberOptions).messagePlans memberModel.composites =
    .ok plans at planned
  rw [planned, ok_bind, pure_eq_ok, Except.ok.injEq] at types
  have refers : ∀ type ∈ [Value.text "Role", .text "google.protobuf.Timestamp"],
      ProtoText.Refers plans services type := by
    rw [← types]
    intro type member
    rcases List.mem_map.mp member with ⟨reference, among, rfl⟩
    exact ProtoText.refers_iff.mpr ⟨reference, ProtoText.references_subset (List.Subset.refl plans)
      (List.nil_subset services) among, rfl⟩
  have ofRole : roleGroup.registers "Role" = true := by decide +kernel
  constructor
  · refine (exact _).mpr (.inr (.inr ⟨_, refers _ (List.mem_cons_of_mem _ List.mem_cons_self), ?_⟩))
    exact .inl (by decide)
  · refine (exact _).mpr (.inr (.inr ⟨_, refers _ List.mem_cons_self, .inr ?_⟩))
    exact ⟨roleGroup, List.mem_cons_of_mem _ List.mem_cons_self,
      fun same => absurd (congrArg FileGroup.key same) (by decide), ofRole, rfl⟩

/-- A type of a file that is named like the import of a well-known type. -/
def clockModel : Model :=
  { composites :=
      [{ name := .text "Clock", sourceFile := .text "timestamp.go"
         fields := [{ name := .text "At", type := .named "Time" "time" }] }] }

def clockOptions : Options :=
  { strategy := .read .follow
    outputFileName := .text ("google/protobuf/" ++ namePlace ++ ".proto") }

def clockGroup : FileGroup :=
  { key := "timestamp.go", file := "google/protobuf/timestamp.proto", name := "timestamp"
    composites := clockModel.composites, enums := [], services := [] }

/-- The file imports itself, though neither options nor annotations ask for any import and no two
groups share a type. -/
theorem imports_own_file_clockModel :
    clockOptions.isMultiFile = true ∧ partition clockOptions clockModel = .ok [clockGroup] ∧
      HaveOwnTypes [clockGroup] ∧
      ProtoText.HasNoKnownImports (TypeTable.ofOptions clockOptions clockModel) ∧
      clockOptions.customImports = some (.list []) ∧ clockModel.levelAnnotations = [] ∧
      ∃ typeFiles plans services,
        knownTypeFiles clockOptions [clockGroup] = .ok typeFiles ∧
        HasImports (.of clockModel clockOptions)
          (unitOf clockOptions clockModel typeFiles clockGroup) plans services
            [clockGroup.file] := by
  have names : groupTypeNames clockGroup = .ok (["Clock", "Clock"].map .text) := rfl
  have foreign : ∀ entry ∈ wellKnownImports, entry.1 ∉ ["Clock", "Clock"] := by decide
  have found : typeFiles [clockGroup] = .ok [(.text "Clock", clockGroup.file)] := by cbv
  refine ⟨rfl, by cbv, ⟨?_, ?_, ?_⟩, ⟨[], rfl, List.forall_mem_nil _⟩, rfl, by cbv,
    [(.text "Clock", clockGroup.file)], ?_⟩
  · intro group member other among name _ _
    rw [List.mem_singleton.mp member, List.mem_singleton.mp among]
  · intro group member entry known
    rw [List.mem_singleton.mp member]
    exact Bool.eq_false_iff.mpr fun noted => foreign entry known
      ((FileGroup.registers_iff names).mp noted)
  · intro group member
    rw [List.mem_singleton.mp member]
    decide
  · have written : ProtoText.writtenServices (.of clockModel clockOptions) (unitOf clockOptions
        clockModel [(.text "Clock", clockGroup.file)] clockGroup) = .ok [] := by cbv
    have computed : (do
        let plans ← (SchemaContext.of clockModel clockOptions).messagePlans clockModel.composites
        ProtoText.imports (.of clockModel clockOptions) (unitOf clockOptions clockModel
          [(.text "Clock", clockGroup.file)] clockGroup) plans []) =
        (.ok [.text clockGroup.file] : Asked (List Value)) := by
      cbv
    rcases bind_eq_ok_iff.mp computed with ⟨plans, planned, imported⟩
    exact ⟨plans, [], found, planned, written, imported, List.pairwise_singleton _ _⟩

end WireSchema.FilePlan
