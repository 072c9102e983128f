import Mathlib.Data.Nat.Digits.Defs
import WireSchema.Proofs.Stub.Data
import WireSchema.Proofs.Stub.Modules

namespace WireSchema

/-!
# The package of stubs is closed

Every conversion that a module of the package calls is defined in its module of types, every module
of the package that is imported is there, and the module of the empty message is imported wherever
that message is used.  A module is imported under a name that is not empty, as long as the options
that are written into imports are single lines.  An option of several lines brings what looks like a
definition into a module without any, which is then not left out.
-/

open Asked

/-! ## Printed values -/

theorem Decimal.placePoint_ne_nil (digits : List Char) (place : Int) :
    placePoint digits place ≠ [] := by
  unfold placePoint
  split
  · simp
  split
  · simp
  split <;> simp

theorem Decimal.Binary64.text_ne_empty (number : Binary64) : number.text ≠ "" := by
  cases number with
  | nan => decide
  | infinite negative => cases negative <;> decide
  | finite negative significand exponent =>
      by_cases zero : significand = 0
      · simp [text, textWith, zero]
      · simp [text, textWith, zero, placePoint_ne_nil]

/-- What counts as given is not printed as nothing. -/
theorem Value.display_ne_empty {value : Value} (given : value.isTruthy = true) :
    value.display ≠ "" := by
  cases value with
  | null => cases given
  | bool answer => cases answer <;> decide
  | int number =>
      cases number with
      | ofNat n => exact Nat.repr_ne_empty
      | negSucc n =>
          intro empty
          exact absurd (String.append_eq_empty_iff.mp empty).1 (by decide)
  | float number => exact number.text_ne_empty
  | date day => simp [display, dateText]
  | text content => exact bne_iff_ne.mp given
  | list items =>
      change "[" ++ _ ++ "]" ≠ ""
      simp
  | map members =>
      change "\x7b" ++ _ ++ "\x7d" ≠ ""
      simp

namespace Stub

/-! ## What is said of a package -/

/-- Files are the package of modules: none without modules, and the file of the package itself
before those of the modules otherwise. -/
inductive IsPackage (stubs : StubOptions) (templates : TemplateOptions) :
    List PackageModule → List FilePlan.GeneratedFile → Prop where
  | none : IsPackage stubs templates [] []
  | some {first : FilePlan.GeneratedFile} {modules : List PackageModule}
      {files : List FilePlan.GeneratedFile} (given : modules ≠ [])
      (own : packageFile stubs "__init__.py" packageText (.text "") = .ok first)
      (each : List.Forall₂ (PackageModule.IsFile stubs templates) modules files) :
      IsPackage stubs templates modules (first :: files)

/-- Whatever the modules of a package refer to is there: conversions are defined
in the module of types, sibling modules are written, and the empty message is
imported where it is used. -/
structure IsClosed (modules : List PackageModule) : Prop where
  calls : ∀ made ∈ modules, ∀ parts, .code parts ∈ made.lines → ∀ conversion,
    .call conversion ∈ parts → ∃ types ∈ modules, types.module = .types ∧
      ∃ parameters result, .define conversion parameters result ∈ types.lines
  siblings : ∀ made ∈ modules, ∀ sibling shortName,
    .load (.sibling sibling shortName) ∈ made.lines → ∃ other ∈ modules, other.module = sibling
  emptyMessages : ∀ made ∈ modules, ∀ parts, .code parts ∈ made.lines → .emptyMessage ∈ parts →
    .load .emptyMessages ∈ made.lines

/-- No module of a package imports a module without a name. -/
def HasPaths (modules : List PackageModule) : Prop :=
  ∀ made ∈ modules, ∀ path shortName, .load (.configured path shortName) ∈ made.lines → path ≠ ""

/-- The modules of stubs are made from the tool's own templates under their own
names.  A template from a directory can hold any text, of which nothing can be
promised. -/
structure UsesOwnTemplates (workspace : Workspace) (stubs : StubOptions)
    (templates : TemplateOptions) : Prop where
  content : stubs.templates.content = .ok templates
  named : NamesOwn templates
  notReplaced : ∀ store, TemplateStore.ofOptions workspace stubs.templates = .ok store →
    ∀ module, store.fileContent? workspace [Template.moduleFile module] = none

/-- The options that are written into imports are single lines.  A line end
inside one would make a further line, which counts as content even in a module
without any. -/
structure ImportsSingleLines (stubs : StubOptions) : Prop where
  modulePath : Text.IsSingleLine stubs.modulePath.display
  protobufPackage : Text.IsSingleLine stubs.protobufPackage.display
  protobufAlias : Text.IsSingleLine stubs.protobufAlias.display
  grpcPackage : Text.IsSingleLine stubs.grpcPackage.display
  grpcAlias : Text.IsSingleLine stubs.grpcAlias.display

/-! ## Modules that are written -/

section Modules

variable {stubs : StubOptions} {data : StubData} {modules : List PackageModule} {lines : List Line}

theorem PackageModule.isWritten_iff {made : PackageModule} :
    made.isWritten = true ↔ ∃ line ∈ made.lines, line.isIdle = false := by
  rw [isWritten, isEffectivelyEmpty_moduleText]
  simp

theorem mem_writtenModules {module : StubModule} (other : module ≠ .registration) :
    module ∈ writtenModules stubs := by
  refine List.mem_filter.mpr ⟨by cases module <;> decide, ?_⟩
  simp [other]

/-- A module of a package has the lines that are made of the data, and one of them defines
something. -/
theorem lines_of_mem_modulesOf {made : PackageModule} (found : modulesOf stubs data = .ok modules)
    (member : made ∈ modules) :
    made.module.lines data = .ok made.lines ∧ ∃ line ∈ made.lines, line.isIdle = false := by
  rcases bind_eq_ok_iff.mp found with ⟨all, each, final⟩
  cases final
  rcases List.mem_filter.mp member with ⟨among, written⟩
  rcases exists_of_mem_mapM each among with ⟨module, -, asModule⟩
  rcases bind_eq_ok_iff.mp asModule with ⟨lines, ofData, final⟩
  cases final
  exact ⟨ofData, PackageModule.isWritten_iff.mp written⟩

/-- A module is in the package as soon as one of its lines defines something. -/
theorem exists_mem_modulesOf {module : StubModule} (found : modulesOf stubs data = .ok modules)
    (member : module ∈ writtenModules stubs) :
    ∃ lines, module.lines data = .ok lines ∧
      ((∃ line ∈ lines, line.isIdle = false) → ⟨module, lines⟩ ∈ modules) := by
  rcases bind_eq_ok_iff.mp found with ⟨all, each, final⟩
  cases final
  rcases exists_mem_of_mapM each member with ⟨made, among, asModule⟩
  rcases bind_eq_ok_iff.mp asModule with ⟨lines, ofData, final⟩
  cases final
  refine ⟨lines, ofData, fun given => List.mem_filter.mpr ⟨among, ?_⟩⟩
  exact PackageModule.isWritten_iff.mpr given

/-- What the data defines is defined by a module of types that is in the package. -/
theorem exists_types_of_defines {conversion : Conversion}
    (found : modulesOf stubs data = .ok modules) (defined : data.Defines conversion) :
    ∃ types ∈ modules, types.module = .types ∧
      ∃ parameters result, .define conversion parameters result ∈ types.lines := by
  have wanted : StubModule.types ∈ writtenModules stubs := mem_writtenModules (by decide)
  rcases exists_mem_modulesOf found wanted with ⟨lines, ofData, present⟩
  have declared : .inr conversion ∈ declarationsOf lines :=
    (TypesModule.mem_declarationsOf_lines_iff ofData _).mpr (Or.inr ⟨conversion, rfl, defined⟩)
  rcases inr_mem_declarationsOf_iff.mp declared with ⟨parameters, result, member⟩
  have given : ∃ line ∈ lines, line.isIdle = false :=
    ⟨_, member, Line.isIdle_define conversion parameters result⟩
  exact ⟨⟨.types, lines⟩, present given, rfl, parameters, result, member⟩

/-! ## The modules of services -/

/-- Lines of a module with a part for every service.  Without services only its
head and its imports are left, by which the module counts as empty and is not
written. -/
structure IsServiceModule (data : StubData) (lines : List Line) : Prop where
  declarations : declarationsOf lines = declarationsOf (headLines data ++ serviceImportLines data)
  provides : data.IsBacked → ∀ part ∈ referencesOf lines, data.Provides part
  imports : headLines data ++ serviceImportLines data ⊆ lines
  silent : data.services = [] → lines = headLines data ++ serviceImportLines data
  written : data.services ≠ [] → ∃ line ∈ lines, line.isIdle = false

/-- A line that begins the class of a service defines something. -/
theorem isIdle_class (rest : String) : (Line.plain ("class " ++ rest)).isIdle = false := by
  have print : (Line.plain ("class " ++ rest)).print = "class " ++ rest := by
    simp [Line.plain, Line.print, Part.print]
  exact Line.isIdle_eq_false print (by decide) rfl (by decide) (by decide)

theorem exists_class {serviceLines : ServiceInfo → List Line} {before : List Line}
    (begins : ∀ service, ∃ rest, .plain ("class " ++ rest) ∈ serviceLines service)
    (given : data.services ≠ []) :
    ∃ line ∈ before ++ data.services.flatMap serviceLines, line.isIdle = false := by
  rcases List.exists_mem_of_ne_nil _ given with ⟨service, member⟩
  rcases begins service with ⟨rest, own⟩
  refine ⟨_, List.mem_append_right _ (List.mem_flatMap.mpr ⟨service, member, own⟩), ?_⟩
  exact isIdle_class rest

theorem AdapterModule.isServiceModule : IsServiceModule data (AdapterModule.lines data) where
  declarations := AdapterModule.declarationsOf_lines
  provides := fun backed _ => AdapterModule.provides_of_mem_lines backed
  imports := List.subset_append_left _ _
  silent := by
    intro none
    simp [AdapterModule.lines, none]
  written := by
    refine exists_class fun service => ⟨service.name.display ++ ("Adapter(" ++
      (data.grpcAlias.display ++ "." ++ service.name.display ++ "Servicer" ++ "):")), ?_⟩
    simp [serviceLines, definition, String.append_assoc]

theorem ClientModule.isServiceModule : IsServiceModule data (ClientModule.lines data) where
  declarations := ClientModule.declarationsOf_lines
  provides := fun backed _ => ClientModule.provides_of_mem_lines backed
  imports := List.subset_append_left _ _
  silent := by
    intro none
    simp [ClientModule.lines, none]
  written := by
    refine exists_class fun service => ⟨service.name.display ++ "Client:", ?_⟩
    simp [serviceLines, definition, String.append_assoc]

theorem isServiceModule_of_lines {module : StubModule} (ofData : module.lines data = .ok lines)
    (kind : module = .adapter ∨ module = .client) : IsServiceModule data lines := by
  rcases kind with rfl | rfl
  · cases ofData
    exact AdapterModule.isServiceModule
  · cases ofData
    exact ClientModule.isServiceModule

/-! ## What modules import -/

theorem mem_declarationsOf_headLines_iff {declared : Import ⊕ Conversion} :
    declared ∈ declarationsOf (headLines data) ↔ declared = .inl .annotations := by
  unfold headLines
  split <;> simp

theorem mem_declarationsOf_importLines_iff {declared : Import ⊕ Conversion} :
    declared ∈ declarationsOf (TypesModule.importLines data) ↔
      declared = .inl .annotations ∨
      declared = .inl (.configured data.modulePath.display "domain") ∨
      declared = .inl
        (.configured data.protobufPackage.display data.protobufAlias.display) := by
  simp [TypesModule.importLines, mem_declarationsOf_headLines_iff]

theorem mem_declarationsOf_serviceImportLines_iff {declared : Import ⊕ Conversion} :
    declared ∈ declarationsOf (serviceImportLines data) ↔
      (declared = .inl .emptyMessages ∧ data.usesEmpty = true) ∨
      declared = .inl (.configured data.grpcPackage.display data.grpcAlias.display) ∨
      (declared = .inl (.sibling .types "convert") ∧ ¬ (data.types = [] ∧ data.enums = [])) := by
  unfold serviceImportLines serviceImport
  by_cases uses : data.usesEmpty = true <;> by_cases none : data.types = [] ∧ data.enums = [] <;>
    simp [uses, none]

/-! ## Modules of the package -/

theorem TypesModule.exists_defines (written : TypesModule.lines data = .ok lines)
    (given : ¬ (data.types = [] ∧ data.enums = [])) : ∃ conversion, data.Defines conversion := by
  rcases bind_eq_ok_iff.mp written with ⟨enums, ofEnums, rest⟩
  rcases bind_eq_ok_iff.mp rest with ⟨types, ofTypes, -⟩
  by_cases none : data.types = []
  · rcases List.exists_mem_of_ne_nil _ fun empty => given ⟨none, empty⟩ with ⟨enum, member⟩
    rcases exists_mem_of_mapM ofEnums member with ⟨part, -, found⟩
    rcases bind_eq_ok_iff.mp found with ⟨snake, named, -⟩
    exact ⟨.toSchema snake, .ofEnum enum snake member named List.mem_cons_self⟩
  · rcases List.exists_mem_of_ne_nil _ none with ⟨type, member⟩
    rcases exists_mem_of_mapM ofTypes member with ⟨part, -, found⟩
    rcases bind_eq_ok_iff.mp found with ⟨snake, named, found⟩
    rcases bind_eq_ok_iff.mp found with ⟨pointer, pointed, -⟩
    exact ⟨.zeroTest snake,
      .ofMessage type snake pointer member named pointed List.mem_cons_self⟩

theorem exists_types (found : modulesOf stubs data = .ok modules)
    (given : ¬ (data.types = [] ∧ data.enums = [])) : ∃ types ∈ modules, types.module = .types := by
  have wanted : StubModule.types ∈ writtenModules stubs := mem_writtenModules (by decide)
  rcases exists_mem_modulesOf found wanted with ⟨lines, ofData, -⟩
  rcases TypesModule.exists_defines ofData given with ⟨conversion, defined⟩
  rcases exists_types_of_defines found defined with ⟨types, member, kind, -⟩
  exact ⟨types, member, kind⟩

/-- The lines that register services define nothing that adapters do not. -/
theorem exists_line_of_registration (ofData : RegistrationModule.lines data = .ok lines)
    (given : ∃ line ∈ lines, line.isIdle = false) :
    ∃ line ∈ AdapterModule.lines data, line.isIdle = false := by
  by_cases none : data.services = []
  · rcases bind_eq_ok_iff.mp ofData with ⟨entries, each, final⟩
    rw [none, List.mapM_nil] at each
    cases each
    cases final
    rcases given with ⟨line, member, active⟩
    refine ⟨line, AdapterModule.isServiceModule.imports ?_, active⟩
    simp only [List.flatMap_nil, RegistrationModule.allLines, List.append_nil, List.mem_append,
      List.mem_cons, List.not_mem_nil, or_false] at member
    rcases member with head | rfl | rfl | rfl | rfl
    · exact List.mem_append_left _ head
    · rw [Line.isIdle_blank] at active
      cases active
    · exact List.mem_append_right _ (by simp [serviceImportLines])
    · rw [Line.isIdle_blank] at active
      cases active
    · rw [Line.isIdle_load_sibling_adapter] at active
      cases active
  · exact AdapterModule.isServiceModule.written none

/-- An import of a module of services, by what imports it. -/
theorem IsServiceModule.mem_declarationsOf_iff (service : IsServiceModule data lines)
    {declared : Import ⊕ Conversion} :
    declared ∈ declarationsOf lines ↔
      declared = .inl .annotations ∨ (declared = .inl .emptyMessages ∧ data.usesEmpty = true) ∨
      declared = .inl (.configured data.grpcPackage.display data.grpcAlias.display) ∨
      (declared = .inl (.sibling .types "convert") ∧ ¬ (data.types = [] ∧ data.enums = [])) := by
  rw [service.declarations, declarationsOf_append, List.mem_append,
    mem_declarationsOf_headLines_iff, mem_declarationsOf_serviceImportLines_iff]

theorem BridgeModule.mem_declarationsOf_iff {declared : Import ⊕ Conversion} :
    declared ∈ declarationsOf (BridgeModule.lines data) ↔ declared = .inl .annotations := by
  rw [BridgeModule.declarationsOf_lines, mem_declarationsOf_headLines_iff]

theorem RegistrationModule.mem_declarationsOf_iff
    (ofData : RegistrationModule.lines data = .ok lines)
    {declared : Import ⊕ Conversion} :
    declared ∈ declarationsOf lines ↔
      declared = .inl .annotations ∨
      declared = .inl (.configured data.grpcPackage.display data.grpcAlias.display) ∨
      declared = .inl (.sibling .adapter "adapters") := by
  rw [RegistrationModule.declarationsOf_lines ofData, declarationsOf_append, List.mem_append,
    mem_declarationsOf_headLines_iff]
  simp [serviceImport]

/-- Every module of the package that is imported is there. -/
theorem exists_sibling (found : modulesOf stubs data = .ok modules) {made : PackageModule}
    (member : made ∈ modules) {sibling : StubModule} {shortName : String}
    (loads : .load (.sibling sibling shortName) ∈ made.lines) :
    ∃ other ∈ modules, other.module = sibling := by
  rcases lines_of_mem_modulesOf found member with ⟨ofData, given⟩
  have declared := inl_mem_declarationsOf_iff.mpr loads
  have ofService (service : IsServiceModule data made.lines) :
      ∃ other ∈ modules, other.module = sibling := by
    have parts : (sibling = .types ∧ shortName = "convert") ∧
        ¬ (data.types = [] ∧ data.enums = []) := by
      simpa using service.mem_declarationsOf_iff.mp declared
    rw [parts.1.1]
    exact exists_types found parts.2
  cases kind : made.module with
  | types =>
      rw [kind] at ofData
      have impossible := (TypesModule.mem_declarationsOf_lines_iff ofData _).mp declared
      rw [mem_declarationsOf_importLines_iff] at impossible
      simp at impossible
  | adapter => exact ofService (isServiceModule_of_lines ofData (Or.inl kind))
  | client => exact ofService (isServiceModule_of_lines ofData (Or.inr kind))
  | bridge =>
      rw [kind] at ofData
      rw [← Except.ok.inj ofData] at declared
      cases BridgeModule.mem_declarationsOf_iff.mp declared
  | registration =>
      rw [kind] at ofData
      have parts : sibling = .adapter ∧ shortName = "adapters" := by
        simpa using (RegistrationModule.mem_declarationsOf_iff ofData).mp declared
      rw [parts.1]
      have wanted : StubModule.adapter ∈ writtenModules stubs := mem_writtenModules (by decide)
      rcases exists_mem_modulesOf found wanted with ⟨adapter, adapterOfData, present⟩
      have active := exists_line_of_registration ofData given
      rw [Except.ok.inj adapterOfData] at active
      exact ⟨_, present active, rfl⟩

/-- What a module of the package refers to is provided by its data, and the module of the empty
message is imported where that message is used. -/
theorem provides_of_mem_modules (backed : data.IsBacked)
    (found : modulesOf stubs data = .ok modules)
    {made : PackageModule} (member : made ∈ modules) {part : Part}
    (inside : part ∈ referencesOf made.lines) :
    data.HasCall part ∨ (part = .emptyMessage ∧ .load .emptyMessages ∈ made.lines) := by
  rcases lines_of_mem_modulesOf found member with ⟨ofData, -⟩
  have ofService (service : IsServiceModule data made.lines) :
      data.HasCall part ∨ (part = .emptyMessage ∧ .load .emptyMessages ∈ made.lines) := by
    refine (service.provides backed part inside).imp_right fun ⟨empty, uses⟩ => ⟨empty, ?_⟩
    exact inl_mem_declarationsOf_iff.mp (service.mem_declarationsOf_iff.mpr (by simp [uses]))
  cases kind : made.module with
  | types =>
      rw [kind] at ofData
      exact Or.inl (TypesModule.hasCall_of_mem_lines backed ofData inside)
  | adapter => exact ofService (isServiceModule_of_lines ofData (Or.inl kind))
  | client => exact ofService (isServiceModule_of_lines ofData (Or.inr kind))
  | bridge =>
      rw [kind] at ofData
      rw [← Except.ok.inj ofData, BridgeModule.referencesOf_lines] at inside
      cases inside
  | registration =>
      rw [kind] at ofData
      rw [RegistrationModule.referencesOf_lines ofData] at inside
      cases inside

theorem isClosed_of_modulesOf (backed : data.IsBacked)
    (found : modulesOf stubs data = .ok modules) :
    IsClosed modules where
  calls := by
    intro made member parts line conversion own
    rcases provides_of_mem_modules backed found member
      (mem_referencesOf_of_mem line own rfl) with ⟨other, same, defined⟩ | ⟨empty, -⟩
    · cases same
      exact exists_types_of_defines found defined
    · cases empty
  siblings := fun made member sibling shortName => exists_sibling found member
  emptyMessages := by
    intro made member parts line own
    rcases provides_of_mem_modules backed found member
      (mem_referencesOf_of_mem line own rfl) with ⟨other, same, -⟩ | ⟨-, loads⟩
    · cases same
    · exact loads

/-! ## Names of imported modules -/

theorem requireOption_eq_ok_iff {value : Value} {option purpose : String} :
    requireOption value option purpose = .ok () ↔ value.isTruthy = true := by
  unfold requireOption
  split <;> simp_all

/-- What is imported is configured as soon as there is anything to convert or to serve. -/
theorem given_of_checkImports (checked : checkImports data = .ok ()) :
    (¬ (data.types = [] ∧ data.enums = []) →
        data.modulePath.isTruthy = true ∧ data.protobufPackage.isTruthy = true) ∧
      (data.services ≠ [] → data.grpcPackage.isTruthy = true) := by
  unfold checkImports at checked
  cases none : !(data.types.isEmpty && data.enums.isEmpty) with
  | false =>
      rw [none, if_neg (by decide)] at checked
      have empty : data.types = [] ∧ data.enums = [] := by simpa using none
      refine ⟨fun given => absurd empty given, fun given => ?_⟩
      rw [if_pos (by simpa using given)] at checked
      exact requireOption_eq_ok_iff.mp checked
  | true =>
      rw [none, if_pos rfl] at checked
      rcases bind_eq_ok_iff.mp checked with ⟨_, path, checked⟩
      rcases bind_eq_ok_iff.mp checked with ⟨_, package, checked⟩
      refine ⟨fun _ => ⟨requireOption_eq_ok_iff.mp path, requireOption_eq_ok_iff.mp package⟩,
        fun given => ?_⟩
      rw [if_pos (by simpa using given)] at checked
      exact requireOption_eq_ok_iff.mp checked

/-- The options that stub data writes into imports are single lines.  A second
line would be code of its own, and a module of it would be kept or dropped for
what it says. -/
structure StubData.ImportsSingleLines (data : StubData) : Prop where
  commandLine : Text.IsSingleLine data.commandLine
  modulePath : Text.IsSingleLine data.modulePath.display
  protobufPackage : Text.IsSingleLine data.protobufPackage.display
  protobufAlias : Text.IsSingleLine data.protobufAlias.display
  grpcPackage : Text.IsSingleLine data.grpcPackage.display
  grpcAlias : Text.IsSingleLine data.grpcAlias.display

theorem StubData.ImportsSingleLines.isIdle_serviceImport (single : data.ImportsSingleLines) :
    (serviceImport data).isIdle = true :=
  Line.isIdle_load_configured single.grpcPackage single.grpcAlias

/-- The imports of the module of types define nothing. -/
theorem StubData.ImportsSingleLines.isIdle_of_mem_importLines (single : data.ImportsSingleLines)
    {line : Line} (member : line ∈ TypesModule.importLines data) : line.isIdle = true := by
  rcases List.mem_append.mp member with head | later
  · exact List.all_eq_true.mp (all_isIdle_headLines single.commandLine) line head
  · simp only [List.mem_cons, List.not_mem_nil, or_false] at later
    rcases later with rfl | rfl | rfl
    · exact Line.isIdle_blank
    · exact Line.isIdle_load_configured single.modulePath (by decide)
    · exact Line.isIdle_load_configured single.protobufPackage single.protobufAlias

/-- The imports of a module of services define nothing. -/
theorem StubData.ImportsSingleLines.isIdle_of_mem_serviceLines (single : data.ImportsSingleLines)
    {line : Line} (member : line ∈ headLines data ++ serviceImportLines data) :
    line.isIdle = true := by
  have imports : (serviceImportLines data).all Line.isIdle = true := by
    unfold serviceImportLines
    cases data.usesEmpty <;> cases data.types.isEmpty && data.enums.isEmpty <;>
      simp [Line.isIdle_load_emptyMessages, Line.isIdle_load_sibling_types,
        single.isIdle_serviceImport]
  rcases List.mem_append.mp member with head | later
  · exact List.all_eq_true.mp (all_isIdle_headLines single.commandLine) line head
  · exact List.all_eq_true.mp imports line later

/-- A module of types that defines something has a message or an enumeration to convert. -/
theorem given_of_types (single : data.ImportsSingleLines)
    (maps : data.types = [] → data.maps = []) (ofData : TypesModule.lines data = .ok lines)
    (given : ∃ line ∈ lines, line.isIdle = false) : ¬ (data.types = [] ∧ data.enums = []) := by
  rintro ⟨noTypes, noEnums⟩
  rw [TypesModule.lines, noTypes, noEnums, maps noTypes] at ofData
  cases ofData
  rcases given with ⟨line, member, active⟩
  rw [single.isIdle_of_mem_importLines (by simpa using member)] at active
  cases active

/-- A module of services that defines something has a service. -/
theorem given_of_service (single : data.ImportsSingleLines) (service : IsServiceModule data lines)
    (given : ∃ line ∈ lines, line.isIdle = false) : data.services ≠ [] := by
  intro none
  rcases given with ⟨line, member, active⟩
  rw [service.silent none] at member
  rw [single.isIdle_of_mem_serviceLines member] at active
  cases active

/-- Modules that define something are named by options that are given. -/
theorem hasPaths_of_modulesOf (single : data.ImportsSingleLines)
    (maps : data.types = [] → data.maps = []) (checked : checkImports data = .ok ())
    (found : modulesOf stubs data = .ok modules) : HasPaths modules := by
  intro made member path shortName loads
  rcases lines_of_mem_modulesOf found member with ⟨ofData, given⟩
  rcases given_of_checkImports checked with ⟨conversions, services⟩
  have declared := inl_mem_declarationsOf_iff.mpr loads
  have ofService (service : IsServiceModule data made.lines) : path ≠ "" := by
    have parts : path = data.grpcPackage.display ∧ shortName = data.grpcAlias.display := by
      simpa using service.mem_declarationsOf_iff.mp declared
    rw [parts.1]
    exact Value.display_ne_empty (services (given_of_service single service given))
  cases kind : made.module with
  | types =>
      rw [kind] at ofData
      have options := conversions (given_of_types single maps ofData given)
      have parts : (path = data.modulePath.display ∧ shortName = "domain") ∨
          (path = data.protobufPackage.display ∧ shortName = data.protobufAlias.display) := by
        have imports := (TypesModule.mem_declarationsOf_lines_iff ofData _).mp declared
        simpa [mem_declarationsOf_importLines_iff] using imports
      rcases parts with ⟨rfl, -⟩ | ⟨rfl, -⟩
      · exact Value.display_ne_empty options.1
      · exact Value.display_ne_empty options.2
  | adapter => exact ofService (isServiceModule_of_lines ofData (Or.inl kind))
  | client => exact ofService (isServiceModule_of_lines ofData (Or.inr kind))
  | bridge =>
      rw [kind] at ofData
      rw [← Except.ok.inj ofData] at declared
      cases BridgeModule.mem_declarationsOf_iff.mp declared
  | registration =>
      rw [kind] at ofData
      have parts : path = data.grpcPackage.display ∧ shortName = data.grpcAlias.display := by
        simpa using (RegistrationModule.mem_declarationsOf_iff ofData).mp declared
      rw [parts.1]
      have active := exists_line_of_registration ofData given
      exact Value.display_ne_empty
        (services (given_of_service single AdapterModule.isServiceModule active))

end Modules

/-! ## Runs -/

section Runs

variable {workspace : Workspace} {model : Model} {options : Options} {commandLine : String}
  {stubs : StubOptions} {templates : TemplateOptions} {files : List FilePlan.GeneratedFile}

/-- A store that was just opened finds the tool's own templates. -/
theorem UsesOwnTemplates.isOwn {store : TemplateStore}
    (own : UsesOwnTemplates workspace stubs templates)
    (opened : TemplateStore.ofOptions workspace stubs.templates = .ok store) :
    store.IsOwn workspace := by
  refine ⟨?_, own.notReplaced store opened⟩
  rcases bind_eq_ok_iff.mp opened with ⟨_, -, opened⟩
  rcases bind_eq_ok_iff.mp opened with ⟨_, -, opened⟩
  cases opened
  intro module found present
  cases present

/-- A package that is made holds the modules of the stub data of its model. -/
theorem exists_of_generate (config : options.stubs.content = .ok stubs)
    (own : UsesOwnTemplates workspace stubs templates)
    (made : generate workspace model options commandLine = .ok files) :
    ∃ data modules, StubData.of (.of model options) stubs commandLine = .ok data ∧
      checkImports data = .ok () ∧ modulesOf stubs data = .ok modules ∧
      IsPackage stubs templates modules files := by
  rcases bind_eq_ok_iff.mp made with ⟨source, sourced, made⟩
  rw [PackageSource.of, config, Failure.liftShape_ok, Failure.ok_bind] at sourced
  rcases bind_eq_ok_iff.mp sourced with ⟨store, opened, sourced⟩
  rcases bind_eq_ok_iff.mp sourced with ⟨data, ofModel, sourced⟩
  cases sourced
  rcases bind_eq_ok_iff.mp made with ⟨_, checked, made⟩
  rcases bind_eq_ok_iff.mp made with ⟨written, asFiles, made⟩
  rcases exists_of_moduleFiles (own.isOwn opened) own.content own.named asFiles with
    ⟨modules, found, each⟩
  refine ⟨data, modules, Failure.liftShape_eq_ok_iff.mp ofModel, checked, found, ?_⟩
  split at made
  · rename_i none
    cases made
    rw [List.isEmpty_iff.mp none] at each
    cases each
    exact .none
  · rename_i some
    rcases bind_eq_ok_iff.mp made with ⟨first, asFile, made⟩
    cases made
    refine .some ?_ asFile each
    rintro rfl
    cases each
    exact some rfl

/-- Whether the modules of stub data can be made: what they import is configured, and every name
that they derive is to be had. -/
def StubData.isReady (data : StubData) : Bool :=
  (checkImports data).toOption.isSome &&
    StubModule.all.all fun module => (module.lines data).toOption.isSome

/-- A package is made when the modules of the stub data of its model can be made and it has a
place. -/
theorem exists_generate {data : StubData} {store : TemplateStore} {directory : String}
    (config : options.stubs.content = .ok stubs) (own : UsesOwnTemplates workspace stubs templates)
    (opened : TemplateStore.ofOptions workspace stubs.templates = .ok store)
    (ofModel : StubData.of (.of model options) stubs commandLine = .ok data)
    (ready : data.isReady = true) (place : stubs.outputDirectory = .text directory) :
    ∃ files, generate workspace model options commandLine = .ok files := by
  rcases Bool.and_eq_true_iff.mp ready with ⟨configured, named⟩
  rcases exists_of_isSome_toOption configured with ⟨_, checked⟩
  have each : ∀ module ∈ writtenModules stubs, (StubModule.lines data module).Succeeds :=
    fun module member => exists_of_isSome_toOption
      (List.all_eq_true.mp named module (List.mem_of_mem_filter member))
  have start : (PackageState.mk store []).store.IsOwn workspace := own.isOwn opened
  rcases exists_foldlM_addModule start own.named place (writtenModules stubs) each with ⟨final, run⟩
  have source : PackageSource.of workspace model options commandLine =
      .ok { stubs, store, data } := by
    rw [PackageSource.of, config, Failure.liftShape_ok, Failure.ok_bind, opened, Failure.ok_bind]
    dsimp only
    rw [ofModel]
    rfl
  have written : moduleFiles workspace stubs store data = .ok final.files := by
    rw [moduleFiles, own.content, Failure.liftShape_ok, Failure.ok_bind, run]
    rfl
  rw [generate, source, Failure.ok_bind, packageFiles, checked, Failure.ok_bind, written,
    Failure.ok_bind]
  split
  · exact ⟨_, rfl⟩
  · rw [packageFile, place]
    exact ⟨_, rfl⟩

/-- The options that are written into imports are single lines when they are given so. -/
theorem ImportsSingleLines.ofData {context : SchemaContext} {data : StubData}
    {converted : ConvertedTypes} {types : List (List TypeInfo)} (single : ImportsSingleLines stubs)
    (command : Text.IsSingleLine commandLine)
    (made : data.IsMadeOf context stubs commandLine converted types) : data.ImportsSingleLines where
  commandLine := made.commandLine ▸ command
  modulePath := made.modulePath ▸ single.modulePath
  protobufPackage := made.protobufPackage ▸ single.protobufPackage
  protobufAlias := made.protobufAlias ▸ single.protobufAlias
  grpcPackage := made.grpcPackage ▸ single.grpcPackage
  grpcAlias := made.grpcAlias ▸ single.grpcAlias

/-- The tool's own templates are used when no directory of templates is configured. -/
theorem usesOwnTemplates_of_embedded (content : stubs.templates.content = .ok templates)
    (named : NamesOwn templates)
    (embedded : templates.source.alternative? TemplateSource.all TemplateSource.word ≠
      some .directory) : UsesOwnTemplates workspace stubs templates := by
  refine ⟨content, named, fun store opened module => ?_⟩
  rw [TemplateStore.ofOptions, content, Failure.liftShape_ok, Failure.ok_bind,
    TemplateStore.directoryOf, if_neg (by simpa using embedded)] at opened
  cases opened
  rfl

/-- The package that is made of a model is closed: what its modules call is defined in its module of
types, the modules that they import are there, and the empty message is imported where it is used.
When the options written into imports are single lines, no import lacks the name of its module. -/
theorem isClosed_of_generate (config : options.stubs.content = .ok stubs)
    (own : UsesOwnTemplates workspace stubs templates) (command : Text.IsSingleLine commandLine)
    (made : generate workspace model options commandLine = .ok files) :
    ∃ data modules, StubData.of (.of model options) stubs commandLine = .ok data ∧
      modulesOf stubs data = .ok modules ∧ IsPackage stubs templates modules files ∧
      IsClosed modules ∧ (ImportsSingleLines stubs → HasPaths modules) := by
  rcases exists_of_generate config own made with ⟨data, modules, ofModel, checked, found, package⟩
  rcases StubData.exists_isMadeOf ofModel with ⟨converted, types, origin⟩
  refine ⟨data, modules, ofModel, found, package, isClosed_of_modulesOf origin.isBacked found, ?_⟩
  intro single
  have maps : data.types = [] → data.maps = [] := by
    intro none
    rw [origin.types, List.map_eq_nil_iff] at none
    rw [origin.maps, none]
    rfl
  exact hasPaths_of_modulesOf (single.ofData command origin) maps checked found

/-- A model with two messages, an enumeration and a service. -/
def storeModel : Model :=
  { composites :=
      [{ name := .text "Item", fields := [{ name := .text "id", type := .named "int" "" }] },
       { name := .text "Order"
         fields :=
           [{ name := .text "first", type := .pointer (.named "Item" "") },
            { name := .text "items", type := .sequence (.named "Item" "") },
            { name := .text "by_name", type := .mapping (.named "str" "") (.named "Item" "") },
            { name := .text "color", type := .named "Color" "" }] }]
    enums := [{ name := .text "Color" }]
    services :=
      [{ name := .text "Store"
         annotations := [{ name := .text "service", params := [] }]
         methods :=
           [{ name := .text "watch"
              params := [{ name := .text "request", type := .named "Order" "" }] }] }] }

def storeStubs : StubOptions :=
  { modulePath := .text "store.domain", protobufPackage := .text "store.pb"
    grpcPackage := .text "store.pb_grpc" }

theorem namesOwn_default : NamesOwn {} := by
  intro module
  cases module <;> rfl

/-- The stub options of which only some settings are given use the tool's own templates. -/
theorem usesOwnTemplates_of_default (given : stubs.templates = .read {}) :
    UsesOwnTemplates workspace stubs {} :=
  usesOwnTemplates_of_embedded (by rw [given]; rfl) namesOwn_default (by decide)

theorem importsSingleLines_storeStubs : ImportsSingleLines storeStubs :=
  ⟨by decide, by decide, by decide, by decide, by decide⟩

/-- A package that is made under default options, once its stub data is ready. -/
theorem exists_generate_of_isReady (templates : stubs.templates = .read {})
    (place : stubs.outputDirectory = .text "generated/adapter")
    (ready : (StubData.of (.of model { stubs := .read stubs }) stubs commandLine).toOption.map
      StubData.isReady = some true) :
    ∃ files, generate workspace model { stubs := .read stubs } commandLine = .ok files := by
  rcases exists_of_toOption_map ready with ⟨data, ofModel, isReady⟩
  have opened : TemplateStore.ofOptions workspace stubs.templates = .ok ⟨none, []⟩ := by
    rw [templates]
    rfl
  exact exists_generate rfl (usesOwnTemplates_of_default templates) opened ofModel isReady place

theorem isClosed_of_generate_storeModel :
    ∃ files, generate ⟨"/", []⟩ storeModel { stubs := .read storeStubs } "gen" = .ok files ∧
      ∃ data modules,
        StubData.of (.of storeModel { stubs := .read storeStubs }) storeStubs "gen" = .ok data ∧
        modulesOf storeStubs data = .ok modules ∧ IsPackage storeStubs {} modules files ∧
        IsClosed modules ∧ HasPaths modules := by
  have own : UsesOwnTemplates ⟨"/", []⟩ storeStubs {} := usesOwnTemplates_of_default rfl
  have ready : (StubData.of (.of storeModel { stubs := .read storeStubs }) storeStubs
      "gen").toOption.map StubData.isReady = some true := by
    decide +kernel
  rcases exists_generate_of_isReady rfl rfl ready with ⟨files, made⟩
  rcases isClosed_of_generate rfl own (by decide) made with
    ⟨data, modules, ofModel, found, package, closed, named⟩
  exact ⟨files, made, data, modules, ofModel, found, package, closed,
    named importsSingleLines_storeStubs⟩

def twoLineStubs : StubOptions := { protobufAlias := .text "pb\nx" }

/-- An alias of two lines is enough for an import without the name of its module, though there is
nothing to convert and the command is a single line. -/
theorem not_hasPaths_twoLineStubs :
    UsesOwnTemplates ⟨"/", []⟩ twoLineStubs {} ∧ Text.IsSingleLine "" ∧
      ∃ files data modules,
        generate ⟨"/", []⟩ {} { stubs := .read twoLineStubs } "" = .ok files ∧
        StubData.of (.of {} { stubs := .read twoLineStubs }) twoLineStubs "" = .ok data ∧
        modulesOf twoLineStubs data = .ok modules ∧ IsPackage twoLineStubs {} modules files ∧
        ¬ HasPaths modules := by
  have own : UsesOwnTemplates ⟨"/", []⟩ twoLineStubs {} := usesOwnTemplates_of_default rfl
  have ready : (StubData.of (.of {} { stubs := .read twoLineStubs }) twoLineStubs
      "").toOption.map StubData.isReady = some true := by
    decide +kernel
  rcases exists_generate_of_isReady rfl rfl ready with ⟨files, made⟩
  rcases exists_of_generate rfl own made with ⟨data, modules, ofModel, -, found, package⟩
  refine ⟨own, by decide, files, data, modules, made, ofModel, found, package, fun named => ?_⟩
  rcases StubData.exists_isMadeOf ofModel with ⟨converted, types, origin⟩
  have wanted : StubModule.types ∈ writtenModules twoLineStubs := mem_writtenModules (by decide)
  rcases exists_mem_modulesOf found wanted with ⟨lines, ofData, present⟩
  have loads : ∀ path shortName, (path = data.modulePath.display ∧ shortName = "domain") ∨
      (path = data.protobufPackage.display ∧ shortName = data.protobufAlias.display) →
        .load (.configured path shortName) ∈ lines := by
    intro path shortName either
    refine inl_mem_declarationsOf_iff.mp
      ((TypesModule.mem_declarationsOf_lines_iff ofData _).mpr ?_)
    rw [mem_declarationsOf_importLines_iff]
    simpa using either
  have active : (Line.load (.configured "" "pb\nx")).isIdle = false := by decide +kernel
  rw [origin.modulePath, origin.protobufPackage, origin.protobufAlias] at loads
  have member := present ⟨_, loads _ _ (Or.inr ⟨rfl, rfl⟩), active⟩
  exact named _ member "" "domain" (loads _ _ (Or.inl ⟨rfl, rfl⟩)) rfl

end Runs

end Stub

end WireSchema
