import WireSchema.Proofs.Document.Asked
import WireSchema.Proofs.Failure
import WireSchema.Proofs.Text.LineEnds
import WireSchema.Stub.Files

namespace WireSchema

/-!
# The modules of a package

A package holds those modules of stub data that define something.  Whether a module does is decided
line by line, since each line of a module ends with a line feed; a line that is printed over several
lines counts by each of them.  As long as the templates that are found are the tool's own, the files
of a package are the modules of its stub data, in order and with the very lines that are made of it.
-/

open Asked

namespace Stub

/-! ## Lines that define nothing -/

/-- Whether a line of a module defines nothing, however many lines its text has.
A configured name with a line feed in it can make such a line define
something. -/
def Line.isIdle (line : Line) : Bool := isEffectivelyEmpty (line.print ++ "\n")

/-- A module is left out when each of its lines defines nothing. -/
theorem isEffectivelyEmpty_moduleText (lines : List Line) :
    isEffectivelyEmpty (moduleText lines) = lines.all Line.isIdle := by
  have pieces : moduleText lines = String.join ((lines.map Line.print).map (· ++ "\n")) := by
    rw [List.map_map]
    rfl
  rw [isEffectivelyEmpty, pieces, Text.linesOf_join, List.flatMap_map, List.all_flatMap]
  rfl

theorem Line.isIdle_of_single {line : Line} (single : Text.IsSingleLine line.print)
    (idle : isIdleLine line.print = true) : line.isIdle = true := by
  rw [isIdle, isEffectivelyEmpty, Text.linesOf_of_single single, List.all_cons, idle]
  rfl

/-- A line that begins with neither a blank nor a comment or an import defines something. -/
theorem Line.isIdle_eq_false {line : Line} {front rest : String} {c : Char} {inner : List Char}
    (begins : line.print = front ++ rest) (single : Text.IsSingleLine front)
    (first : front.toList = c :: inner) (dark : Text.isBlank c = false)
    (other : c ≠ '#' ∧ c ≠ 'i' ∧ c ≠ 'f') : line.isIdle = false := by
  rcases Text.exists_linesOf_append single rest with ⟨tail, others, read⟩
  have start : (front ++ tail).toList = c :: (inner ++ tail.toList) := by
    rw [String.toList_append, first, List.cons_append]
  rcases Text.exists_trim_eq_cons start dark with ⟨trimmed, same⟩
  have given : (Text.trim (front ++ tail) == "") = false := by
    rw [beq_eq_false_iff_ne]
    intro empty
    rw [empty] at same
    cases same
  have marks : ["#", "import ", "from "].any (Text.startsWith (Text.trim (front ++ tail))) =
      false := by
    simp only [List.any_cons, List.any_nil, Bool.or_false, Text.startsWith, same]
    simp [Text.afterLeading?, other.1.symm, other.2.1.symm, other.2.2.symm]
  rw [isIdle, isEffectivelyEmpty, begins, read, List.all_cons, isIdleLine, given, marks]
  rfl

theorem Line.isIdle_define (conversion : Conversion) (parameters result : String) :
    (Line.define conversion parameters result).isIdle = false := by
  have print : (Line.define conversion parameters result).print =
      "def " ++ conversion.name ++ "(" ++ parameters ++ ") -> " ++ result ++ ":" := rfl
  have begins : (Line.define conversion parameters result).print =
      "def " ++ (conversion.name ++ "(" ++ parameters ++ ") -> " ++ result ++ ":") := by
    rw [print]
    simp only [String.append_assoc]
  exact isIdle_eq_false begins (by decide) rfl (by decide) (by decide)

@[simp] theorem Line.isIdle_blank : Line.blank.isIdle = true := by decide

theorem Line.isIdle_load_emptyMessages : (Line.load .emptyMessages).isIdle = true := by
  decide +kernel

theorem Line.isIdle_load_sibling_types : (Line.load (.sibling .types "convert")).isIdle = true := by
  decide +kernel

theorem Line.isIdle_load_sibling_adapter :
    (Line.load (.sibling .adapter "adapters")).isIdle = true := by
  decide +kernel

/-- An import of a module that options name defines nothing, as long as both of its names are
single lines. -/
theorem Line.isIdle_load_configured {path shortName : String} (single : Text.IsSingleLine path)
    (other : Text.IsSingleLine shortName) :
    (Line.load (.configured path shortName)).isIdle = true := by
  have print : (Line.load (.configured path shortName)).print =
      "import " ++ path ++ " as " ++ shortName := rfl
  have first : Text.IsSingleLine "import " := by decide
  have between : Text.IsSingleLine " as " := by decide
  apply isIdle_of_single (print ▸ ((first.append single).append between).append other)
  have parts : (Line.load (.configured path shortName)).print.toList =
      ("import ".toList ++ (path.toList ++ [' ', 'a', 's'])) ++ ' ' :: shortName.toList := by
    simp [print, String.toList_append]
  have marked :
      Text.startsWith (Text.trim (Line.load (.configured path shortName)).print) "import " = true :=
    Text.startsWith_trim parts (by simp) rfl (by simp; rfl) (List.prefix_append _ _)
  simp [isIdleLine, marked]

theorem Line.isIdle_plain_command {content : String} (single : Text.IsSingleLine content) :
    (Line.plain ("# Command: " ++ content)).isIdle = true := by
  have print : (Line.plain ("# Command: " ++ content)).print = "# Command: " ++ content := by
    simp [plain, Line.print, Part.print]
  have first : Text.IsSingleLine "# Command: " := by decide
  apply isIdle_of_single (print ▸ first.append single)
  have parts : (Line.plain ("# Command: " ++ content)).print.toList =
      ['#'] ++ (" Command: " ++ content).toList := by
    simp [print, String.toList_append]
  have marked :
      Text.startsWith (Text.trim (Line.plain ("# Command: " ++ content)).print) "#" = true :=
    Text.startsWith_trim parts (by simp) rfl rfl (List.prefix_refl _)
  simp [isIdleLine, marked]

/-- The lines at the head of a module define nothing when the command is a single line. -/
theorem all_isIdle_headLines {data : StubData} (single : Text.IsSingleLine data.commandLine) :
    (headLines data).all Line.isIdle = true := by
  have comment : (Line.plain "# Code generated by proto_schema_gen. DO NOT EDIT.").isIdle =
      true := by
    decide +kernel
  have annotations : (Line.load .annotations).isIdle = true := by decide +kernel
  unfold headLines
  split <;> simp [comment, annotations, Line.isIdle_plain_command single]

/-! ## The tool's own templates -/

end Stub

namespace TemplateStore

open Template (moduleFile)

/-- What a store finds under the name of one of the tool's modules is that
module: nothing else has been kept under the name, and no directory has a file
for it. -/
structure IsOwn (store : TemplateStore) (workspace : Workspace) : Prop where
  kept : ∀ module found, lookupKey? (moduleFile module) store.kept = some found →
    found = .module module
  notReplaced : ∀ module, store.fileContent? workspace [moduleFile module] = none

theorem eq_of_moduleFile_eq {module other : Stub.StubModule}
    (same : moduleFile other = moduleFile module) : other = module := by
  cases module <;> cases other <;> first | rfl | exact absurd same (by decide)

theorem IsOwn.get {store : TemplateStore} {workspace : Workspace} (own : store.IsOwn workspace)
    (module : Stub.StubModule) :
    ∃ next : TemplateStore, store.get workspace (moduleFile module) = .ok (next, .module module) ∧
      next.IsOwn workspace := by
  have parts : Template.nameParts? (moduleFile module) = some [moduleFile module] := by
    cases module <;> decide
  have embedded : Template.embedded? [moduleFile module] = some (.module module) := by
    cases module <;> decide
  cases known : lookupKey? (moduleFile module) store.kept with
  | some found =>
      refine ⟨store, ?_, own⟩
      rw [TemplateStore.get, known, own.kept module found known]
  | none =>
      have found : store.find workspace (moduleFile module) = .ok (.module module) := by
        simp only [find, parts, own.notReplaced module, embedded]
      refine ⟨{ store with kept := store.kept ++ [(moduleFile module, .module module)] },
        ?_, ?_, ?_⟩
      · rw [TemplateStore.get, known, found, Failure.ok_bind]
        rfl
      · intro other template present
        rw [lookupKey?, List.find?_append, Option.map_or] at present
        rcases Option.or_eq_some_iff.mp present with early | ⟨-, last⟩
        · exact own.kept other template early
        · rcases Option.map_eq_some_iff.mp last with ⟨entry, first, rfl⟩
          have same : entry = (moduleFile module, .module module) :=
            List.mem_singleton.mp (List.mem_of_find?_eq_some first)
          have name : entry.1 = moduleFile other := by simpa using List.find?_some first
          rw [same] at name ⊢
          rw [eq_of_moduleFile_eq name]
      · exact own.notReplaced

end TemplateStore

namespace Stub

/-! ## Modules with their lines -/

structure PackageModule where
  module : StubModule
  lines : List Line
deriving DecidableEq, Repr

def packageModule (data : StubData) (module : StubModule) : Asked PackageModule := do
  return { module, lines := ← module.lines data }

/-- Whether a module defines something. -/
def PackageModule.isWritten (made : PackageModule) : Bool :=
  !isEffectivelyEmpty (moduleText made.lines)

def modulesOf (stubs : StubOptions) (data : StubData) : Asked (List PackageModule) := do
  return (← (writtenModules stubs).mapM (packageModule data)).filter (·.isWritten)

section Run

variable {workspace : Workspace} {stubs : StubOptions} {templates : TemplateOptions}
    {data : StubData}

def PackageModule.IsFile (stubs : StubOptions) (templates : TemplateOptions) (made : PackageModule)
    (file : FilePlan.GeneratedFile) : Prop :=
  packageFile stubs (moduleFileName made.module) (moduleText made.lines)
    (moduleTemplate templates made.module) = .ok file

/-- The modules are made from templates with the names of the tool's own ones.
Under other names the text of a module is that of somebody's template. -/
def NamesOwn (templates : TemplateOptions) : Prop :=
  ∀ module, moduleTemplate templates module = .text (Template.moduleFile module)

theorem render_module_eq_ok {name content : String} {module : StubModule}
    (rendered : (Template.module module).render name (.stubs data) = .ok content) :
    ∃ lines, module.lines data = .ok lines ∧ content = moduleText lines := by
  rcases bind_eq_ok_iff.mp (Failure.mapError_eq_ok_iff.mp rendered) with ⟨given, read, rest⟩
  rcases bind_eq_ok_iff.mp rest with ⟨lines, written, final⟩
  cases read
  cases final
  exact ⟨lines, Failure.mapError_eq_ok_iff.mp written, rfl⟩

/-- One module is made of its lines, and its file is added unless it defines nothing. -/
theorem exists_of_addModule {made next : PackageState} {module : StubModule}
    (own : made.store.IsOwn workspace) (named : NamesOwn templates)
    (added : addModule workspace stubs templates data made module = .ok next) :
    ∃ written : PackageModule, packageModule data module = .ok written ∧
      next.store.IsOwn workspace ∧ ∃ files, next.files = made.files ++ files ∧
        List.Forall₂ (PackageModule.IsFile stubs templates) ([written].filter (·.isWritten))
          files := by
  rw [addModule, named module] at added
  rcases own.get module with ⟨store, found, still⟩
  rw [TemplateStore.nameOf, Failure.ok_bind, found, Failure.ok_bind] at added
  rcases bind_eq_ok_iff.mp added with ⟨content, rendered, rest⟩
  rcases render_module_eq_ok rendered with ⟨lines, written, rfl⟩
  refine ⟨{ module, lines }, by rw [packageModule, written]; rfl, ?_⟩
  split at rest
  · rename_i empty
    cases rest
    refine ⟨still, [], (List.append_nil _).symm, ?_⟩
    rw [List.filter_cons_of_neg (by simp [PackageModule.isWritten, empty])]
    exact .nil
  · rename_i given
    rcases bind_eq_ok_iff.mp rest with ⟨file, asFile, final⟩
    cases final
    refine ⟨still, [file], rfl, ?_⟩
    rw [List.filter_cons_of_pos (by simp [PackageModule.isWritten, given])]
    refine .cons ?_ .nil
    rw [PackageModule.IsFile, named module]
    exact asFile

/-- The files of a run over modules are those of the modules that define something, in order. -/
theorem exists_of_foldlM_addModule {made final : PackageState} {modules : List StubModule}
    (own : made.store.IsOwn workspace) (named : NamesOwn templates)
    (run : modules.foldlM (addModule workspace stubs templates data) made = .ok final) :
    ∃ written files, modules.mapM (packageModule data) = .ok written ∧
      final.files = made.files ++ files ∧
        List.Forall₂ (PackageModule.IsFile stubs templates) (written.filter (·.isWritten))
          files := by
  induction modules generalizing made with
  | nil =>
      cases run
      exact ⟨[], [], rfl, (List.append_nil _).symm, .nil⟩
  | cons module modules ih =>
      rw [List.foldlM_cons] at run
      rcases bind_eq_ok_iff.mp run with ⟨next, added, rest⟩
      rcases exists_of_addModule own named added with ⟨first, asModule, still, files, grown, each⟩
      rcases ih still rest with ⟨others, further, asModules, more, eachOther⟩
      refine ⟨first :: others, files ++ further, ?_, ?_, ?_⟩
      · rw [List.mapM_cons, asModule, ok_bind, asModules, ok_bind]
        rfl
      · rw [more, grown, List.append_assoc]
      · rw [← List.singleton_append, List.filter_append]
        exact List.rel_append each eachOther

/-- A module is made when its lines can be made and the package has a place. -/
theorem exists_addModule {made : PackageState} {module : StubModule} {directory : String}
    (own : made.store.IsOwn workspace) (named : NamesOwn templates)
    (place : stubs.outputDirectory = .text directory) (written : (module.lines data).Succeeds) :
    ∃ next, addModule workspace stubs templates data made module = .ok next ∧
      next.store.IsOwn workspace := by
  rcases own.get module with ⟨store, found, still⟩
  rcases written with ⟨lines, written⟩
  have rendered : (Template.module module).render (Template.moduleFile module) (.stubs data) =
      .ok (moduleText lines) := by
    refine Failure.mapError_eq_ok_iff.mpr (bind_eq_ok_iff.mpr ⟨data, rfl, ?_⟩)
    exact bind_eq_ok_iff.mpr ⟨lines, Failure.mapError_eq_ok_iff.mpr written, rfl⟩
  rw [addModule, named module, TemplateStore.nameOf, Failure.ok_bind, found, Failure.ok_bind]
  dsimp only
  rw [rendered, Failure.ok_bind]
  split
  · exact ⟨_, rfl, still⟩
  · rw [packageFile, place]
    exact ⟨_, rfl, still⟩

theorem exists_foldlM_addModule {made : PackageState} {directory : String}
    (own : made.store.IsOwn workspace) (named : NamesOwn templates)
    (place : stubs.outputDirectory = .text directory) (modules : List StubModule)
    (each : ∀ module ∈ modules, (module.lines data).Succeeds) :
    ∃ final, modules.foldlM (addModule workspace stubs templates data) made = .ok final := by
  induction modules generalizing made with
  | nil => exact ⟨made, rfl⟩
  | cons module modules ih =>
      rcases exists_addModule own named place (each module List.mem_cons_self) with
        ⟨next, added, still⟩
      rw [List.foldlM_cons, added, Failure.ok_bind]
      exact ih still fun other later => each other (List.mem_cons_of_mem module later)

/-- The files of a package are those of its modules. -/
theorem exists_of_moduleFiles {store : TemplateStore} {files : List FilePlan.GeneratedFile}
    (own : store.IsOwn workspace) (given : stubs.templates.content = .ok templates)
    (named : NamesOwn templates) (made : moduleFiles workspace stubs store data = .ok files) :
    ∃ modules, modulesOf stubs data = .ok modules ∧
      List.Forall₂ (PackageModule.IsFile stubs templates) modules files := by
  rw [moduleFiles, given, Failure.liftShape_ok, Failure.ok_bind] at made
  rcases bind_eq_ok_iff.mp made with ⟨final, run, result⟩
  cases result
  have start : (PackageState.mk store []).store.IsOwn workspace := own
  rcases exists_of_foldlM_addModule start named run with ⟨written, files, asModules, grown, each⟩
  refine ⟨written.filter (·.isWritten), by rw [modulesOf, asModules]; rfl, ?_⟩
  rwa [grown]

end Run

end Stub

end WireSchema
