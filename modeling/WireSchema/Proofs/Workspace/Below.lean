import WireSchema.Proofs.FilePlan.Paths
import WireSchema.Proofs.Workspace.Writing

namespace WireSchema

/-!
# Files are written below the base directory

A path that stays below leads from the base directory to names that go on from those of the base,
so a file with such a path is put below it.  The directories that are made on the way lie below the
base too, are the base itself or lead to it.  A run that writes files therefore changes nothing else
as long as the paths of all its files stay below; it need not succeed for that.
-/

namespace Workspace

open FilePlan

variable {checks : List ContentCheck} {base : Location} {before middle after : Workspace}
  {names : List String}

/-! ## Where paths lead -/

theorem foldl_enter_of_notMem {start : List String} (inside : Location.parentMark ∉ names) :
    names.foldl enter start = start ++ names := by
  induction names generalizing start with
  | nil => exact (List.append_nil start).symm
  | cons name names ih =>
      rw [List.mem_cons, not_or] at inside
      rw [List.foldl_cons, enter, if_neg (Ne.symm inside.1), ih inside.2, List.append_assoc,
        List.singleton_append]

/-- Names that go on from those of the base directory.  Points are resolved in
the base, so that a base that goes up and down again is compared by where it
ends. -/
def IsBelow (base : Location) (names : List String) : Prop :=
  ∃ further, further ≠ [] ∧ names = Location.normalNames base.names ++ further

theorem normalNames_append (base : Location) (inside : Location.parentMark ∉ names) :
    Location.normalNames (base.names ++ names) = Location.normalNames base.names ++ names := by
  rw [normalNames_eq, List.foldl_append, ← normalNames_eq, foldl_enter_of_notMem inside]

theorem names_joinText {path : String} (below : StaysBelow path) :
    (base.joinText path).names = base.names ++ (Location.ofText path).names := by
  rw [Location.joinText, Location.join, if_pos below.relative]

/-- The directory of a path that stays below is the base directory or goes on from there. -/
theorem exists_parent_joinText (base : Location) {path : String} (below : StaysBelow path) :
    ∃ further, Location.parentMark ∉ further ∧
      (base.joinText path).parent.names = base.names ++ further := by
  refine ⟨(Location.ofText path).names.dropLast,
    fun member => below.inside ((List.dropLast_subset _) member), ?_⟩
  rw [Location.parent, names_joinText below]
  exact List.dropLast_append_of_ne_nil below.named

theorem isBelow_destination {path : String} (below : StaysBelow path) :
    IsBelow base (destination (base.joinText path)) := by
  rcases exists_parent_joinText base below with ⟨further, inside, parent⟩
  refine ⟨further ++ [(base.joinText path).name], List.concat_ne_nil _ _, ?_⟩
  rw [destination, parent, normalNames_append base inside, List.append_assoc]

/-- The way to a path that stays below leads to the base directory and then goes on below it. -/
theorem isPassed_or_isBelow {path : String} (below : StaysBelow path)
    (passed : IsPassed [] (base.joinText path).parent.names names) :
    IsPassed [] base.names names ∨ IsBelow base names := by
  rcases exists_parent_joinText base below with ⟨further, inside, parent⟩
  rcases passed with ⟨first, isFirst, rfl⟩
  rw [parent] at isFirst
  rcases List.prefix_or_prefix_of_prefix isFirst (List.prefix_append base.names further) with
    onWay | ⟨rest, rfl⟩
  · exact Or.inl ⟨first, onWay, rfl⟩
  · have within : rest <+: further := (List.prefix_append_right_inj base.names).mp isFirst
    by_cases arrived : rest = []
    · rw [arrived, List.append_nil]
      exact Or.inl ⟨base.names, List.prefix_refl _, rfl⟩
    · have notUp : Location.parentMark ∉ rest := fun member => inside (within.subset member)
      exact Or.inr ⟨rest, arrived, normalNames_append base notUp⟩

/-! ## What a run changes -/

/-- What has been changed lies below the base directory, or is a new directory
on the way to it.  The second case is needed because the base directory need not
exist before. -/
def StaysWithin (base : Location) (before after : Workspace) : Prop :=
  ∀ names, after.entry? names ≠ before.entry? names → IsBelow base names ∨
    before.entry? names = none ∧ after.entry? names = some .directory ∧ IsPassed [] base.names names

theorem StaysWithin.refl (base : Location) (workspace : Workspace) :
    StaysWithin base workspace workspace :=
  fun _ changed => absurd rfl changed

theorem StaysWithin.trans (first : StaysWithin base before middle)
    (second : StaysWithin base middle after) : StaysWithin base before after := by
  intro names changed
  by_cases same : middle.entry? names = before.entry? names
  · rw [← same] at changed ⊢
    exact second names changed
  · rcases first names same with below | ⟨missing, made, passed⟩
    · exact Or.inl below
    · by_cases still : after.entry? names = middle.entry? names
      · exact Or.inr ⟨missing, still.trans made, passed⟩
      · rcases second names still with below | ⟨absent, -⟩
        · exact Or.inl below
        · cases made.symm.trans absent

theorem Gains.staysWithin {contents : List (List String × String)} {among : List String → Prop}
    (gains : Gains before contents among after)
    (each : ∀ pair ∈ contents, IsBelow base pair.1)
    (passed : ∀ names, among names → IsPassed [] base.names names ∨ IsBelow base names) :
    StaysWithin base before after := by
  intro names changed
  cases found : lookupKey? names contents.reverse with
  | some content =>
      exact Or.inl (each (names, content) (List.mem_reverse.mp (mem_of_lookupKey? found)))
  | none =>
      cases present : before.entry? names with
      | some entry =>
          exact absurd ((gains.kept names entry found present).trans present.symm) changed
      | none =>
          rcases gains.added names found present with absent | ⟨made, own⟩
          · exact absurd (absent.trans present.symm) changed
          · rcases passed names own with onWay | below
            · exact Or.inr ⟨rfl, made, onWay⟩
            · exact Or.inl below

theorem writeFile_staysWithin (base : Location) (checks : List ContentCheck) (content : String)
    {path : String} (below : StaysBelow path) (before : Workspace) :
    StaysWithin base before ((writeFile checks (base.joinText path) content).run.run before).2 := by
  have passed : ∀ names, IsPassed [] (base.joinText path).parent.names names →
      IsPassed [] base.names names ∨ IsBelow base names :=
    fun _ => isPassed_or_isBelow below
  rcases writeFile_cases checks (base.joinText path) content before with
    ⟨after, written, -, gains, -⟩ | ⟨failure, after, refused, -, gains⟩
  · rw [written]
    exact gains.staysWithin (List.forall_mem_singleton.mpr (isBelow_destination below)) passed
  · rw [refused]
    exact gains.staysWithin (List.forall_mem_nil _) passed

theorem writeFiles_staysWithin (checks : List ContentCheck) (base : Location)
    {files : List GeneratedFile} (each : ∀ file ∈ files, StaysBelow file.path)
    (before : Workspace) :
    StaysWithin base before ((writeFiles checks base files).run.run before).2 := by
  induction files generalizing before with
  | nil => exact .refl base before
  | cons file files ih =>
      rcases List.forall_mem_cons.mp each with ⟨own, others⟩
      have first := writeFile_staysWithin base checks file.content own before
      change StaysWithin base before
        ((writeFile checks (locationIn base file) file.content).run.run before).2 at first
      rw [run_writeFiles_cons]
      generalize (writeFile checks (locationIn base file) file.content).run.run before =
        one at first
      rcases one with ⟨result, middle⟩
      cases result with
      | error failure => exact first
      | ok _ =>
          have rest := ih others middle
          dsimp only
          generalize (writeFiles checks base files).run.run middle = several at rest
          rcases several with ⟨result, after⟩
          cases result <;> exact first.trans rest

/-! ## Generated files -/

/-- Generated files are written below the base directory: if the pattern of file names stays below
and each segment of the names of groups has a character other than a point, all paths of a run stay
below, and whatever is done to write the files changes nothing outside the base directory, apart
from new directories on the way to it. -/
theorem generated_files_stay_below (options : Options) (model : Model) (files : List GeneratedFile)
    (groups : List FileGroup) (pattern : String) (made : generate options model = .ok files)
    (divided : partition options model = .ok groups)
    (read : readPattern options.outputFileName = .ok pattern) (below : StaysBelow pattern)
    (proper : ∀ group ∈ groups, HasProperSegments group.name) :
    (∀ file ∈ files, StaysBelow file.path) ∧
      ∀ checks base before,
        StaysWithin base before ((writeFiles checks base files).run.run before).2 := by
  have each := staysBelow_of_generate divided read below proper made
  exact ⟨each, fun checks base before => writeFiles_staysWithin checks base each before⟩

/-- A type in a namespace with two segments. -/
def invoiceModel : Model :=
  { composites :=
      [{ name := .text "Invoice", namespaceName := .text "billing/eu"
         fields := [{ name := .text "Id", type := .named "int64" "" }] }] }

def invoiceOptions : Options :=
  { strategy := .read .namespaces, outputFormats := .read [.proto, .markdown]
    outputFileName := .text "api/\x7bname\x7d.proto" }

theorem generated_files_stay_below_invoiceModel :
    ∃ files, generate invoiceOptions invoiceModel = .ok files ∧
      files.map (·.path) = ["api/billing/eu.proto", "api/billing/eu.md"] ∧
      (∀ file ∈ files, StaysBelow file.path) ∧
      ∀ checks base before,
        StaysWithin base before ((writeFiles checks base files).run.run before).2 := by
  have paths : (generate invoiceOptions invoiceModel).toOption.map (·.map (·.path)) =
      some ["api/billing/eu.proto", "api/billing/eu.md"] := by
    decide +kernel
  have names : (partition invoiceOptions invoiceModel).toOption.map (·.map (·.name)) =
      some ["billing/eu"] := by
    decide +kernel
  rcases Asked.exists_of_toOption_map paths with ⟨files, made, same⟩
  rcases Asked.exists_of_toOption_map names with ⟨groups, divided, named⟩
  have proper : ∀ group ∈ groups, HasProperSegments group.name := by
    intro group member
    have name : group.name ∈ ["billing/eu"] := named ▸ List.mem_map_of_mem member
    rw [List.mem_singleton.mp name]
    decide +kernel
  have below : StaysBelow "api/\x7bname\x7d.proto" :=
    ⟨by decide +kernel, by decide +kernel, by decide +kernel⟩
  exact ⟨files, made, same, generated_files_stay_below invoiceOptions invoiceModel files groups
    "api/\x7bname\x7d.proto" made divided rfl below proper⟩

/-- A type in a namespace that goes up. -/
def outsideModel : Model :=
  { composites :=
      [{ name := .text "User", namespaceName := .text "../outside"
         fields := [{ name := .text "Id", type := .named "int64" "" }] }] }

def outsideOptions : Options := { strategy := .read .namespaces }

def outsideBase : Location := { anchor := .relative, names := ["out"] }

def emptyWorkspace : Workspace := { root := "/work", entries := [] }

/-- The file is written beside the base directory, though the pattern stays below. -/
theorem generated_file_outside_outsideModel :
    ∃ files, generate outsideOptions outsideModel = .ok files ∧
      readPattern outsideOptions.outputFileName = .ok "\x7bschema_name\x7d.proto" ∧
      StaysBelow "\x7bschema_name\x7d.proto" ∧ files.map (·.path) = ["../outside.proto"] ∧
      ¬StaysWithin outsideBase emptyWorkspace
        ((writeFiles standardChecks outsideBase files).run.run emptyWorkspace).2 := by
  have computed : (generate outsideOptions outsideModel).toOption.map (fun files =>
      let after := ((writeFiles standardChecks outsideBase files).run.run emptyWorkspace).2
      (files.map (·.path), (after.entry? ["outside.proto"]).isSome,
        after.isDirectory ["outside.proto"])) = some (["../outside.proto"], true, false) := by
    decide +kernel
  rcases Asked.exists_of_toOption_map computed with ⟨files, made, seen⟩
  rcases Prod.mk.inj seen with ⟨paths, put⟩
  rcases Prod.mk.inj put with ⟨present, isFile⟩
  refine ⟨files, made, rfl, ⟨by decide +kernel, by decide +kernel, by decide +kernel⟩, paths, ?_⟩
  intro within
  have changed : entry? ((writeFiles standardChecks outsideBase files).run.run emptyWorkspace).2
      ["outside.proto"] ≠ emptyWorkspace.entry? ["outside.proto"] := by
    intro same
    rw [same] at present
    exact absurd present (by decide)
  rcases within ["outside.proto"] changed with ⟨further, -, same⟩ | ⟨-, directory, -⟩
  · exact absurd (List.cons.inj same).1 (by decide)
  · rw [isDirectory, directory] at isFile
    exact absurd isFile (by decide)

end Workspace

end WireSchema
