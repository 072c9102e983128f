import WireSchema.Proofs.Failure
import WireSchema.Proofs.Workspace.Entries

namespace WireSchema

/-!
# Files are written whole or not at all

A file is written in steps that can each fail: its directory is made, its content is staged and
checked, and the staged file is moved.  What is shown of one file is that it is either put at its
destination or refused for a stated reason, and that nothing is left of a refused one but the
directories made on the way to it.  A list of files is written one by one, so the first refused file
ends the run with exactly the earlier ones in place.

Destinations are told by names from the working directory.  Two paths can lead to one destination;
then the later content replaces the earlier one.

A workspace holds the files below one working directory and knows of no others.  A file whose path
begins at the top of the file system, or climbs above the working directory, is refused here with a
directory that is not found, where a run on a whole file system goes on to write it there.  Such
files are among those that the results speak of, but only as refused ones.
-/

/-! ## Runs of jobs -/

namespace Job

variable {α β : Type}

theorem run_bind (job : Job α) (next : α → Job β) (workspace : Workspace) :
    (job >>= next).run.run workspace =
      match job.run.run workspace with
      | (.ok value, after) => (next value).run.run after
      | (.error failure, after) => (.error failure, after) := by
  change (ExceptT.bindCont next (job.run.run workspace).1).run (job.run.run workspace).2 = _
  rcases job.run.run workspace with ⟨result, after⟩
  cases result <;> rfl

theorem run_makeDirectory (location : Location) (workspace : Workspace) :
    (makeDirectory location).run.run workspace =
      ((workspace.makeDirectory location).2.mapError Failure.ofFile,
        (workspace.makeDirectory location).1) := by
  change (lift ((workspace.makeDirectory location).2.mapError Failure.ofFile)).run.run
    (workspace.makeDirectory location).1 = _
  cases (workspace.makeDirectory location).2 <;> rfl

end Job

namespace Workspace

variable {checks : List ContentCheck} {location : Location} {content : String} {base : Location}
  {before middle after : Workspace}

/-! ## One file -/

/-- The names at which a content for a location is put.  Only the directory is
normalised: the last name is that of the file itself. -/
def destination (location : Location) : List String :=
  Location.normalNames location.parent.names ++ [location.name]

/-- Why a content is not written to a location: its directory cannot be made, it has a name that
cannot be staged or that stands for a directory, its content is not accepted, or there is a
directory where it should be put. -/
inductive IsRefused (checks : List ContentCheck) (workspace : Workspace) (location : Location)
    (content : String) : Failure → Prop where
  | directory {fault : FileFault}
      (made : (workspace.makeDirectory location.parent).2 = .error fault) :
      IsRefused checks workspace location content (.ofFile fault)
  | name {fault : FileFault} (found : stagingFault? location.name = some fault) :
      IsRefused checks workspace location content (.ofFile fault)
  | content {failure : Failure} (checked : checkContent checks location content = .error failure) :
      IsRefused checks workspace location content failure
  | place {fault : FileFault} (found : placeFault? location = some fault) :
      IsRefused checks workspace location content (.ofFile fault)
  | occupied (present : (workspace.makeDirectory location.parent).1.isDirectory
        (destination location) = true) :
      IsRefused checks workspace location content (.ofFile .isDirectory)

/-- A staged content takes the place of what is at its destination, unless something is wrong with
it; when it is then removed, nothing has changed. -/
theorem accept_cases (checks : List ContentCheck) (workspace : Workspace) (directory : List String)
    (location : Location) (content : String) (among : List String → Prop) :
    let staged := workspace.stagedNames directory location.name
    let during := workspace.put staged (.file (.text content))
    (∃ after, during.accept checks staged directory location content = .ok after ∧
        checkContent checks location content = .ok () ∧ placeFault? location = none ∧
        workspace.isDirectory (directory ++ [location.name]) = false ∧
        Gains workspace [(directory ++ [location.name], content)] among after) ∨
      ∃ failure, during.accept checks staged directory location content = .error failure ∧
        Gains workspace [] among (during.remove staged) ∧
        (checkContent checks location content = .error failure ∨
          (∃ fault, placeFault? location = some fault ∧ failure = .ofFile fault) ∨
          workspace.isDirectory (directory ++ [location.name]) = true ∧
            failure = .ofFile .isDirectory) := by
  intro staged during
  have undone : Gains workspace [] among (during.remove staged) :=
    .of_entry?_eq rfl (entry?_remove_put (workspace.entry?_stagedNames directory location.name))
  have apart : directory ++ [location.name] ≠ staged :=
    (workspace.stagedNames_ne directory location.name).symm
  have given : directory ++ [location.name] ≠ [] := List.concat_ne_nil _ _
  have unseen : during.isDirectory (directory ++ [location.name]) =
      workspace.isDirectory (directory ++ [location.name]) := by
    rw [isDirectory, isDirectory, entry?_put_of_ne _ apart]
  rw [accept]
  cases checked : checkContent checks location content with
  | error failure => exact Or.inr ⟨failure, rfl, undone, Or.inl rfl⟩
  | ok _ =>
      rw [Failure.ok_bind, install]
      cases placed : placeFault? location with
      | some fault => exact Or.inr ⟨_, rfl, undone, Or.inr (Or.inl ⟨fault, rfl, rfl⟩)⟩
      | none =>
          dsimp only
          rw [unseen]
          cases present : workspace.isDirectory (directory ++ [location.name]) with
          | true => exact Or.inr ⟨_, rfl, undone, Or.inr (Or.inr ⟨rfl, rfl⟩)⟩
          | false =>
              have free : isDirectory (during.remove staged) (directory ++ [location.name]) =
                  false := by
                rw [isDirectory, entry?_remove_of_ne _ apart]
                exact unseen.trans present
              exact Or.inl ⟨_, rfl, rfl, rfl, rfl, undone.trans (.put_content given free content)⟩

/-- Once its directory is made and its name can be staged, a content is staged and accepted, or it
is removed again. -/
theorem run_writeFile {directory : List String}
    (made : (before.makeDirectory location.parent).2 = .ok directory)
    (fits : stagingFault? location.name = none) :
    let middle := (before.makeDirectory location.parent).1
    let staged := middle.stagedNames directory location.name
    let during := middle.put staged (.file (.text content))
    (writeFile checks location content).run.run before =
      match during.accept checks staged directory location content with
      | .ok after => (.ok (), after)
      | .error failure => (.error failure, during.remove staged) := by
  intro middle staged during
  rw [writeFile, Job.run_bind, Job.run_makeDirectory, made]
  dsimp only [Except.mapError]
  rw [fits]
  change (match during.accept checks staged directory location content with
    | .ok after => (set after : Job Unit)
    | .error failure => (do set (during.remove staged); throw failure : Job Unit)).run.run
      middle = _
  cases during.accept checks staged directory location content <;> rfl

/-- A location to which a content can be moved has a name, which is that of no other directory. -/
theorem names_of_placeFault?_eq_none (placed : placeFault? location = none) :
    location.name ≠ Location.parentMark ∧
      location.names = location.parent.names ++ [location.name] := by
  rw [placeFault?] at placed
  split at placed
  · cases placed
  · rename_i isName
    split at placed
    · cases placed
    · rename_i named
      refine ⟨isName, ?_⟩
      rw [Location.name, Location.parent] at *
      cases last : location.names.getLast? with
      | none =>
          rw [last] at named
          exact absurd rfl named
      | some name =>
          rcases List.getLast?_eq_some_iff.mp last with ⟨first, same⟩
          rw [same, List.dropLast_concat]
          rfl

theorem isLongName_of_stagingFault?_eq_none {name : String} (fits : stagingFault? name = none) :
    Location.isLongName name = false := by
  rw [stagingFault?] at fits
  split at fits
  · cases fits
  · split at fits
    · cases fits
    · rename_i short
      rw [Location.isLongName, decide_eq_false_iff_not]
      omega

/-- A file is written to its destination, to which its location then leads, unless it is refused.
Only directories on the way to it are left of a refused one. -/
theorem writeFile_cases (checks : List ContentCheck) (location : Location) (content : String)
    (before : Workspace) :
    (∃ after, (writeFile checks location content).run.run before = (.ok (), after) ∧
        (∀ failure, ¬IsRefused checks before location content failure) ∧
        Gains before [(destination location, content)] (IsPassed [] location.parent.names) after ∧
        after.walk [] location.names = .ok (destination location)) ∨
      ∃ failure after,
        (writeFile checks location content).run.run before = (.error failure, after) ∧
        IsRefused checks before location content failure ∧
        Gains before [] (IsPassed [] location.parent.names) after := by
  rcases before.makeDirectory_gains location.parent with ⟨gains, arrives⟩
  cases made : (before.makeDirectory location.parent).2 with
  | error fault =>
      rw [writeFile, Job.run_bind, Job.run_makeDirectory, made]
      exact Or.inr ⟨_, _, rfl, .directory made, gains⟩
  | ok directory =>
      rcases arrives directory made with ⟨normal, leads, present⟩
      have target : directory ++ [location.name] = destination location := by
        rw [normal, destination]
      cases fits : stagingFault? location.name with
      | some fault =>
          rw [writeFile, Job.run_bind, Job.run_makeDirectory, made]
          dsimp only [Except.mapError]
          rw [fits]
          exact Or.inr ⟨_, _, rfl, .name fits, gains⟩
      | none =>
          have run : (writeFile checks location content).run.run before = _ :=
            run_writeFile made fits
          rw [run]
          rcases accept_cases checks (before.makeDirectory location.parent).1 directory location
              content (IsPassed [] location.parent.names) with
            ⟨after, accepted, checked, placed, free, put⟩ | ⟨failure, refused, undone, reason⟩
          · rw [accepted]
            rw [target] at free put
            refine Or.inl ⟨after, rfl, ?_, gains.trans put, ?_⟩
            · intro failure isRefused
              cases isRefused with
              | directory refused => cases made.symm.trans refused
              | name found => cases fits.symm.trans found
              | content refused => cases checked.symm.trans refused
              | place found => cases placed.symm.trans found
              | occupied taken => cases free.symm.trans taken
            · rcases names_of_placeFault?_eq_none placed with ⟨isName, same⟩
              rw [same, ← target]
              exact walk_concat (walk_of_directories put.directories leads)
                (put.directories _ present) (isLongName_of_stagingFault?_eq_none fits) isName
          · rw [refused]
            refine Or.inr ⟨failure, _, rfl, ?_, gains.trans undone⟩
            rcases reason with rejected | ⟨fault, found, rfl⟩ | ⟨taken, rfl⟩
            · exact .content rejected
            · exact .place found
            · exact .occupied (target ▸ taken)

/-! ## Several files -/

/-- Where a generated file is written. -/
def locationIn (base : Location) (file : FilePlan.GeneratedFile) : Location :=
  base.joinText file.path

/-- Whether names are on the way to the destination of one of several files.  New
directories there are all that a batch leaves besides its files. -/
def IsOnWay (base : Location) (files : List FilePlan.GeneratedFile) (names : List String) : Prop :=
  ∃ file ∈ files, IsPassed [] (locationIn base file).parent.names names

/-- A workspace in which the contents of files have been put at their destinations, the later ones
over the earlier ones, with nothing else but directories, which are among some names.  The path of
each file leads to its destination. -/
structure Installs (base : Location) (files : List FilePlan.GeneratedFile)
    (among : List String → Prop) (before after : Workspace) : Prop where
  gains : Gains before (files.map fun file => (destination (locationIn base file), file.content))
    among after
  leads : ∀ file ∈ files,
    after.walk [] (locationIn base file).names = .ok (destination (locationIn base file))

theorem Installs.imp {files : List FilePlan.GeneratedFile} {among further : List String → Prop}
    (installs : Installs base files among before after)
    (weaker : ∀ names, among names → further names) : Installs base files further before after :=
  ⟨installs.gains.imp weaker, installs.leads⟩

theorem Installs.trans {files others : List FilePlan.GeneratedFile} {among : List String → Prop}
    (first : Installs base files among before middle)
    (second : Installs base others among middle after) :
    Installs base (files ++ others) among before after := by
  refine ⟨?_, fun file member => ?_⟩
  · rw [List.map_append]
    exact first.gains.trans second.gains
  · rcases List.mem_append.mp member with earlier | later
    · exact walk_of_directories second.gains.directories (first.leads file earlier)
    · exact second.leads file later

theorem run_writeFiles_cons (checks : List ContentCheck) (base : Location)
    (file : FilePlan.GeneratedFile) (files : List FilePlan.GeneratedFile) (before : Workspace) :
    (writeFiles checks base (file :: files)).run.run before =
      match (writeFile checks (locationIn base file) file.content).run.run before with
      | (.ok _, middle) =>
          match (writeFiles checks base files).run.run middle with
          | (.ok locations, after) => (.ok (locationIn base file :: locations), after)
          | (.error failure, after) => (.error failure, after)
      | (.error failure, after) => (.error failure, after) := by
  rw [writeFiles, List.mapM_cons, Job.run_bind, ← locationIn, Job.run_bind]
  rcases (writeFile checks (locationIn base file) file.content).run.run before with ⟨result, middle⟩
  cases result with
  | error failure => rfl
  | ok _ =>
      change (writeFiles checks base files >>= fun locations =>
        pure (locationIn base file :: locations)).run.run middle = _
      dsimp only
      rw [Job.run_bind]
      rcases (writeFiles checks base files).run.run middle with ⟨result, after⟩
      cases result <;> rfl

/-- Files are written one by one until one is refused.  Then exactly the earlier ones are at their
destinations, and in any case there is nothing else new but directories on the way.  A file outside
the working directory is one of those that are refused, for no directory can be made for it there;
on a whole file system it would be written like any other. -/
theorem writeFiles_all_or_nothing (checks : List ContentCheck) (base : Location)
    (files : List FilePlan.GeneratedFile) (before : Workspace) :
    (∃ after, (writeFiles checks base files).run.run before =
          (.ok (files.map (locationIn base)), after) ∧
        Installs base files (IsOnWay base files) before after) ∨
      ∃ first file later middle failure after, files = first ++ file :: later ∧
        (writeFiles checks base first).run.run before =
          (.ok (first.map (locationIn base)), middle) ∧
        IsRefused checks middle (locationIn base file) file.content failure ∧
        (writeFiles checks base files).run.run before = (.error failure, after) ∧
        Installs base first (IsOnWay base (first ++ [file])) before after := by
  induction files generalizing before with
  | nil => exact Or.inl ⟨before, rfl, .refl before _, List.forall_mem_nil _⟩
  | cons file files ih =>
      have own : ∀ others names, IsPassed [] (locationIn base file).parent.names names →
          IsOnWay base (file :: others) names :=
        fun others names passed => ⟨file, List.mem_cons_self, passed⟩
      have wider : ∀ others names, IsOnWay base others names →
          IsOnWay base (file :: others) names :=
        fun others names ⟨other, member, passed⟩ => ⟨other, List.mem_cons_of_mem _ member, passed⟩
      rw [run_writeFiles_cons]
      rcases writeFile_cases checks (locationIn base file) file.content before with
        ⟨middle, written, -, gains, leads⟩ | ⟨failure, after, refused, reason, gains⟩
      · have head : Installs base [file] (IsPassed [] (locationIn base file).parent.names)
            before middle :=
          ⟨gains, List.forall_mem_singleton.mpr leads⟩
        rw [written]
        dsimp only
        rcases ih middle with ⟨after, run, installs⟩ |
          ⟨first, next, later, reached, failure, after, rfl, run, reason, refused, installs⟩
        · rw [run]
          exact Or.inl ⟨after, rfl, (head.imp (own files)).trans (installs.imp (wider files))⟩
        · rw [refused]
          refine Or.inr ⟨file :: first, next, later, reached, failure, after, rfl, ?_, reason, rfl,
            (head.imp (own _)).trans (installs.imp (wider _))⟩
          rw [run_writeFiles_cons, written]
          dsimp only
          rw [run]
          rfl
      · rw [refused]
        exact Or.inr ⟨[], file, files, before, failure, after, rfl, rfl, reason, rfl,
          gains.imp (own []), List.forall_mem_nil _⟩

end Workspace

end WireSchema
