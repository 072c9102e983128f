import Mathlib.Data.List.Nodup
import WireSchema.FilePlan.Output
import WireSchema.Proofs.Document.Asked
import WireSchema.Proofs.Failure

namespace WireSchema.FilePlan

/-!
# Runs without collisions

A run goes through the groups of a partition.  What a group contributes does not depend on other
groups, only on the files of its types: its schema file and then a file of each further format.  The
paths of the latter are made from the pattern of file names or from the schema file, and different
schema files can have one such path; so that no file hides another, each path is compared with all
earlier ones.  The run over groups therefore has files exactly when each group has its own and no
two of them have one path.  A run that stops does so at the first group that fails or gets into the
way of an earlier file, and its failure is the one of this group.
-/

open Asked

/-- The path of a file with the key of its group. -/
def KeyedOutput.path (keyed : KeyedOutput) : String := keyed.2.path

def keyedOutputs (groups : List FileGroup) (outputs : List (List GeneratedFile)) :
    List KeyedOutput :=
  (groups.zip outputs).flatMap fun output => output.2.map (output.1.key, ·)

/-! ## Adding files -/

section Adding

variable {key : String} {known result : List KeyedOutput}

theorem addFile_eq_ok_iff {file : GeneratedFile} :
    addFile key known file = .ok result ↔
      file.path ∉ known.map KeyedOutput.path ∧ result = known ++ [(key, file)] := by
  rw [addFile, List.mem_map]
  cases found : known.find? (·.2.path == file.path) with
  | some owner =>
      have same := List.find?_some found
      have owned : ∃ keyed ∈ known, keyed.path = file.path :=
        ⟨owner, List.mem_of_find?_eq_some found, beq_iff_eq.mp same⟩
      exact ⟨nofun, fun fresh => absurd owned fresh.1⟩
  | none =>
      have fresh : ¬∃ keyed ∈ known, keyed.path = file.path := by
        rintro ⟨keyed, member, same⟩
        exact List.find?_eq_none.mp found keyed member (beq_iff_eq.mpr same)
      rw [Except.ok.injEq]
      exact ⟨fun made => ⟨fresh, made.symm⟩, fun made => made.2.symm⟩

theorem addFile_eq_error_iff {file : GeneratedFile} {failure : Failure}
    (distinct : (known.map KeyedOutput.path).Nodup) :
    addFile key known file = .error failure ↔ ∃ owner ∈ known, owner.path = file.path ∧
      failure = .generation (.sharedFile owner.1 key file.path) := by
  rw [addFile]
  cases found : known.find? (·.2.path == file.path) with
  | none =>
      refine ⟨nofun, ?_⟩
      rintro ⟨owner, member, same, _⟩
      exact absurd (beq_iff_eq.mpr same) (List.find?_eq_none.mp found owner member)
  | some first =>
      have member := List.mem_of_find?_eq_some found
      have same := List.find?_some found
      rw [beq_iff_eq] at same
      constructor
      · intro refused
        cases refused
        exact ⟨first, member, same, rfl⟩
      · rintro ⟨owner, owned, shared, rfl⟩
        rw [List.inj_on_of_nodup_map distinct member owned (same.trans shared.symm)]

/-- Files are added to others exactly when all paths are distinct. -/
theorem foldlM_addFile_eq_ok_iff {files : List GeneratedFile}
    (distinct : (known.map KeyedOutput.path).Nodup) :
    files.foldlM (addFile key) known = .ok result ↔
      result = known ++ files.map (key, ·) ∧ (result.map KeyedOutput.path).Nodup := by
  induction files generalizing known with
  | nil =>
      rw [List.foldlM_nil, List.map_nil, List.append_nil]
      constructor
      · intro made
        cases made
        exact ⟨rfl, distinct⟩
      · rintro ⟨rfl, _⟩
        rfl
  | cons file files ih =>
      rw [List.foldlM_cons, bind_eq_ok_iff, List.map_cons]
      constructor
      · rintro ⟨next, added, rest⟩
        rcases addFile_eq_ok_iff.mp added with ⟨fresh, rfl⟩
        have more : ((known ++ [(key, file)]).map KeyedOutput.path).Nodup := by
          rw [List.map_append, List.map_singleton, ← List.concat_eq_append]
          exact distinct.concat fresh
        rw [ih more, List.append_assoc, List.singleton_append] at rest
        exact rest
      · rintro ⟨rfl, whole⟩
        have split : known ++ (key, file) :: files.map (key, ·) =
            (known ++ [(key, file)]) ++ files.map (key, ·) := by
          rw [List.append_assoc, List.singleton_append]
        have more : ((known ++ [(key, file)]).map KeyedOutput.path).Nodup := by
          rw [split, List.map_append] at whole
          exact whole.of_append_left
        have fresh : file.path ∉ known.map KeyedOutput.path := by
          rw [List.map_append, List.nodup_append] at more
          intro taken
          exact more.2.2 _ taken file.path (List.mem_singleton_self _) rfl
        exact ⟨_, addFile_eq_ok_iff.mpr ⟨fresh, rfl⟩, (ih more).mpr ⟨split, whole⟩⟩

/-- Files cannot all be added as soon as one of them has the path of an earlier file. -/
theorem foldlM_addFile_eq_error_iff {files : List GeneratedFile} {failure : Failure}
    (distinct : (known.map KeyedOutput.path).Nodup) :
    files.foldlM (addFile key) known = .error failure ↔ ∃ first file later,
      files = first ++ file :: later ∧
      ((known ++ first.map (key, ·)).map KeyedOutput.path).Nodup ∧
      ∃ owner ∈ known ++ first.map (key, ·), owner.path = file.path ∧
        failure = .generation (.sharedFile owner.1 key file.path) := by
  rw [Failure.foldlM_eq_error_iff]
  constructor
  · rintro ⟨first, file, later, state, split, run, refused⟩
    rcases (foldlM_addFile_eq_ok_iff distinct).mp run with ⟨rfl, still⟩
    exact ⟨first, file, later, split, still, (addFile_eq_error_iff still).mp refused⟩
  · rintro ⟨first, file, later, split, still, refused⟩
    exact ⟨first, file, later, _, split, (foldlM_addFile_eq_ok_iff distinct).mpr ⟨rfl, still⟩,
      (addFile_eq_error_iff still).mpr refused⟩

end Adding

/-! ## The files of a group -/

/-- The further formats that options list: the formats other than the schema text, in order.  A list
that is kept unread lists no format but the schema text. -/
inductive ListsFormats (options : Options) : List FurtherFormat → Prop where
  | read {listed : List OutputFormat} {formats : List FurtherFormat}
      (given : options.outputFormats = .read listed)
      (same : formats.map (·.format) = listed.filter (· ≠ .proto)) : ListsFormats options formats
  | kept {value : Value} {items : List Value} (given : options.outputFormats = .kept value)
      (asked : value.items = .ok items)
      (only : ∀ item ∈ items, (item == Value.text OutputFormat.proto.word) = true) :
      ListsFormats options []

theorem format_injective : Function.Injective FurtherFormat.format := by
  intro format other
  cases format <;> cases other <;> decide

theorem map_format_filterMap (listed : List OutputFormat) :
    (listed.filterMap FurtherFormat.ofFormat?).map (·.format) = listed.filter (· ≠ .proto) := by
  induction listed with
  | nil => rfl
  | cons format listed ih =>
      cases format with
      | proto =>
          rw [List.filterMap_cons_none rfl, List.filter_cons_of_neg (by decide), ih]
      | jsonSchema | markdown | typeScript =>
          rw [List.filterMap_cons, List.filter_cons_of_pos (by decide), ← ih]
          rfl

theorem furtherFormats_eq_ok_iff {options : Options} {formats : List FurtherFormat} :
    furtherFormats options = .ok formats ↔ ListsFormats options formats := by
  rw [furtherFormats]
  constructor
  · intro found
    cases given : options.outputFormats with
    | read listed =>
        rw [given, Except.ok.injEq] at found
        exact .read given (found ▸ map_format_filterMap listed)
    | lacking =>
        rw [given] at found
        cases found
    | kept value =>
        rw [given] at found
        rcases bind_eq_ok_iff.mp found with ⟨items, asked, rest⟩
        rw [Failure.liftShape_eq_ok_iff] at asked
        cases other : items.find? fun item => !(item == Value.text OutputFormat.proto.word) with
        | some item =>
            simp only [other] at rest
            rcases bind_eq_ok_iff.mp rest with ⟨text, _, further⟩
            rcases bind_eq_ok_iff.mp further with ⟨format, _, impossible⟩
            cases impossible
        | none =>
            simp only [other] at rest
            cases rest
            refine .kept given asked fun item member => ?_
            have proto := List.find?_eq_none.mp other item member
            rwa [Bool.not_eq_true, Bool.not_eq_false'] at proto
  · rintro (⟨given, same⟩ | ⟨given, asked, only⟩)
    · rename_i listed
      rw [given]
      have mapped := (map_format_filterMap listed).trans same.symm
      exact congrArg Except.ok (List.map_injective_iff.mpr format_injective mapped)
    · rename_i value items
      have none : items.find? (fun item => !(item == Value.text OutputFormat.proto.word)) =
          none := by
        rw [List.find?_eq_none]
        intro item member
        rw [only item member, Bool.not_true, Bool.not_eq_true]
      simp only [given, asked, Failure.liftShape_ok, Failure.ok_bind, none]
      rfl

section Groups

variable {options : Options} {model : Model} {typeFiles : List (Value × String)}

/-- The file of a further format for a group of a run.  Its path is made from
that of the schema file, and its provenance names both the group and the
format. -/
structure IsFormatFile (options : Options) (model : Model) (typeFiles : List (Value × String))
    (strategy : Strategy) (group : FileGroup) (further : FurtherFormat) (file : GeneratedFile) :
    Prop where
  path : formatFileName group.file options.outputFileName group.name further.format
    further.extension = .ok file.path
  content : further.emit (.of model options) (unitOf options model typeFiles group) =
    .ok file.content
  provenance : file.provenance = .schema strategy group.key further.format

/-- The files of a group of a run: the schema file with what is generated of the unit of the group,
and then a file for each format that the options list beside the schema text, in their order. -/
inductive IsGroupOutput (options : Options) (model : Model) (typeFiles : List (Value × String))
    (group : FileGroup) : List GeneratedFile → Prop where
  | files {strategy : Strategy} {content : String} {formats : List FurtherFormat}
      {further : List GeneratedFile} (stated : options.strategy = .read strategy)
      (generated : ProtoText.generate (.of model options) (unitOf options model typeFiles group) =
        .ok content)
      (listed : ListsFormats options formats)
      (made : List.Forall₂ (IsFormatFile options model typeFiles strategy group) formats further) :
      IsGroupOutput options model typeFiles group
        ({ path := group.file, content
           provenance := .schema strategy group.key .proto } :: further)

theorem model_unitOf (group : FileGroup) :
    (unitOf options model typeFiles group).model = model := by
  rw [unitOf]
  cases options.isMultiFile <;> rfl

theorem content_eq_ok_iff {α : Type} {part : Section α} {content : α} :
    part.content = .ok content ↔ part = .read content := by
  cases part with
  | read own => rw [Section.content, Except.ok.injEq, Section.read.injEq]
  | kept value => exact ⟨nofun, nofun⟩
  | lacking => exact ⟨nofun, nofun⟩

theorem formatFile_eq_ok_iff {strategy : Strategy} {group : FileGroup} {further : FurtherFormat}
    {file : GeneratedFile} :
    formatFile (.of model options) strategy group (unitOf options model typeFiles group) further =
      .ok file ↔ IsFormatFile options model typeFiles strategy group further file := by
  rw [formatFile]
  simp only [bind_eq_ok_iff, Failure.liftShape_eq_ok_iff, Failure.mapError_eq_ok_iff]
  constructor
  · rintro ⟨path, named, content, emitted, made⟩
    cases made
    exact ⟨named, emitted, rfl⟩
  · rintro ⟨named, emitted, provenance⟩
    refine ⟨file.path, named, file.content, emitted, ?_⟩
    rw [← provenance]
    rfl

theorem groupFiles_eq_ok_iff {group : FileGroup} {files : List GeneratedFile} :
    groupFiles options group (unitOf options model typeFiles group) = .ok files ↔
      IsGroupOutput options model typeFiles group files := by
  rw [groupFiles]
  simp only [bind_eq_ok_iff, Failure.liftShape_eq_ok_iff, content_eq_ok_iff, model_unitOf,
    furtherFormats_eq_ok_iff, mapM_eq_ok_iff, formatFile_eq_ok_iff]
  constructor
  · rintro ⟨strategy, stated, content, generated, formats, listed, further, made, same⟩
    cases same
    exact .files stated generated listed made
  · rintro ⟨stated, generated, listed, made⟩
    exact ⟨_, stated, _, generated, _, listed, _, made, rfl⟩

/-! ## Groups that fail -/

theorem refusesNone_ofWord (word : String) : Failure.RefusesNone (FurtherFormat.ofWord word) := by
  -- The equation of the definition takes seconds to derive, so it is opened without it.
  delta FurtherFormat.ofWord
  cases Options.formatOfWord? (Options.plainWord word) with
  | none => exact nofun
  | some format => cases format <;> exact nofun

theorem refusesNone_furtherFormats (options : Options) :
    Failure.RefusesNone (furtherFormats options) := by
  rw [furtherFormats]
  cases options.outputFormats with
  | read listed => exact Failure.refusesNone_ok _
  | lacking => exact nofun
  | kept value =>
      refine (Failure.refusesNone_liftShape _).bind fun items => ?_
      cases items.find? fun item => !(item == Value.text OutputFormat.proto.word) with
      | none => exact Failure.refusesNone_ok []
      | some item =>
          refine (Failure.refusesNone_liftShape _).bind fun text => ?_
          exact (refusesNone_ofWord text).bind fun _ => nofun

theorem refusesNone_formatFile (context : SchemaContext) (strategy : Strategy) (group : FileGroup)
    (schema : SchemaUnit) (further : FurtherFormat) :
    Failure.RefusesNone (formatFile context strategy group schema further) := by
  refine (Failure.refusesNone_liftShape _).bind fun path => ?_
  refine Failure.RefusesNone.bind ?_ fun content => Failure.refusesNone_ok _
  cases further.emit context schema with
  | ok content => exact Failure.refusesNone_ok content
  | error fault => exact nofun

theorem check_eq_invalid_iff {context : SchemaContext} {schema : SchemaUnit}
    {found : List Finding} :
    Validation.check context schema = .error (.invalid found) ↔
      Validation.findings context schema = .ok found ∧ found.any (·.isError) = true := by
  rw [Validation.check, (Failure.refusesNone_liftShape _).bind_eq_invalid_iff]
  constructor
  · rintro ⟨all, validated, refused⟩
    cases erroneous : all.any (·.isError) with
    | true =>
        rw [erroneous, if_pos rfl] at refused
        cases refused
        exact ⟨Failure.liftShape_eq_ok_iff.mp validated, erroneous⟩
    | false =>
        rw [erroneous, if_neg Bool.false_ne_true] at refused
        cases refused
  · rintro ⟨validated, erroneous⟩
    refine ⟨found, Failure.liftShape_eq_ok_iff.mpr validated, ?_⟩
    rw [erroneous, if_pos rfl]
    rfl

/-- A group is refused exactly when validation finds an error in its unit. -/
theorem groupFiles_eq_invalid_iff {group : FileGroup} {found : List Finding} :
    groupFiles options group (unitOf options model typeFiles group) = .error (.invalid found) ↔
      (∃ strategy, options.strategy = .read strategy) ∧
        Validation.findings (.of model options) (unitOf options model typeFiles group) =
          .ok found ∧ found.any (·.isError) = true := by
  have further : ∀ (strategy : Strategy) (content : String), Failure.RefusesNone (do
      let formats ← furtherFormats options
      let further ← formats.mapM
        (formatFile (.of model options) strategy group (unitOf options model typeFiles group))
      return ({ path := group.file, content
                provenance := .schema strategy group.key .proto } : GeneratedFile) :: further) := by
    intro strategy content
    refine (refusesNone_furtherFormats options).bind fun formats => ?_
    refine (Failure.refusesNone_mapM fun further => ?_).bind fun _ => Failure.refusesNone_ok _
    exact refusesNone_formatFile _ strategy group _ further
  rw [groupFiles, (Failure.refusesNone_liftShape _).bind_eq_invalid_iff, ← check_eq_invalid_iff]
  simp only [Failure.liftShape_eq_ok_iff, content_eq_ok_iff, ← exists_and_right, model_unitOf]
  refine exists_congr fun strategy => and_congr_right fun _ => ?_
  rw [Failure.bind_eq_invalid_iff (further strategy), ProtoText.generate,
    Failure.bind_eq_invalid_iff fun _ => Failure.refusesNone_liftShape _]

/-- The failure with which a run stops at a group, given the files of earlier groups with their
keys.  Validation findings are passed on as they are; otherwise the failure has the key of the
group, and with it the key of the group whose file is in the way. -/
inductive StopsAt (options : Options) (model : Model) (typeFiles : List (Value × String))
    (earlier : List KeyedOutput) (group : FileGroup) : Failure → Prop where
  | refused {strategy : Strategy} {found : List Finding}
      (stated : options.strategy = .read strategy)
      (validated : Validation.findings (.of model options)
        (unitOf options model typeFiles group) = .ok found)
      (erroneous : found.any (·.isError) = true) :
      StopsAt options model typeFiles earlier group (.invalid found)
  | failed {cause : Failure}
      (made : groupFiles options group (unitOf options model typeFiles group) = .error cause)
      (accepted : ∀ strategy found, options.strategy = .read strategy →
        Validation.findings (.of model options) (unitOf options model typeFiles group) =
          .ok found → found.any (·.isError) = false) :
      StopsAt options model typeFiles earlier group (.inGroup group.key cause)
  | shared {first later : List GeneratedFile} {file : GeneratedFile} {owner : KeyedOutput}
      (made : IsGroupOutput options model typeFiles group (first ++ file :: later))
      (distinct : ((earlier ++ first.map (group.key, ·)).map KeyedOutput.path).Nodup)
      (owned : owner ∈ earlier ++ first.map (group.key, ·)) (same : owner.path = file.path) :
      StopsAt options model typeFiles earlier group
        (.generation (.sharedFile owner.1 group.key file.path))

theorem inGroup_of_not_invalid {key : String} {cause : Failure}
    (other : ∀ found, cause ≠ .invalid found) : inGroup key cause = .inGroup key cause := by
  cases cause with
  | invalid found => exact absurd rfl (other found)
  | outer _ | config _ | generation _ | tool _ | inGroup _ _ | inFormat _ _ => rfl

theorem stopsAt_of_groupFiles {earlier : List KeyedOutput} {group : FileGroup} {cause : Failure}
    (made : groupFiles options group (unitOf options model typeFiles group) = .error cause) :
    StopsAt options model typeFiles earlier group (inGroup group.key cause) := by
  by_cases invalid : ∃ found, cause = .invalid found
  · rcases invalid with ⟨found, rfl⟩
    rcases groupFiles_eq_invalid_iff.mp made with ⟨⟨strategy, stated⟩, validated, erroneous⟩
    exact .refused stated validated erroneous
  · rw [inGroup_of_not_invalid (not_exists.mp invalid)]
    refine .failed made fun strategy found stated validated => Bool.eq_false_iff.mpr ?_
    intro erroneous
    cases made.symm.trans
      (groupFiles_eq_invalid_iff.mpr ⟨⟨strategy, stated⟩, validated, erroneous⟩)
    exact invalid ⟨found, rfl⟩

/-! ## The run over groups -/

section Run

variable {known result : List KeyedOutput}

theorem addGroup_eq_ok_iff {group : FileGroup} (distinct : (known.map KeyedOutput.path).Nodup) :
    addGroup options model typeFiles known group = .ok result ↔
      ∃ files, IsGroupOutput options model typeFiles group files ∧
        result = known ++ files.map (group.key, ·) ∧ (result.map KeyedOutput.path).Nodup := by
  rw [addGroup, bind_eq_ok_iff]
  refine exists_congr fun files => ?_
  rw [Failure.mapError_eq_ok_iff, groupFiles_eq_ok_iff, foldlM_addFile_eq_ok_iff distinct]

theorem addGroup_eq_error_iff {group : FileGroup} {failure : Failure}
    (distinct : (known.map KeyedOutput.path).Nodup) :
    addGroup options model typeFiles known group = .error failure ↔
      StopsAt options model typeFiles known group failure := by
  rw [addGroup]
  constructor
  · intro stopped
    cases made : groupFiles options group (unitOf options model typeFiles group) with
    | error cause =>
        rw [made] at stopped
        cases stopped
        exact stopsAt_of_groupFiles made
    | ok files =>
        rw [made] at stopped
        rcases (foldlM_addFile_eq_error_iff distinct).mp stopped with
          ⟨first, file, later, rfl, still, owner, owned, same, rfl⟩
        exact .shared (groupFiles_eq_ok_iff.mp made) still owned same
  · rintro (⟨stated, validated, erroneous⟩ | ⟨made, accepted⟩ | ⟨made, still, owned, same⟩)
    · rw [groupFiles_eq_invalid_iff.mpr ⟨⟨_, stated⟩, validated, erroneous⟩]
      rfl
    · rename_i cause
      have other : ∀ found, cause ≠ .invalid found := by
        rintro found rfl
        rcases groupFiles_eq_invalid_iff.mp made with ⟨⟨strategy, stated⟩, validated, erroneous⟩
        rw [accepted strategy found stated validated] at erroneous
        cases erroneous
      rw [made, ← inGroup_of_not_invalid other]
      rfl
    · rw [groupFiles_eq_ok_iff.mpr made]
      exact (foldlM_addFile_eq_error_iff distinct).mpr
        ⟨_, _, _, rfl, still, _, owned, same, rfl⟩

/-- A run over groups has files exactly when every group has its own and all paths are distinct. -/
theorem foldlM_addGroup_eq_ok_iff {groups : List FileGroup}
    (distinct : (known.map KeyedOutput.path).Nodup) :
    groups.foldlM (addGroup options model typeFiles) known = .ok result ↔
      ∃ outputs, List.Forall₂ (IsGroupOutput options model typeFiles) groups outputs ∧
        result = known ++ keyedOutputs groups outputs ∧ (result.map KeyedOutput.path).Nodup := by
  induction groups generalizing known with
  | nil =>
      simp only [List.foldlM_nil, List.forall₂_nil_left_iff, exists_eq_left, keyedOutputs,
        List.zip_nil_left, List.flatMap_nil, List.append_nil]
      constructor
      · intro made
        cases made
        exact ⟨rfl, distinct⟩
      · rintro ⟨rfl, _⟩
        rfl
  | cons group groups ih =>
      have split : ∀ (files : List GeneratedFile) (outputs : List (List GeneratedFile)),
          known ++ keyedOutputs (group :: groups) (files :: outputs) =
            (known ++ files.map (group.key, ·)) ++ keyedOutputs groups outputs := by
        intro files outputs
        rw [keyedOutputs, List.zip_cons_cons, List.flatMap_cons, ← List.append_assoc]
        rfl
      rw [List.foldlM_cons, bind_eq_ok_iff]
      constructor
      · rintro ⟨next, added, rest⟩
        rcases (addGroup_eq_ok_iff distinct).mp added with ⟨files, own, rfl, still⟩
        rcases (ih still).mp rest with ⟨outputs, others, rfl, whole⟩
        exact ⟨files :: outputs, .cons own others, (split files outputs).symm, whole⟩
      · rintro ⟨outputs, made, same, whole⟩
        cases made with
        | @cons _ files _ outputs own others =>
            rw [split] at same
            have still : ((known ++ files.map (group.key, ·)).map KeyedOutput.path).Nodup := by
              rw [same, List.map_append] at whole
              exact whole.of_append_left
            exact ⟨_, (addGroup_eq_ok_iff distinct).mpr ⟨files, own, rfl, still⟩,
              (ih still).mpr ⟨outputs, others, same, whole⟩⟩

end Run

theorem map_keyedOutputs {groups : List FileGroup} {outputs : List (List GeneratedFile)}
    (made : List.Forall₂ (IsGroupOutput options model typeFiles) groups outputs) :
    (keyedOutputs groups outputs).map (·.2) = outputs.flatten := by
  rw [keyedOutputs, List.map_flatMap]
  simp only [List.map_map, Function.comp_def, List.map_id']
  induction made with
  | nil => rfl
  | cons _ _ ih => rw [List.zip_cons_cons, List.flatMap_cons, ih, List.flatten_cons]

theorem paths_keyedOutputs {groups : List FileGroup} {outputs : List (List GeneratedFile)}
    (made : List.Forall₂ (IsGroupOutput options model typeFiles) groups outputs) :
    (keyedOutputs groups outputs).map KeyedOutput.path = outputs.flatten.map (·.path) := by
  rw [← map_keyedOutputs made, List.map_map]
  rfl

theorem nodup_paths_nil : (([] : List KeyedOutput).map KeyedOutput.path).Nodup := List.nodup_nil

theorem generate_eq_ok_iff {files : List GeneratedFile} :
    generate options model = .ok files ↔ ∃ groups typeFiles outputs,
      partition options model = .ok groups ∧ knownTypeFiles options groups = .ok typeFiles ∧
      List.Forall₂ (IsGroupOutput options model typeFiles) groups outputs ∧
      files = outputs.flatten ∧ (files.map (·.path)).Nodup := by
  rw [generate]
  simp only [bind_eq_ok_iff, Failure.liftShape_eq_ok_iff,
    foldlM_addGroup_eq_ok_iff nodup_paths_nil]
  constructor
  · rintro ⟨groups, divided, typeFiles, known, result, ⟨outputs, made, rfl, distinct⟩, same⟩
    cases same
    rw [List.nil_append, map_keyedOutputs made]
    rw [List.nil_append, paths_keyedOutputs made] at distinct
    exact ⟨groups, typeFiles, outputs, divided, known, made, rfl, distinct⟩
  · rintro ⟨groups, typeFiles, outputs, divided, known, made, rfl, distinct⟩
    rw [← paths_keyedOutputs made] at distinct
    refine ⟨groups, divided, typeFiles, known, keyedOutputs groups outputs,
      ⟨outputs, made, rfl, distinct⟩, ?_⟩
    exact congrArg Except.ok (map_keyedOutputs made)

theorem generate_eq_error_iff {groups : List FileGroup} {failure : Failure}
    (divided : partition options model = .ok groups)
    (known : knownTypeFiles options groups = .ok typeFiles) :
    generate options model = .error failure ↔ ∃ before group after outputs,
      groups = before ++ group :: after ∧
      List.Forall₂ (IsGroupOutput options model typeFiles) before outputs ∧
      (outputs.flatten.map (·.path)).Nodup ∧
      StopsAt options model typeFiles (keyedOutputs before outputs) group failure := by
  have run : generate options model = .error failure ↔
      groups.foldlM (addGroup options model typeFiles) [] = .error failure := by
    rw [generate, divided, Failure.ok_bind, known, Failure.liftShape_ok, Failure.ok_bind]
    cases groups.foldlM (addGroup options model typeFiles) [] with
    | ok result => exact ⟨nofun, nofun⟩
    | error cause => rw [Failure.error_bind, Except.error.injEq, Except.error.injEq]
  rw [run, Failure.foldlM_eq_error_iff]
  constructor
  · rintro ⟨before, group, after, state, split, earlier, stopped⟩
    rcases (foldlM_addGroup_eq_ok_iff nodup_paths_nil).mp earlier with
      ⟨outputs, made, rfl, distinct⟩
    rw [List.nil_append] at distinct stopped
    refine ⟨before, group, after, outputs, split, made, ?_,
      (addGroup_eq_error_iff distinct).mp stopped⟩
    rw [← paths_keyedOutputs made]
    exact distinct
  · rintro ⟨before, group, after, outputs, split, made, distinct, stopped⟩
    rw [← paths_keyedOutputs made] at distinct
    exact ⟨before, group, after, _, split,
      (foldlM_addGroup_eq_ok_iff nodup_paths_nil).mpr ⟨outputs, made, rfl, distinct⟩,
      (addGroup_eq_error_iff distinct).mpr stopped⟩

/-! ## What failures name -/

/-- A failure whose text has a key in quotes, whatever the texts of faults from
outside are.  The key can so be read off the message of the failure. -/
def Names (failure : Failure) (key : String) : Prop :=
  ∀ outerText, ∃ before after, failure.message outerText = before ++ ("'" ++ key ++ "'") ++ after

theorem names_inGroup (key : String) (cause : Failure) : Names (.inGroup key cause) key := by
  intro outerText
  have opening : "failed to generate group '" = "failed to generate group " ++ "'" := by decide
  have closing : "': " = "'" ++ ": " := by decide
  refine ⟨"failed to generate group ", ": " ++ cause.message outerText, ?_⟩
  change "failed to generate group '" ++ key ++ "': " ++ cause.message outerText = _
  rw [opening, closing]
  simp only [String.append_assoc]

theorem names_sharedFile (first second file : String) :
    Names (.generation (.sharedFile first second file)) first ∧
      Names (.generation (.sharedFile first second file)) second := by
  have opening : "groups '" = "groups " ++ "'" := by decide
  have middle : "' and '" = "'" ++ " and " ++ "'" := by decide
  have closing : "' both map to output file '" = "'" ++ " both map to output file '" := by decide
  constructor
  · intro outerText
    refine ⟨"groups ", " and '" ++ second ++ "' both map to output file '" ++ file ++ "'", ?_⟩
    have further : " and '" = " and " ++ "'" := by decide
    change "groups '" ++ first ++ "' and '" ++ second ++ "' both map to output file '" ++ file
      ++ "'" = _
    rw [opening, middle, further]
    simp only [String.append_assoc]
  · intro outerText
    refine ⟨"groups '" ++ first ++ "' and ", " both map to output file '" ++ file ++ "'", ?_⟩
    have further : "' and " = "'" ++ " and " := by decide
    change "groups '" ++ first ++ "' and '" ++ second ++ "' both map to output file '" ++ file
      ++ "'" = _
    rw [middle, closing, further]
    simp only [String.append_assoc]

theorem StopsAt.names {earlier : List KeyedOutput} {group : FileGroup} {failure : Failure}
    (stops : StopsAt options model typeFiles earlier group failure) :
    (∃ found, failure = .invalid found) ∨ Names failure group.key := by
  cases stops with
  | refused _ _ _ => exact .inl ⟨_, rfl⟩
  | failed _ _ => exact .inr (names_inGroup _ _)
  | shared _ _ _ _ => exact .inr (names_sharedFile _ _ _).2

end Groups

/-- A run either has files of pairwise distinct paths or fails.  The files are those of the groups
of the partition, in order; there are none as soon as a group does not have its own or a path occurs
twice.  Once the groups and the places of types are known, a run fails exactly when it comes to a
group that fails or gets into the way of an earlier file; then it fails with the findings on the
unit of this group, if there is an error among them, and otherwise with a failure that names the key
of the group, and the one of the owner of a shared path. -/
theorem generate_collision_free (options : Options) (model : Model) :
    (∀ files, generate options model = .ok files ↔ ∃ groups typeFiles outputs,
      partition options model = .ok groups ∧ knownTypeFiles options groups = .ok typeFiles ∧
      List.Forall₂ (IsGroupOutput options model typeFiles) groups outputs ∧
      files = outputs.flatten ∧ (files.map (·.path)).Nodup) ∧
    (∀ groups typeFiles failure, partition options model = .ok groups →
      knownTypeFiles options groups = .ok typeFiles →
      (generate options model = .error failure ↔ ∃ before group after outputs,
        groups = before ++ group :: after ∧
        List.Forall₂ (IsGroupOutput options model typeFiles) before outputs ∧
        (outputs.flatten.map (·.path)).Nodup ∧
        StopsAt options model typeFiles (keyedOutputs before outputs) group failure)) ∧
    (∀ typeFiles earlier group failure, StopsAt options model typeFiles earlier group failure →
      (∃ found, failure = .invalid found) ∨ Names failure group.key) ∧
    ∀ owner key path, Names (.generation (.sharedFile owner key path)) owner := by
  refine ⟨fun files => generate_eq_ok_iff, ?_, ?_, ?_⟩
  · intro groups typeFiles failure divided known
    exact generate_eq_error_iff divided known
  · intro typeFiles earlier group failure stops
    exact stops.names
  · intro owner key path
    exact (names_sharedFile owner key path).1

/-- Options by which a group's schema file has no extension of its own. -/
def plainNameOptions (formats : List OutputFormat) : Options :=
  { strategy := .read .follow, outputFileName := .text namePlace, outputFormats := .read formats }

/-- Types in source files whose names differ from the second point on. -/
def dottedModel : Model :=
  { composites :=
      [{ name := .text "User", sourceFile := .text "user.go"
         fields := [{ name := .text "Id", type := .named "int64" "" }] },
       { name := .text "Draft", sourceFile := .text "user.draft.go"
         fields := [{ name := .text "Id", type := .named "int64" "" }] }] }

/-- The schema files of two groups have different paths, but their documents have one path. -/
theorem generate_collision_free_dottedModel :
    (∃ files, generate (plainNameOptions [.proto]) dottedModel = .ok files ∧
      files.map (·.path) = ["user", "user.draft"] ∧ (files.map (·.path)).Nodup) ∧
    ∃ groups typeFiles failure before group after outputs,
      partition (plainNameOptions [.proto, .markdown]) dottedModel = .ok groups ∧
      groups = before ++ group :: after ∧
      List.Forall₂ (IsGroupOutput (plainNameOptions [.proto, .markdown]) dottedModel typeFiles)
        before outputs ∧
      StopsAt (plainNameOptions [.proto, .markdown]) dottedModel typeFiles
        (keyedOutputs before outputs) group failure ∧
      failure.message (fun _ => "") =
        "groups 'user.go' and 'user.draft.go' both map to output file 'user.md'" := by
  have paths : (generate (plainNameOptions [.proto]) dottedModel).toOption.map
      (·.map (·.path)) = some ["user", "user.draft"] := by
    decide +kernel
  have text : (match generate (plainNameOptions [.proto, .markdown]) dottedModel with
      | .ok _ => ""
      | .error failure => failure.message fun _ => "") =
        "groups 'user.go' and 'user.draft.go' both map to output file 'user.md'" := by
    decide +kernel
  have planned : (partition (plainNameOptions [.proto, .markdown]) dottedModel >>= fun groups =>
      Failure.liftShape (knownTypeFiles (plainNameOptions [.proto, .markdown]) groups)).toOption.map
        (fun _ => ()) = some () := by
    decide +kernel
  constructor
  · rcases exists_of_toOption_map paths with ⟨files, made, same⟩
    rcases ((generate_collision_free _ _).1 files).mp made with
      ⟨groups, typeFiles, outputs, divided, known, each, whole, distinct⟩
    exact ⟨files, made, same, distinct⟩
  · rcases exists_of_toOption_map planned with ⟨typeFiles, both, -⟩
    rcases bind_eq_ok_iff.mp both with ⟨groups, divided, found⟩
    have known := Failure.liftShape_eq_ok_iff.mp found
    cases made : generate (plainNameOptions [.proto, .markdown]) dottedModel with
    | ok files =>
        rw [made] at text
        have empty : "" =
            "groups 'user.go' and 'user.draft.go' both map to output file 'user.md'" :=
          text
        exact absurd empty (by decide)
    | error failure =>
        rw [made] at text
        rcases ((generate_collision_free _ _).2.1 groups typeFiles failure divided known).mp made
          with ⟨before, group, after, outputs, split, each, _, stops⟩
        exact ⟨groups, typeFiles, failure, before, group, after, outputs, divided, split, each,
          stops, text⟩

end WireSchema.FilePlan
