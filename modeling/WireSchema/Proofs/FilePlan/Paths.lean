import WireSchema.Proofs.Document.Pointwise
import WireSchema.Proofs.FilePlan.Groups
import WireSchema.Proofs.FilePlan.Run
import WireSchema.Proofs.Text.Segments
import WireSchema.Workspace.Location

namespace WireSchema.FilePlan

/-!
# Paths that stay below a directory

The path of a generated file is made from the pattern of file names: the name of a group and a
format are put in, and for a further format another extension.  A path stays below the directory
from which it is read if it is relative, never goes up and names something.  What is put into a
pattern can make a path leave the directory, since a group is named by what a model says.  Where
each segment of the name has a character other than a point, nothing that is put in is a segment
that goes up, an empty one or a single point, and the paths of all files stay below as the pattern
does.
-/

open Asked Text

/-! ## Segments that lead down -/

/-- Segments of a path that does not begin at the top, does not go up and names
something.  A path may hold segments of one point, which lead nowhere. -/
structure LeadsDown (parts : List (List Char)) : Prop where
  relative : parts.head? ≠ some []
  inside : ['.', '.'] ∉ parts
  named : ∃ part ∈ parts, part ≠ [] ∧ part ≠ ['.']

/-- A segment with a character other than a point.  A segment of points alone may
lead nowhere or upwards. -/
def IsProper (part : List Char) : Prop := HasKind (· ≠ '.') part

theorem isProper_iff {part : List Char} : IsProper part ↔ hasOtherThanPoint part = true := by
  rw [hasOtherThanPoint, List.any_eq_true]
  simp only [bne_iff_ne]
  rfl

namespace IsProper

variable {part : List Char}

theorem ne_nil (proper : IsProper part) : part ≠ [] := by
  rintro rfl
  exact absurd (isProper_iff.mp proper) (by decide)

theorem ne_point (proper : IsProper part) : part ≠ ['.'] := by
  rintro rfl
  exact absurd (isProper_iff.mp proper) (by decide)

theorem ne_points (proper : IsProper part) : part ≠ ['.', '.'] := by
  rintro rfl
  exact absurd (isProper_iff.mp proper) (by decide)

end IsProper

/-- Segments lead down as long as all new ones have a character other than a point. -/
theorem LeadsDown.of_areReshaped {first start : List Char} {others further : List (List Char)}
    (leads : LeadsDown (first :: others))
    (reshaped : AreReshaped (· ≠ '.') first others start further) :
    LeadsDown (start :: further) := by
  refine ⟨?_, ?_, ?_⟩
  · rw [List.head?_cons, ne_eq, Option.some.injEq]
    rcases reshaped.head with rfl | new
    · exact fun empty => leads.relative (congrArg some empty)
    · exact IsProper.ne_nil new
  · intro member
    rcases List.mem_cons.mp member with here | later
    · rcases reshaped.head with rfl | new
      · exact leads.inside (here ▸ List.mem_cons_self)
      · exact IsProper.ne_points new here.symm
    · rcases reshaped.rest _ later with old | new
      · exact leads.inside (List.mem_cons_of_mem _ old)
      · exact IsProper.ne_points new rfl
  · rcases leads.named with ⟨part, member, isName⟩
    have ofNew : ∀ other ∈ start :: further, HasKind (· ≠ '.') other →
        ∃ part ∈ start :: further, part ≠ [] ∧ part ≠ ['.'] :=
      fun other among new => ⟨other, among, IsProper.ne_nil new, IsProper.ne_point new⟩
    rcases List.mem_cons.mp member with rfl | later
    · rcases reshaped.head with rfl | new
      · exact ⟨_, List.mem_cons_self, isName⟩
      · exact ofNew start List.mem_cons_self new
    · rcases reshaped.kept part later with still | ⟨other, among, new⟩
      · exact ⟨part, List.mem_cons_of_mem _ still, isName⟩
      · exact ofNew other among new

/-! ## Paths that stay below -/

/-- A path that is relative, does not go up and names something.  Joined to a
directory, such a path leads to a place inside it, whatever the directory is. -/
structure StaysBelow (path : String) : Prop where
  relative : (Location.ofText path).anchor = .relative
  inside : Location.parentMark ∉ (Location.ofText path).names
  named : (Location.ofText path).names ≠ []

theorem mem_namesOf {path name : String} :
    name ∈ Location.namesOf path ↔
      name.toList ∈ splitAtEach '/' path.toList ∧ name ≠ "" ∧ name ≠ "." := by
  rw [Location.namesOf, List.mem_filter, Location.isName, Bool.and_eq_true, bne_iff_ne, bne_iff_ne,
    List.mem_map]
  refine and_congr_left fun _ => ?_
  constructor
  · rintro ⟨part, member, rfl⟩
    rwa [String.toList_ofList]
  · exact fun member => ⟨name.toList, member, String.ofList_toList⟩

theorem names_ne_nil_iff {path : String} :
    (Location.ofText path).names ≠ [] ↔
      ∃ part ∈ splitAtEach '/' path.toList, part ≠ [] ∧ part ≠ ['.'] := by
  constructor
  · intro given
    rcases List.exists_mem_of_ne_nil _ given with ⟨name, member⟩
    rcases mem_namesOf.mp member with ⟨part, notEmpty, notPoint⟩
    exact ⟨name.toList, part, fun empty => notEmpty (String.toList_inj.mp empty),
      fun point => notPoint (String.toList_inj.mp point)⟩
  · rintro ⟨part, member, notEmpty, notPoint⟩
    have isName : String.ofList part ∈ (Location.ofText path).names := by
      refine mem_namesOf.mpr ⟨?_, fun empty => notEmpty ?_, fun point => notPoint ?_⟩
      · rwa [String.toList_ofList]
      · exact String.ofList_eq_empty_iff.mp empty
      · rw [← String.toList_ofList (l := part), point]
        rfl
    exact List.ne_nil_of_mem isName

/-- A path with characters begins with an empty segment exactly when it begins at the top. -/
theorem anchor_eq_relative_iff {path : String} (given : path.toList ≠ []) :
    (Location.ofText path).anchor = .relative ↔
      (splitAtEach '/' path.toList).head? ≠ some [] := by
  have slash : "/".toList = ['/'] := by decide
  rw [Location.ofText, startsWith, slash]
  rcases List.exists_cons_of_ne_nil given with ⟨c, cs, chars⟩
  rcases exists_splitAtEach '/' cs with ⟨part, parts, split⟩
  rw [chars, splitAtEach_cons c split, afterLeading?]
  by_cases same : c = '/'
  · rw [if_pos same, if_pos same.symm, afterLeading?]
    exact iff_of_false Anchor.noConfusion (not_not_intro rfl)
  · rw [if_neg same, if_neg (Ne.symm same)]
    exact iff_of_true rfl (fun empty => absurd (Option.some.inj empty) (List.cons_ne_nil c part))

/-- A path stays below a directory exactly when its segments lead down. -/
theorem staysBelow_iff {path : String} :
    StaysBelow path ↔ LeadsDown (splitAtEach '/' path.toList) := by
  have parent : Location.parentMark ∈ (Location.ofText path).names ↔
      ['.', '.'] ∈ splitAtEach '/' path.toList :=
    mem_namesOf.trans (and_iff_left (by decide))
  have given : (∃ part ∈ splitAtEach '/' path.toList, part ≠ [] ∧ part ≠ ['.']) →
      path.toList ≠ [] := by
    rintro ⟨part, member, notEmpty, -⟩ empty
    rw [empty] at member
    exact notEmpty (List.mem_singleton.mp member)
  constructor
  · rintro ⟨relative, inside, named⟩
    have some := names_ne_nil_iff.mp named
    exact ⟨(anchor_eq_relative_iff (given some)).mp relative, mt parent.mpr inside, some⟩
  · rintro ⟨relative, inside, named⟩
    exact ⟨(anchor_eq_relative_iff (given named)).mpr relative, mt parent.mp inside,
      names_ne_nil_iff.mpr named⟩

/-! ## Names in patterns -/

/-- A name of which each segment has a character other than a point.  This is
weaker than a legal file name, and enough for a path that is built from the name
to stay below its directory. -/
def HasProperSegments (name : String) : Prop :=
  ∀ part ∈ splitAtEach '/' name.toList, hasOtherThanPoint part = true

instance (name : String) : Decidable (HasProperSegments name) :=
  inferInstanceAs (Decidable (∀ part ∈ _, _))

theorem staysBelow_replaceAll {mark replacement path : String} (given : mark.toList ≠ [])
    (absent : '/' ∉ mark.toList) (proper : HasProperSegments replacement)
    (below : StaysBelow path) : StaysBelow (replaceAll mark replacement path) := by
  rw [staysBelow_iff] at below ⊢
  rw [replaceAll, String.toList_ofList]
  rcases exists_splitAtEach '/' path.toList with ⟨first, others, split⟩
  have each : ∀ part ∈ splitAtEach '/' replacement.toList, HasKind (· ≠ '.') part :=
    fun part member => isProper_iff.mpr (proper part member)
  rcases (replaces_replaceFrom given path.toList).areReshaped absent each split with
    ⟨start, further, made, reshaped⟩
  rw [split] at below
  rw [made]
  exact below.of_areReshaped reshaped

/-- A pattern stays below also when a name and a format are put in. -/
theorem staysBelow_fillPattern {pattern name : String} (format : OutputFormat)
    (below : StaysBelow pattern) (proper : HasProperSegments name) :
    StaysBelow (fillPattern pattern name name format.word) := by
  have given : pattern ≠ "" := by
    rintro rfl
    exact below.named (by decide)
  have word : HasProperSegments format.word := by
    cases format <;> decide
  rw [fillPattern, if_neg given]
  refine staysBelow_replaceAll (by decide) (by decide) word ?_
  refine staysBelow_replaceAll (by decide) (by decide) proper ?_
  exact staysBelow_replaceAll (by decide) (by decide) proper below

/-! ## Extensions -/

theorem toList_of_endsWith {text mark : String} (ends : endsWith text mark = true) :
    text.toList = text.toList.take (text.length - mark.length) ++ mark.toList := by
  rcases Option.isSome_iff_exists.mp ends with ⟨rest, found⟩
  have whole := congrArg List.reverse (afterLeading?_eq_some_iff.mp found)
  rw [List.reverse_reverse, List.reverse_append, List.reverse_reverse] at whole
  have length : text.length - mark.length = rest.reverse.length := by
    rw [← String.length_toList, ← String.length_toList, whole, List.length_append]
    omega
  rw [length, whole, List.take_left]

theorem exists_rest_of_withoutExtension (path : String) :
    ∃ rest, path.toList = (withoutExtension path).toList ++ rest ∧ '/' ∉ rest := by
  have slashless : '/' ∉ (splitFolder path.toList).2 ∧
      path.toList = (splitFolder path.toList).1 ++ (splitFolder path.toList).2 := by
    rw [splitFolder]
    rcases exists_last_or_not_mem '/' path.toList with ⟨before, after, whole, absent⟩ | absent
    · rw [whole, breakAtLast?_append absent]
      exact ⟨absent, List.append_cons before '/' after⟩
    · rw [breakAtLast?_of_not_mem absent]
      exact ⟨absent, rfl⟩
  rcases slashless with ⟨slashless, whole⟩
  rw [withoutExtension]
  rcases exists_last_or_not_mem '.' (splitFolder path.toList).2 with
    ⟨stem, rest, split, absent⟩ | absent
  · rw [split] at slashless whole
    rw [split, breakAtLast?_append absent]
    dsimp only
    split_ifs
    · refine ⟨'.' :: rest, ?_, fun member => slashless (List.mem_append_right stem member)⟩
      rw [String.toList_ofList, List.append_assoc]
      exact whole
    · exact ⟨[], (List.append_nil _).symm, List.not_mem_nil⟩
  · rw [breakAtLast?_of_not_mem absent]
    exact ⟨[], (List.append_nil _).symm, List.not_mem_nil⟩

/-- What an extension is taken from is the path up to something in its last segment. -/
theorem exists_rest_of_withoutSchemaExtension (path : String) :
    ∃ rest, path.toList = (withoutSchemaExtension path).toList ++ rest ∧ '/' ∉ rest := by
  rw [withoutSchemaExtension]
  split
  · rename_i ends
    refine ⟨".proto".toList, ?_, by decide⟩
    rw [String.toList_ofList]
    exact toList_of_endsWith ends
  · exact exists_rest_of_withoutExtension path

/-- A path also stays below with another extension. -/
theorem staysBelow_withExtension {path extension : String} (below : StaysBelow path)
    (slashless : '/' ∉ extension.toList) (proper : hasOtherThanPoint extension.toList = true) :
    StaysBelow (withoutSchemaExtension path ++ extension) := by
  rw [staysBelow_iff] at below ⊢
  rcases exists_rest_of_withoutSchemaExtension path with ⟨rest, whole, absent⟩
  rcases exists_splitAtEach_append '/' (withoutSchemaExtension path).toList with
    ⟨before, last, -, meets⟩
  rw [whole, meets rest rest [] (splitAtEach_of_notMem absent)] at below
  rw [String.toList_append, meets _ _ [] (splitAtEach_of_notMem slashless)]
  have isNew : IsProper (last ++ extension.toList) :=
    (isProper_iff.mpr proper).of_subset (List.subset_append_right last _)
  refine ⟨?_, ?_, ⟨_, List.mem_append_right _ List.mem_cons_self, isNew.ne_nil, isNew.ne_point⟩⟩
  · cases before with
    | nil => exact fun empty => isNew.ne_nil (Option.some.inj empty)
    | cons part before => exact below.relative
  · intro member
    rcases List.mem_append.mp member with early | late
    · exact below.inside (List.mem_append_left _ early)
    · exact isNew.ne_points (List.mem_singleton.mp late).symm

/-! ## Paths of a run -/

section Run

variable {options : Options} {model : Model} {groups : List FileGroup} {group : FileGroup}
  {pattern : String}

/-- The name and the file of a group go together by the pattern. -/
theorem exists_keyedFile_of_partition (divided : partition options model = .ok groups)
    (member : group ∈ groups) :
    ∃ key name, keyedFile options.outputFileName key name = .ok group.head := by
  have isPartition := (isPartition_of_ok divided).1
  by_cases absent : declarations model = []
  · rcases isPartition.single absent with ⟨only, rfl, -, found⟩
    rw [List.mem_singleton.mp member]
    exact ⟨_, _, found⟩
  · rcases isPartition.firstSeen absent with ⟨places, placed, same⟩
    have head : group.head ∈ places := by
      rw [← List.mem_eraseDups, ← same]
      exact List.mem_map_of_mem member
    rcases exists_of_mem_mapM placed head with ⟨declaration, -, found⟩
    rcases bind_eq_ok_iff.mp (place_eq_ok_iff.mp found).2 with ⟨name, -, keyed⟩
    exact ⟨_, name, keyed⟩

theorem file_of_partition (divided : partition options model = .ok groups)
    (member : group ∈ groups) (read : readPattern options.outputFileName = .ok pattern) :
    group.file = fillPattern pattern group.name group.name OutputFormat.proto.word := by
  rcases exists_keyedFile_of_partition divided member with ⟨key, name, keyed⟩
  rcases bind_eq_ok_iff.mp keyed with ⟨_, -, rest⟩
  rcases bind_eq_ok_iff.mp rest with ⟨content, -, rest⟩
  rcases bind_eq_ok_iff.mp rest with ⟨_, -, rest⟩
  rcases bind_eq_ok_iff.mp rest with ⟨file, filled, final⟩
  rw [schemaFileName, read, ok_bind, pure_eq_ok, Except.ok.injEq] at filled
  have head := Except.ok.inj final
  have ofName : content = group.name := congrArg KeyedFile.name head
  have ofFile : file = group.file := congrArg KeyedFile.file head
  rw [← ofFile, ← ofName, filled]

/-- The files of a group have paths that stay below as the pattern does. -/
theorem staysBelow_of_isGroupOutput {typeFiles : List (Value × String)}
    {files : List GeneratedFile} (divided : partition options model = .ok groups)
    (member : group ∈ groups) (read : readPattern options.outputFileName = .ok pattern)
    (below : StaysBelow pattern) (proper : HasProperSegments group.name)
    (made : IsGroupOutput options model typeFiles group files) :
    ∀ file ∈ files, StaysBelow file.path := by
  have ofSchema : StaysBelow group.file := by
    rw [file_of_partition divided member read]
    exact staysBelow_fillPattern .proto below proper
  cases made with
  | files _ _ _ further =>
      refine List.forall_mem_cons.mpr ⟨ofSchema, fun file among => ?_⟩
      rcases exists_left_of_forall₂ further among with ⟨format, -, own⟩
      have extension : '/' ∉ format.extension.toList ∧
          hasOtherThanPoint format.extension.toList = true := by
        cases format <;> decide
      rcases bind_eq_ok_iff.mp own.path with ⟨placed, -, rest⟩
      split at rest
      · rw [read, ok_bind, pure_eq_ok, Except.ok.injEq] at rest
        rw [← rest]
        exact staysBelow_withExtension (staysBelow_fillPattern _ below proper) extension.1
          extension.2
      · rw [pure_eq_ok, Except.ok.injEq] at rest
        rw [← rest]
        exact staysBelow_withExtension ofSchema extension.1 extension.2

/-- The paths of all generated files stay below a directory if the pattern does and each segment of
the names of groups has a character other than a point. -/
theorem staysBelow_of_generate {files : List GeneratedFile}
    (divided : partition options model = .ok groups)
    (read : readPattern options.outputFileName = .ok pattern) (below : StaysBelow pattern)
    (proper : ∀ group ∈ groups, HasProperSegments group.name)
    (made : generate options model = .ok files) : ∀ file ∈ files, StaysBelow file.path := by
  rcases generate_eq_ok_iff.mp made with ⟨others, typeFiles, outputs, again, -, each, rfl, -⟩
  cases divided.symm.trans again
  intro file member
  rcases List.mem_flatten.mp member with ⟨output, among, own⟩
  rcases exists_left_of_forall₂ each among with ⟨group, isGroup, ofGroup⟩
  exact staysBelow_of_isGroupOutput divided isGroup read below (proper group isGroup) ofGroup file
    own

end Run

end WireSchema.FilePlan
