import Mathlib.Data.Set.List
import WireSchema.Proofs.Annotation.Query
import WireSchema.Proofs.Document.Order
import WireSchema.Proofs.Document.Table
import WireSchema.ProtoText.File

namespace WireSchema

/-!
# File options

Options of a file come from several sources, of which a later one overrides an earlier one: options
of the run of their own, further file options that are given to the run, annotations of packages and
annotations of files.  The options that are written are those of the last source for each name.

The specification is a list of sources, with what each of them sets, and says nothing of how they
are gathered.  One table of pairs is gathered from them, from which the goal of optimisation is
taken out again, while the option of the run for it never goes into the table and counts in its
absence.  So the proof has two parts.  What the table of all sources has under a name is what the
last source sets, one source after the other; and the goal and the other options are those that this
table has.
-/

open Asked
open Annotation (goesBy_eq_ok_true_iff)

/-- Annotations of a level stand by name, and in the order of their declaration under each name. -/
theorem Model.exists_inOrder (level : LevelAnnotations) :
    ∃ sorted : LevelAnnotations, sorted.Perm level ∧
      (sorted.Pairwise fun first second => first.1 ≤ second.1) ∧
      inOrder level = sorted.flatMap (·.2) := by
  have byName := Value.pairwise_mergeSort_le (fun entry : String × List Annotation => entry.1) level
  refine ⟨_, List.mergeSort_perm level _, byName, ?_⟩
  rw [inOrder]

theorem Model.all_inOrder (level : LevelAnnotations) (test : Annotation → Bool) :
    (inOrder level).all test = level.all (·.2.all test) := by
  rcases exists_inOrder level with ⟨sorted, same, -, listed⟩
  rw [listed, List.all_flatMap, same.all_eq]

/-- Names none of which appears twice have one order only. -/
theorem Model.eq_of_byName {level sorted other : LevelAnnotations}
    (unique : (level.map (·.1)).Nodup) (same : sorted.Perm level)
    (byName : sorted.Pairwise fun first second => first.1 ≤ second.1) (otherSame : other.Perm level)
    (otherByName : other.Pairwise fun first second => first.1 ≤ second.1) : sorted = other := by
  refine List.Perm.eq_of_pairwise ?_ byName otherByName (same.trans otherSame.symm)
  intro first second member otherMember before after
  exact List.inj_on_of_nodup_map unique (same.mem_iff.mp member) (otherSame.mem_iff.mp otherMember)
    (String.le_antisymm before after)

namespace ProtoText

/-! ## Sources -/

/-- What may set file options: an option of the run of its own, a further file option that is given
to the run, or an annotation of a package or a file. -/
inductive OptionSource where
  | dedicated (name : String) (value : Value)
  | further (name : String) (value : Value)
  | annotated (note : Annotation)

/-- A source sets a file option to a value.  The own options of a run and those
of `package` annotations count only when they are given; further options and
those of `option` annotations count even with an empty value. -/
inductive OptionSource.Sets : OptionSource → String → Value → Prop where
  | dedicated {name : String} {value : Value} (given : value.isTruthy = true) :
      Sets (.dedicated name value) name value
  | further {name : String} {value : Value} : Sets (.further name value) name value
  | package {note : Annotation} {name content : String} (own : note.goesBy ["package"] = .ok true)
      (listed : name ∈ packageOptionKeys) (stated : note.string? name = some content)
      (given : content ≠ "") : Sets (.annotated note) name (.text content)
  | option {note : Annotation} {name content : String} (own : note.goesBy ["option"] = .ok true)
      (named : note.string? "name" = some name) (given : name ≠ "")
      (stated : note.string? "value" = some content) : Sets (.annotated note) name (.text content)

/-- The options of the run that go into the table of file options. -/
def dedicatedSources (options : Options) : List OptionSource :=
  [.dedicated "go_package" options.goPackage, .dedicated "java_package" options.javaPackage,
    .dedicated "java_outer_classname" options.javaOuterClassname]

/-- The sources that override the options of the run.  Annotations come behind
the further options of the run and override them too. -/
def laterSources (members : List (String × Value)) (notes : List Annotation) : List OptionSource :=
  members.map (fun member => .further member.1 member.2) ++ notes.map .annotated

/-- All sources of file options, each one before those that override it: the
run's own options, its further options, and the annotations of packages and then
of files. -/
def optionSources (options : Options) (members : List (String × Value))
    (packages files : LevelAnnotations) : List OptionSource :=
  dedicatedSources options ++ .dedicated "optimize_for" options.optimizeFor ::
    laterSources members (packages.flatMap (·.2) ++ files.flatMap (·.2))

/-- The last source that sets an option gives it a value.  Sources behind it may
be there, but none of them sets the option to anything. -/
def IsLastSet (sources : List OptionSource) (name : String) (value : Value) : Prop :=
  ∃ before source after, sources = before ++ source :: after ∧ source.Sets name value ∧
    ∀ later ∈ after, ∀ other, ¬later.Sets name other

theorem isLastSet_concat_iff {sources : List OptionSource} {source : OptionSource} {name : String}
    {value : Value} :
    IsLastSet (sources ++ [source]) name value ↔
      source.Sets name value ∨ (∀ other, ¬source.Sets name other) ∧
        IsLastSet sources name value := by
  constructor
  · rintro ⟨before, setter, after, split, set, unset⟩
    rcases List.eq_nil_or_concat after with rfl | ⟨rest, last, rfl⟩
    · cases List.singleton_inj.mp (List.append_inj' split rfl).2
      exact Or.inl set
    · rw [List.concat_eq_append] at split unset
      rw [← List.cons_append, ← List.append_assoc] at split
      rcases List.append_inj' split rfl with ⟨rfl, same⟩
      cases List.singleton_inj.mp same
      refine Or.inr ⟨unset source (List.mem_append_right _ List.mem_cons_self), before,
        setter, rest, rfl, set, fun later member => unset later (List.mem_append_left _ member)⟩
  · rintro (set | ⟨passed, before, setter, after, rfl, set, unset⟩)
    · exact ⟨sources, source, [], rfl, set, fun later member => (List.not_mem_nil member).elim⟩
    · refine ⟨before, setter, after ++ [source],
        by rw [List.append_assoc, List.cons_append], set, ?_⟩
      intro later member
      rcases List.mem_append.mp member with earlier | last
      · exact unset later earlier
      · rw [List.mem_singleton.mp last]
        exact passed

/-! ## What one source sets -/

/-- An annotation goes by one of the two names at most. -/
theorem isNamed_option_eq_false {note : Annotation} (own : note.isNamed ["package"] = true) :
    note.isNamed ["option"] = false :=
  Annotation.isNamed_eq_false (by decide) (by decide) own

namespace OptionSource

/-- The settings that a source adds to the table of file options.  Empty settings
of the run and of packages add none, whereas an `option` annotation may set an
empty value. -/
def settings : OptionSource → FileOptions
  | dedicated name value => if value.isTruthy then [(.text name, value)] else []
  | further name value => [(.text name, value)]
  | annotated note =>
      if note.isNamed ["package"] then packageOptions note
      else if note.isNamed ["option"] then statedOption note
      else []

theorem annotationOptions_eq {note : Annotation} (text : note.hasTextName = true) :
    annotationOptions note = .ok (annotated note).settings := by
  rw [annotationOptions, note.goesBy_eq ["package"], note.goesBy_eq ["option"], if_pos text,
    if_pos text, settings, ok_bind]
  cases note.isNamed ["package"]
  · cases note.isNamed ["option"] <;> rfl
  · rfl

theorem mem_packageOptions_iff {note : Annotation} {setting : Value × Value} :
    setting ∈ packageOptions note ↔ ∃ name ∈ packageOptionKeys, ∃ content,
      note.string? name = some content ∧ content ≠ "" ∧ setting = (.text name, .text content) := by
  rw [packageOptions, List.mem_filterMap]
  constructor
  · rintro ⟨param, -, found⟩
    split at found
    · rename_i listed
      rw [note.nonempty?_string] at found
      rcases Option.map_eq_some_iff.mp found with ⟨content, stated, rfl⟩
      rcases bind_nonempty?_eq_some_iff.mp stated with ⟨given, other⟩
      exact ⟨param.1, List.contains_iff_mem.mp listed, content, given, other, rfl⟩
    · cases found
  · rintro ⟨name, listed, content, given, other, rfl⟩
    rcases Option.bind_eq_some_iff.mp given with ⟨value, among, -⟩
    refine ⟨(name, value), mem_of_lookupKey? among, ?_⟩
    rw [if_pos (List.contains_iff_mem.mpr listed), note.nonempty?_string,
      bind_nonempty?_eq_some_iff.mpr ⟨given, other⟩]
    rfl

theorem mem_statedOption_iff {note : Annotation} {setting : Value × Value} :
    setting ∈ statedOption note ↔ ∃ name content, note.string? "name" = some name ∧ name ≠ "" ∧
      note.string? "value" = some content ∧ setting = (.text name, .text content) := by
  rw [statedOption, note.nonempty?_string]
  constructor
  · intro member
    split at member
    · rename_i name content named stated
      rcases bind_nonempty?_eq_some_iff.mp named with ⟨given, other⟩
      exact ⟨name, content, given, other, stated, List.mem_singleton.mp member⟩
    · cases member
  · rintro ⟨name, content, given, other, stated, rfl⟩
    rw [bind_nonempty?_eq_some_iff.mpr ⟨given, other⟩, stated]
    exact List.mem_singleton_self _

/-- The settings of a source are the options that it sets. -/
theorem mem_settings_iff {source : OptionSource} {setting : Value × Value} :
    setting ∈ source.settings ↔ ∃ name, setting.1 = .text name ∧ source.Sets name setting.2 := by
  cases source with
  | dedicated name value =>
      rw [settings]
      constructor
      · intro member
        split at member
        · rename_i given
          rw [List.mem_singleton.mp member]
          exact ⟨name, rfl, .dedicated given⟩
        · cases member
      · rcases setting with ⟨key, _⟩
        rintro ⟨_, rfl : key = _, ⟨given⟩⟩
        rw [if_pos given]
        exact List.mem_singleton_self _
  | further name value =>
      constructor
      · intro member
        rw [List.mem_singleton.mp member]
        exact ⟨name, rfl, .further⟩
      · rcases setting with ⟨key, _⟩
        rintro ⟨_, rfl : key = _, ⟨⟩⟩
        exact List.mem_singleton_self _
  | annotated note =>
      rw [settings]
      constructor
      · intro member
        split at member
        · rename_i own
          rcases mem_packageOptions_iff.mp member with ⟨name, listed, content, stated, given, rfl⟩
          exact ⟨name, rfl, .package (goesBy_eq_ok_true_iff.mpr own) listed stated given⟩
        · split at member
          · rename_i own
            rcases mem_statedOption_iff.mp member with ⟨name, content, named, given, stated, rfl⟩
            exact ⟨name, rfl, .option (goesBy_eq_ok_true_iff.mpr own) named given stated⟩
          · cases member
      · rcases setting with ⟨key, value⟩
        rintro ⟨name, rfl : key = _, set⟩
        cases set with
        | package own listed stated given =>
            rw [if_pos (goesBy_eq_ok_true_iff.mp own)]
            exact mem_packageOptions_iff.mpr ⟨name, listed, _, stated, given, rfl⟩
        | option own named given stated =>
            have named' := goesBy_eq_ok_true_iff.mp own
            have other : ¬note.isNamed ["package"] = true := fun package =>
              absurd named' (Bool.eq_false_iff.mp (isNamed_option_eq_false package))
            rw [if_neg other, if_pos named']
            exact mem_statedOption_iff.mpr ⟨name, _, named, given, stated, rfl⟩

/-- A source gives one value to a name. -/
theorem Sets.unique {source : OptionSource} {name : String} {value other : Value}
    (set : source.Sets name value) (again : source.Sets name other) : other = value := by
  cases set with
  | dedicated given =>
      cases again
      rfl
  | further =>
      cases again
      rfl
  | package own listed stated given =>
      cases again with
      | package _ _ same _ => rw [Option.some.inj (stated.symm.trans same)]
      | option other _ _ _ =>
          exact absurd (goesBy_eq_ok_true_iff.mp other) (Bool.eq_false_iff.mp
            (isNamed_option_eq_false (goesBy_eq_ok_true_iff.mp own)))
  | option own named given stated =>
      cases again with
      | package other _ _ _ =>
          exact absurd (goesBy_eq_ok_true_iff.mp own) (Bool.eq_false_iff.mp
            (isNamed_option_eq_false (goesBy_eq_ok_true_iff.mp other)))
      | option _ _ _ same => rw [Option.some.inj (stated.symm.trans same)]

theorem Sets.name_eq {own name : String} {value other : Value}
    (set : (OptionSource.dedicated own value).Sets name other) : own = name := by
  cases set
  rfl

/-- The table of one source has what it sets. -/
theorem lookupKey?_setKeys_settings {source : OptionSource} {name : String} {value : Value} :
    lookupKey? (.text name) (setKeys source.settings) = some value ↔ source.Sets name value := by
  have sets : ∀ {found}, lookupKey? (.text name) (setKeys source.settings) = some found →
      source.Sets name found := by
    intro found result
    rw [lookupKey?_setKeys] at result
    rcases mem_settings_iff.mp (List.mem_reverse.mp (mem_of_lookupKey?_text result)) with
      ⟨_, ⟨⟩, set⟩
    exact set
  refine ⟨sets, fun set => ?_⟩
  have given : (lookupKey? (.text name) (setKeys source.settings)).isSome = true :=
    isSome_lookupKey?_setKeys_iff.mpr
      ⟨(.text name, value), mem_settings_iff.mpr ⟨name, rfl, set⟩, rfl⟩
  rcases Option.isSome_iff_exists.mp given with ⟨found, result⟩
  rw [result, (sets result).unique set]

end OptionSource

/-! ## The table of all sources -/

/-- The table of file options that sources make one after the other.  A later
setting replaces the value of an earlier one and keeps its place. -/
def optionTable (sources : List OptionSource) : FileOptions :=
  setKeys (sources.flatMap (·.settings))

theorem lookupKey?_optionTable_append (name : String) (sources others : List OptionSource) :
    lookupKey? (.text name) (optionTable (sources ++ others)) =
      (lookupKey? (.text name) (optionTable others)).or
        (lookupKey? (.text name) (optionTable sources)) := by
  rw [optionTable, List.flatMap_append, lookupKey?_setKeys_append]
  rfl

/-- A table has under a name what the last source sets that sets the name. -/
theorem lookupKey?_optionTable_iff {sources : List OptionSource} {name : String} {value : Value} :
    lookupKey? (.text name) (optionTable sources) = some value ↔ IsLastSet sources name value := by
  induction sources using List.reverseRecOn generalizing value with
  | nil =>
      constructor
      · intro found
        cases found
      · rintro ⟨before, source, after, split, -⟩
        exact absurd split.symm (List.append_ne_nil_of_right_ne_nil _ (List.cons_ne_nil _ _))
  | append_singleton sources source ih =>
      have own : optionTable [source] = setKeys source.settings := by
        rw [optionTable, List.flatMap_singleton]
      rw [lookupKey?_optionTable_append, own, isLastSet_concat_iff, ← ih]
      simp only [← OptionSource.lookupKey?_setKeys_settings]
      cases lookupKey? (.text name) (setKeys source.settings) with
      | some found => simp
      | none => simp

theorem lookupKey?_optionTable_eq_none {sources : List OptionSource} {name : String}
    (unset : ∀ source ∈ sources, ∀ value, ¬source.Sets name value) :
    lookupKey? (.text name) (optionTable sources) = none := by
  refine Option.eq_none_iff_forall_ne_some.mpr fun value found => ?_
  rcases lookupKey?_optionTable_iff.mp found with ⟨before, source, after, rfl, set, -⟩
  exact unset source (List.mem_append_right _ List.mem_cons_self) value set

/-- The names in a table are texts, and none of them appears twice. -/
theorem exists_optionTable_eq (sources : List OptionSource) :
    ∃ table : List (String × Value), optionTable sources = Members.ofTexts table ∧
      (table.map (·.1)).Nodup := by
  have named : ∃ pairs, sources.flatMap (·.settings) = Members.ofTexts pairs := by
    have texts : sources.flatMap (·.settings) ∈
        Set.range (List.map fun pair : String × Value => (Value.text pair.1, pair.2)) := by
      rw [Set.range_list_map]
      intro setting member
      rcases List.mem_flatMap.mp member with ⟨source, -, stated⟩
      rcases OptionSource.mem_settings_iff.mp stated with ⟨name, key, -⟩
      exact ⟨(name, setting.2), Prod.ext key.symm rfl⟩
    rcases texts with ⟨pairs, same⟩
    exact ⟨pairs, same.symm⟩
  rcases named with ⟨pairs, same⟩
  exact ⟨setKeys pairs, by rw [optionTable, same, setKeys_ofTexts], nodup_keys_setKeys pairs⟩

section Gathering

variable {options : Options} {model : Model} {members : List (String × Value)}

theorem flatMap_dedicatedSources (options : Options) :
    (dedicatedSources options).flatMap (·.settings) = dedicatedOptions options := by
  simp only [dedicatedSources, List.flatMap_cons, List.flatMap_nil, OptionSource.settings,
    dedicatedOptions, Members.ofTexts, List.filter_cons, List.filter_nil]
  cases options.goPackage.isTruthy <;> cases options.javaPackage.isTruthy <;>
    cases options.javaOuterClassname.isTruthy <;> rfl

theorem flatMap_laterSources (members : List (String × Value)) (notes : List Annotation) :
    (laterSources members notes).flatMap (·.settings) =
      Members.ofTexts members ++ notes.flatMap fun note =>
        (OptionSource.annotated note).settings := by
  have further : (members.map fun member => OptionSource.further member.1 member.2).flatMap
      (·.settings) = Members.ofTexts members := by
    induction members with
    | nil => rfl
    | cons member members ih =>
        rw [List.map_cons, List.flatMap_cons, ih]
        rfl
  rw [laterSources, List.flatMap_append, further, List.flatMap_map]

/-- The table is gathered from all sources but the option of the run for the goal. -/
theorem allOptions_eq
    (given : (askGiven options.fileOptions >>= furtherOptions) = .ok (Members.ofTexts members))
    (texts : model.levelAnnotations.all Annotation.hasTextName = true) :
    allOptions options model =
      .ok (optionTable (dedicatedSources options ++
        laterSources members model.levelAnnotations)) := by
  have annotated : model.levelAnnotations.mapM annotationOptions =
      .ok (model.levelAnnotations.map fun note => (OptionSource.annotated note).settings) := by
    rw [mapM_eq_ok_iff, List.forall₂_map_right_iff, List.forall₂_same]
    exact fun note member => OptionSource.annotationOptions_eq
      (List.all_eq_true.mp texts note member)
  rcases bind_eq_ok_iff.mp given with ⟨value, asked, read⟩
  rw [allOptions, optionSettings, asked, ok_bind, read, ok_bind, annotated, ok_bind, optionTable,
    List.flatMap_append, flatMap_dedicatedSources, flatMap_laterSources, ← List.append_assoc,
    List.flatMap_def]
  rfl

/-! ## The goal and the other options -/

/-- The goal is the one in the table, or else that of the run: of all sources, the last one sets
it. -/
theorem getD_optionTable_eq_iff {later : List OptionSource} {value : Value}
    (given : value.isTruthy = true) :
    (lookupKey? (.text "optimize_for") (optionTable (dedicatedSources options ++ later))).getD
        options.optimizeFor = value ↔
      IsLastSet (dedicatedSources options ++ .dedicated "optimize_for" options.optimizeFor :: later)
        "optimize_for" value := by
  have front : lookupKey? (.text "optimize_for") (optionTable (dedicatedSources options)) =
      none := by
    refine lookupKey?_optionTable_eq_none fun source member value set => ?_
    simp only [dedicatedSources, List.mem_cons, List.not_mem_nil, or_false] at member
    rcases member with rfl | rfl | rfl <;> exact absurd set.name_eq (by decide)
  have own : options.optimizeFor = value ↔ lookupKey? (.text "optimize_for")
      (optionTable [.dedicated "optimize_for" options.optimizeFor]) = some value := by
    rw [optionTable, List.flatMap_singleton, OptionSource.lookupKey?_setKeys_settings]
    constructor
    · rintro rfl
      exact .dedicated given
    · rintro ⟨-⟩
      rfl
  rw [← lookupKey?_optionTable_iff, ← List.singleton_append, lookupKey?_optionTable_append,
    lookupKey?_optionTable_append, lookupKey?_optionTable_append, front, Option.or_none,
    Option.or_none]
  cases lookupKey? (.text "optimize_for") (optionTable later) with
  | some found => rw [Option.getD_some, Option.some_or, Option.some.injEq]
  | none => rw [Option.getD_none, Option.none_or, own]

/-- Where the option of the run for the goal stands does not matter to other options. -/
theorem lookupKey?_optionTable_of_ne {later : List OptionSource} {name : String}
    (other : name ≠ "optimize_for") :
    lookupKey? (.text name) (optionTable (dedicatedSources options ++
        .dedicated "optimize_for" options.optimizeFor :: later)) =
      lookupKey? (.text name) (optionTable (dedicatedSources options ++ later)) := by
  have own : lookupKey? (.text name)
      (optionTable [.dedicated "optimize_for" options.optimizeFor]) = none := by
    refine lookupKey?_optionTable_eq_none fun source member value set => ?_
    rw [List.mem_singleton.mp member] at set
    exact other set.name_eq.symm
  rw [← List.singleton_append, lookupKey?_optionTable_append, lookupKey?_optionTable_append, own,
    Option.or_none, lookupKey?_optionTable_append]

/-- The goal of a run and its other options are what all sources set last. -/
theorem exists_fileOptions
    (given : (askGiven options.fileOptions >>= furtherOptions) = .ok (Members.ofTexts members))
    (texts : model.levelAnnotations.all Annotation.hasTextName = true) :
    ∃ (goal : Value) (others : List (String × Value)),
      fileOptions options model = .ok (goal, Members.ofTexts others) ∧
      (∀ value, value.isTruthy = true → (goal = value ↔ IsLastSet (dedicatedSources options ++
        .dedicated "optimize_for" options.optimizeFor ::
          laterSources members model.levelAnnotations) "optimize_for" value)) ∧
      (others.map (·.1)).Nodup ∧
      ∀ name value, (name, value) ∈ others ↔ name ≠ "optimize_for" ∧
        IsLastSet (dedicatedSources options ++ .dedicated "optimize_for" options.optimizeFor ::
          laterSources members model.levelAnnotations) name value := by
  rcases exists_optionTable_eq (dedicatedSources options ++
    laterSources members model.levelAnnotations) with ⟨table, named, unique⟩
  have others : (Members.ofTexts table).filter (fun setting => !(setting.1 == .text optimizeKey)) =
      Members.ofTexts (table.filter fun entry => !(entry.1 == optimizeKey)) := by
    rw [Members.ofTexts, List.filter_map]
    simp only [Function.comp_def, Value.text_beq_text]
    rfl
  refine ⟨_, table.filter fun entry => !(entry.1 == optimizeKey), ?_,
    fun value truthy => getD_optionTable_eq_iff truthy, ?_, fun name value => ?_⟩
  · rw [fileOptions, allOptions_eq given texts, ok_bind, ← others, ← named]
    rfl
  · exact (List.filter_sublist.map _).nodup unique
  · rw [List.mem_filter, Bool.not_eq_true', beq_eq_false_iff_ne, and_comm]
    refine and_congr_right fun other => ?_
    rw [← lookupKey?_optionTable_iff, lookupKey?_optionTable_of_ne other, named, lookupKey?_ofTexts,
      lookupKey?_eq_some_iff unique]

end Gathering

/-- The lines of options whose names are texts have the names in strictly increasing order. -/
theorem exists_optionLines {table : List (String × Value)} (unique : (table.map (·.1)).Nodup) :
    ∃ entries : List (String × Value), (entries.map (·.1)).Pairwise (· < ·) ∧
      (∀ entry, entry ∈ entries ↔ entry ∈ table) ∧ ∀ goal,
        optionLines goal (Members.ofTexts table) = .ok (paragraph (optimizeLine goal ++
          String.join (entries.map fun entry => optionLine (.text entry.1) entry.2))) := by
  rcases Value.exists_inOrder_of_nodup unique with ⟨sorted, ordered, increasing, among⟩
  refine ⟨sorted.map fun name => (name, (lookupKey? name table).getD .null), ?_, ?_, fun goal => ?_⟩
  · rw [List.map_map]
    exact (List.map_id sorted).symm ▸ increasing
  · rintro ⟨name, value⟩
    rw [List.mem_map, ← lookupKey?_eq_some_iff unique]
    constructor
    · rintro ⟨key, member, same⟩
      rcases Prod.mk.inj same with ⟨rfl, rfl⟩
      rcases List.mem_map.mp ((among key).mp member) with ⟨⟨_, stated⟩, there, rfl⟩
      rw [(lookupKey?_eq_some_iff unique).mpr there, Option.getD_some]
    · intro found
      have there := (lookupKey?_eq_some_iff unique).mp found
      exact ⟨name, (among name).mpr (List.mem_map_of_mem there), by rw [found, Option.getD_some]⟩
  · have names : (Members.ofTexts table).map (·.1) = (table.map (·.1)).map Value.text := by
      rw [Members.ofTexts, List.map_map, List.map_map]
      rfl
    rw [optionLines, names, ordered, ok_bind, List.map_map, List.map_map]
    simp only [Function.comp_def, lookupKey?_ofTexts]
    rfl

/-! ## The block of options -/

/-- The part of a file in which its options are written. -/
def optionBlock (options : Options) (model : Model) : Asked String := do
  let found ← fileOptions options model
  optionLines found.1 found.2

/-- The block stands in the head of a file, behind the package and before the imports. -/
theorem header_eq_optionBlock (context : SchemaContext) (schema : SchemaUnit)
    (plans : List MessagePlan) (services : List Service) :
    header context schema plans services = do
      let package ← packageName context.options schema
      let block ← optionBlock context.options schema.model
      let paths ← imports context schema plans services
      return editionLine context.options.edition ++ packageLine package ++ block
        ++ importLines paths := by
  simp only [header, optionBlock, bind_assoc]

/-- The options of a file are those of the last source that sets each name: the options of the run,
the further file options, the annotations of packages by name and those of files by name.  The goal
of optimisation comes first and without quotes, unless it is empty, and the other options follow in
strictly increasing order of their names. -/
theorem optionBlock_last_set {options : Options} {model : Model} {members : List (String × Value)}
    (given : (askGiven options.fileOptions >>= furtherOptions) = .ok (Members.ofTexts members))
    (texts : model.levelAnnotations.all Annotation.hasTextName = true) :
    ∃ (packages files : LevelAnnotations) (goal : Option Value) (entries : List (String × Value)),
      (packages.Perm model.packageAnnotations ∧
        packages.Pairwise fun first second => first.1 ≤ second.1) ∧
      (files.Perm model.fileAnnotations ∧ files.Pairwise fun first second => first.1 ≤ second.1) ∧
      (∀ value, goal = some value ↔ value.isTruthy = true ∧
        IsLastSet (optionSources options members packages files) "optimize_for" value) ∧
      (entries.map (·.1)).Pairwise (· < ·) ∧
      (∀ name value, (name, value) ∈ entries ↔
        name ≠ "optimize_for" ∧ IsLastSet (optionSources options members packages files)
          name value) ∧
      optionBlock options model = .ok (paragraph
        (goal.elim "" (fun value => "option optimize_for = " ++ value.display ++ ";\n") ++
          String.join (entries.map fun entry =>
            "option " ++ entry.1 ++ " = \"" ++ entry.2.display ++ "\";\n"))) := by
  rcases Model.exists_inOrder model.packageAnnotations with ⟨packages, samePackages, byName, first⟩
  rcases Model.exists_inOrder model.fileAnnotations with ⟨files, sameFiles, byFile, second⟩
  have sources : optionSources options members packages files = dedicatedSources options ++
      .dedicated "optimize_for" options.optimizeFor ::
        laterSources members model.levelAnnotations := by
    rw [optionSources, Model.levelAnnotations, first, second]
  rcases exists_fileOptions given texts with ⟨goal, others, stated, last, unique, set⟩
  rcases exists_optionLines unique with ⟨entries, increasing, same, written⟩
  rw [← sources] at last set
  refine ⟨packages, files, if goal.isTruthy then some goal else none, entries,
    ⟨samePackages, byName⟩, ⟨sameFiles, byFile⟩, fun value => ?_, increasing,
    fun name value => (same (name, value)).trans (set name value), ?_⟩
  · constructor
    · intro chosen
      split at chosen
      · rename_i truthy
        cases chosen
        exact ⟨truthy, (last goal truthy).mp rfl⟩
      · cases chosen
    · rintro ⟨truthy, final⟩
      rw [(last value truthy).mpr final, if_pos truthy]
  · rw [optionBlock, stated, ok_bind, written goal, optimizeLine]
    split <;> rfl

/-- Further file options of a run. -/
def layeredMembers : List (String × Value) :=
  [("java_package", .text "run.java"), ("objc_class_prefix", .text "RU")]

def layeredOptions : Options :=
  { goPackage := .text "run", optimizeFor := .text "SPEED",
    fileOptions := some (.map (Members.ofTexts layeredMembers)) }

/-- Two packages and two files that set some of the same file options. -/
def layeredModel : Model :=
  { packageAnnotations :=
      [("web", [{ name := .text "package",
                  params := [("go_package", .text "web"), ("java_package", .text "")] }]),
        ("api", [{ name := .text "package",
                   params := [("go_package", .text "api"), ("java_package", .text "api.java")] }])]
    fileAnnotations :=
      [("web/page", [{ name := .text "option",
                       params := [("name", .text "objc_class_prefix"), ("value", .text "")] }]),
        ("api/user", [{ name := .text "option",
                        params := [("name", .text "objc_class_prefix"), ("value", .text "AU")] },
                      { name := .text "option",
                        params := [("name", .text "optimize_for"),
                          ("value", .text "CODE_SIZE")] }])] }

/-- The package that comes last by name sets one option and leaves the other one to the package
before it, as an empty text in a `package` annotation sets nothing.  In an `option` annotation it
does. -/
theorem optionBlock_last_set_layeredModel :
    (askGiven layeredOptions.fileOptions >>= furtherOptions) =
        .ok (Members.ofTexts layeredMembers) ∧
      layeredModel.levelAnnotations.all Annotation.hasTextName = true ∧
      ∃ entries : List (String × Value),
        ("go_package", .text "web") ∈ entries ∧ ("java_package", .text "api.java") ∈ entries ∧
        ("objc_class_prefix", .text "") ∈ entries ∧ (entries.map (·.1)).Pairwise (· < ·) ∧
        optionBlock layeredOptions layeredModel = .ok (paragraph
          ("option optimize_for = CODE_SIZE;\n" ++ String.join (entries.map fun entry =>
            "option " ++ entry.1 ++ " = \"" ++ entry.2.display ++ "\";\n"))) := by
  have given : (askGiven layeredOptions.fileOptions >>= furtherOptions) =
      .ok (Members.ofTexts layeredMembers) := rfl
  have texts : layeredModel.levelAnnotations.all Annotation.hasTextName = true := by
    rw [Model.levelAnnotations, List.all_append, Model.all_inOrder, Model.all_inOrder]
    rfl
  rcases optionBlock_last_set given texts with
    ⟨packages, files, goal, entries, ⟨samePackages, byName⟩, ⟨sameFiles, byFile⟩, last, increasing,
      set, written⟩
  have first : packages = layeredModel.packageAnnotations.reverse :=
    Model.eq_of_byName (by decide) samePackages byName (List.reverse_perm _) (by decide)
  have second : files = layeredModel.fileAnnotations.reverse :=
    Model.eq_of_byName (by decide) sameFiles byFile (List.reverse_perm _) (by decide)
  subst first second
  have goal : goal = some (.text "CODE_SIZE") :=
    (last _).mpr ⟨by decide, lookupKey?_optionTable_iff.mp rfl⟩
  rw [goal] at written
  exact ⟨given, texts, entries, (set _ _).mpr ⟨by decide, lookupKey?_optionTable_iff.mp rfl⟩,
    (set _ _).mpr ⟨by decide, lookupKey?_optionTable_iff.mp rfl⟩,
    (set _ _).mpr ⟨by decide, lookupKey?_optionTable_iff.mp rfl⟩, increasing, written⟩

end ProtoText

end WireSchema
