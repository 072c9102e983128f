import Mathlib.Data.List.Induction
import WireSchema.Proofs.Annotation.Query
import WireSchema.Proofs.Annotation.Tag
import WireSchema.Proofs.Text.Segments
import WireSchema.Schema.FieldRules

namespace WireSchema

/-!
# The name of a field in JSON

Annotations and the tag of a field may set its name in JSON.  The name is used in two places that
are computed apart from each other: as the name of the field in formats that follow JSON, and as an
option of the field in the schema.  The one takes the first name that an annotation sets, or else
that of the tag; the other collects options from annotations and then from the tag and keeps the
first one for each key.  As the options with this key come in the same order as the names, both have
the same name. An `option` annotation could put an option with this key in front of them, so it is
left aside here.
-/

open Asked
open Annotation (goesBy_eq_ok_iff)

/-! ## The options that are kept -/

namespace FieldOption

theorem distinct_concat (options : List FieldOption) (option : FieldOption) :
    distinct (options ++ [option]) =
      if (distinct options).any (·.key == option.key) then distinct options
      else distinct options ++ [option] := by
  rw [distinct, List.foldl_append]
  rfl

theorem mem_of_mem_distinct {options : List FieldOption} {option : FieldOption}
    (member : option ∈ distinct options) : option ∈ options := by
  induction options using List.reverseRecOn with
  | nil => exact member
  | append_singleton options last ih =>
      rw [distinct_concat] at member
      split at member
      · exact List.mem_append_left _ (ih member)
      · exact List.mem_append.mpr ((List.mem_append.mp member).imp_left ih)

/-- No key appears twice among the options that are kept. -/
theorem nodup_keys_distinct (options : List FieldOption) : ((distinct options).map key).Nodup := by
  induction options using List.reverseRecOn with
  | nil => exact List.nodup_nil
  | append_singleton options option ih =>
      rw [distinct_concat]
      split
      · exact ih
      · rename_i new
        rw [List.map_append, List.map_singleton, List.nodup_append]
        refine ⟨ih, List.pairwise_singleton _ _, ?_⟩
        rintro _ member _ single rfl
        rcases List.mem_map.mp member with ⟨other, among, same⟩
        rw [List.mem_singleton] at single
        exact new (List.any_eq_true.mpr ⟨other, among, beq_iff_eq.mpr (same.trans single)⟩)

/-- Of the options with one key the first one is kept. -/
theorem filter_distinct (options : List FieldOption) (name : String) :
    (distinct options).filter (·.key == name) = (options.find? (·.key == name)).toList := by
  induction options using List.reverseRecOn with
  | nil => rfl
  | append_singleton options option ih =>
      rw [distinct_concat, List.find?_append]
      cases own : option.key == name with
      | false =>
          have passed : [option].filter (·.key == name) = [] := by simp [own]
          rw [List.find?_cons, own, List.find?_nil, Option.or_none, ← ih]
          split
          · rfl
          · rw [List.filter_append, passed, List.append_nil]
      | true =>
          rw [List.find?_cons, own, beq_iff_eq.mp own]
          cases found : options.find? (·.key == name) with
          | some first =>
              rw [found] at ih
              have kept : first ∈ (distinct options).filter (·.key == name) :=
                ih ▸ List.mem_singleton_self first
              rw [if_pos (List.any_eq_true.mpr ⟨first, List.mem_filter.mp kept⟩)]
              exact ih
          | none =>
              rw [found] at ih
              have unseen := List.any_eq_false.mpr (List.filter_eq_nil_iff.mp ih)
              rw [if_neg (Bool.eq_false_iff.mp unseen), List.filter_append, ih]
              simp [own]

end FieldOption

/-! ## What sets the name -/

/-- A `field` annotation sets a name in JSON that is not empty.  An empty name
counts as none, and a later annotation can then set one. -/
def Annotation.SetsJsonName (note : Annotation) (name : String) : Prop :=
  note.goesBy ["field"] = .ok true ∧ note.string? "json_name" = some name ∧ name ≠ ""

/-- A tag sets a name in JSON that is not empty.  An empty one counts as not set,
as it does for annotations. -/
def TagInfo.SetsJsonName (tag : TagInfo) (name : String) : Prop :=
  lookupKey? "json_name" tag.options = some name ∧ name ≠ ""

/-- A `field` annotation of a field, or its tag, sets a name in JSON. -/
def DeclaredField.SetsJsonName (field : DeclaredField) (tag : TagInfo) (name : String) : Prop :=
  (∃ note ∈ field.annotations, note.SetsJsonName name) ∨ tag.SetsJsonName name

/-- The name in JSON that an annotation gives, if it is not empty. -/
def Annotation.jsonName? (note : Annotation) : Option String :=
  (note.string? "json_name").bind nonempty?

/-- The first name in JSON that `field` annotations set.  Annotations without one
are passed over, so that a later annotation can still give it. -/
def annotatedJsonName? (notes : List Annotation) : Option String :=
  (notes.filter (·.isNamed ["field"])).findSome? Annotation.jsonName?

theorem Annotation.setsJsonName_iff {note : Annotation} (text : note.hasTextName = true)
    {name : String} :
    note.SetsJsonName name ↔ note.isNamed ["field"] = true ∧ note.jsonName? = some name := by
  rw [SetsJsonName, goesBy_eq_ok_iff, jsonName?, bind_nonempty?_eq_some_iff]
  simp only [text, true_and]

open Annotation (setsJsonName_iff)

theorem TagInfo.setsJsonName_iff {tag : TagInfo} {name : String} :
    tag.SetsJsonName name ↔ DeclaredField.tagJsonName? tag = some name :=
  bind_nonempty?_eq_some_iff.symm

theorem exists_setsJsonName_of_annotatedJsonName? {notes : List Annotation} {name : String}
    (texts : ∀ note ∈ notes, note.hasTextName = true)
    (found : annotatedJsonName? notes = some name) : ∃ note ∈ notes, note.SetsJsonName name := by
  rcases List.exists_of_findSome?_eq_some found with ⟨note, member, given⟩
  rcases List.mem_filter.mp member with ⟨among, own⟩
  exact ⟨note, among, (setsJsonName_iff (texts note among)).mpr ⟨own, given⟩⟩

/-- The first annotation that sets a name decides. -/
theorem annotatedJsonName?_of_first {front back : List Annotation} {note : Annotation}
    {name : String} (texts : ∀ other ∈ front ++ note :: back, other.hasTextName = true)
    (unset : ∀ earlier ∈ front, ∀ other, ¬earlier.SetsJsonName other)
    (set : note.SetsJsonName name) :
    annotatedJsonName? (front ++ note :: back) = some name := by
  have none : annotatedJsonName? front = Option.none := by
    refine Option.eq_none_iff_forall_ne_some.mpr fun other found => ?_
    rcases exists_setsJsonName_of_annotatedJsonName?
      (fun earlier member => texts earlier (List.mem_append_left _ member)) found with
      ⟨earlier, member, sets⟩
    exact unset earlier member other sets
  rcases (setsJsonName_iff (texts note (List.mem_append_right _ List.mem_cons_self))).mp
    set with ⟨own, given⟩
  unfold annotatedJsonName? at none ⊢
  rw [List.filter_append, List.findSome?_append, none, Option.none_or, List.filter_cons_of_pos own,
    List.findSome?_cons, given]

theorem annotatedJsonName?_isSome {notes : List Annotation} {note : Annotation} {name : String}
    (texts : ∀ other ∈ notes, other.hasTextName = true) (among : note ∈ notes)
    (set : note.SetsJsonName name) : (annotatedJsonName? notes).isSome = true := by
  rcases (setsJsonName_iff (texts note among)).mp set with ⟨own, given⟩
  rw [annotatedJsonName?, List.findSome?_isSome_iff]
  exact ⟨note, List.mem_filter.mpr ⟨among, own⟩, by rw [given]; rfl⟩

/-! ## The options with its key -/

namespace FieldOption

/-- The key of an option is its name, unless the name has a blank in it. -/
theorem key_eq_name {option : FieldOption} (solid : ' ' ∉ option.name.toList) :
    option.key = option.name := by
  have whole : option.text.toList =
      option.name.toList ++ [' ', '='] ++ ' ' :: option.literal.toList := by
    rw [text, String.toList_append, String.toList_append, List.append_assoc, List.append_assoc]
    rfl
  rw [key, whole, Text.breakAt?_append solid]
  exact String.ofList_toList

theorem key_ofJsonName (name : String) : (ofJsonName name).key = "json_name" :=
  key_eq_name (by change ' ' ∉ "json_name".toList; decide)

theorem text_ofJsonName (name : String) :
    (ofJsonName name).text = "json_name = \"" ++ name ++ "\"" := by
  rw [text, ofJsonName, inQuotes, ← String.append_assoc, ← String.append_assoc]
  rfl

theorem find?_flagWhen {condition : Bool} {name : String} (solid : ' ' ∉ name.toList)
    (other : name ≠ "json_name") :
    (flagWhen condition name).find? (·.key == "json_name") = none := by
  rw [List.find?_eq_none]
  intro option member
  unfold flagWhen at member
  split at member
  · rw [List.mem_singleton.mp member, key_eq_name solid, beq_iff_eq]
    exact other
  · cases member

theorem find?_toList_map_ofJsonName (name : Option String) :
    (name.map ofJsonName).toList.find? (·.key == "json_name") = name.map ofJsonName := by
  cases name with
  | none => rfl
  | some name =>
      change List.find? (·.key == "json_name") [ofJsonName name] = some (ofJsonName name)
      rw [List.find?_cons, key_ofJsonName]
      rfl

theorem find?_ofFieldNote (note : Annotation) :
    List.find? (·.key == "json_name") (ofFieldNote note) =
      note.jsonName?.map ofJsonName := by
  unfold ofFieldNote
  rw [List.find?_append, List.find?_append, find?_flagWhen (by decide) (by decide),
    find?_flagWhen (by decide) (by decide), note.nonempty?_string, find?_toList_map_ofJsonName]
  rfl

theorem find?_ofTag (tag : TagInfo) :
    (ofTag tag).find? (·.key == "json_name") =
      (DeclaredField.tagJsonName? tag).map ofJsonName := by
  rw [ofTag, List.find?_append, List.find?_append, find?_flagWhen (by decide) (by decide),
    find?_flagWhen (by decide) (by decide), find?_toList_map_ofJsonName, Option.or_none,
    Option.or_none]
  rfl

/-- Among annotations none of which is an `option` annotation, the first name that is set is the
first option with its key. -/
theorem exists_ofAnnotations {notes : List Annotation}
    (noOption : ∀ note ∈ notes, note.goesBy ["option"] = .ok false) :
    ∃ options, ofAnnotations notes = .ok options ∧
      options.find? (·.key == "json_name") = (annotatedJsonName? notes).map ofJsonName := by
  induction notes with
  | nil => exact ⟨[], rfl, rfl⟩
  | cons note notes ih =>
      rcases List.forall_mem_cons.mp noOption with ⟨first, rest⟩
      rcases ih rest with ⟨others, stated, found⟩
      have text := (goesBy_eq_ok_iff.mp first).1
      unfold ofAnnotations ofAnnotation
      rw [note.goesBy_eq ["field"], if_pos text, first, stated]
      unfold annotatedJsonName? at found ⊢
      cases own : note.isNamed ["field"] with
      | true =>
          refine ⟨_, rfl, ?_⟩
          rw [List.find?_append, find?_ofFieldNote, found, List.filter_cons_of_pos own,
            List.findSome?_cons]
          cases note.jsonName? <;> rfl
      | false =>
          refine ⟨others, rfl, ?_⟩
          rw [found, List.filter_cons_of_neg (Bool.eq_false_iff.mp own)]

end FieldOption

/-! ## Both places -/

namespace DeclaredField

variable {model : Model} {field : DeclaredField} {tag : TagInfo}

/-- The name in JSON that the annotations of a field set, or else its tag.  All
`field` annotations are asked before the tag is. -/
def settledJsonName? (field : DeclaredField) (tag : TagInfo) : Option String :=
  (annotatedJsonName? field.annotations).or (tagJsonName? tag)

theorem jsonName_eq (texts : field.annotations.all Annotation.hasTextName = true)
    (tagged : model.tagOf field = .ok tag) :
    field.jsonName model =
      match field.settledJsonName? tag with
      | some name => .ok name
      | none => field.schemaName model := by
  have first : firstString? ["field"] "json_name" field.annotations =
      .ok (annotatedJsonName? field.annotations) := by
    rw [firstString?, annotationsNamed_of_text texts]
    rfl
  rw [jsonName, first, ok_bind, settledJsonName?]
  cases annotatedJsonName? field.annotations with
  | some name => rfl
  | none =>
      simp only [tagged, ok_bind, Option.none_or]
      cases tagJsonName? tag <;> rfl

/-- The options of a field hold the settled name and no other one. -/
theorem exists_fieldOptions
    (noOption : ∀ note ∈ field.annotations, note.goesBy ["option"] = .ok false)
    (tagged : model.tagOf field = .ok tag) :
    ∃ options, field.fieldOptions model = .ok options ∧ (options.map FieldOption.key).Nodup ∧
      options.filter (·.key == "json_name") =
        ((field.settledJsonName? tag).map FieldOption.ofJsonName).toList := by
  rcases FieldOption.exists_ofAnnotations noOption with ⟨annotated, stated, found⟩
  refine ⟨FieldOption.distinct (annotated ++ FieldOption.ofTag tag), ?_,
    FieldOption.nodup_keys_distinct _, ?_⟩
  · rw [fieldOptions, stated, ok_bind, tagged]
    rfl
  · rw [FieldOption.filter_distinct, List.find?_append, found, FieldOption.find?_ofTag,
      settledJsonName?, Option.map_or]

theorem settledJsonName?_isSome_iff (texts : ∀ note ∈ field.annotations, note.hasTextName = true) :
    (field.settledJsonName? tag).isSome = true ↔ ∃ name, field.SetsJsonName tag name := by
  rw [settledJsonName?, Option.isSome_or, Bool.or_eq_true_iff]
  constructor
  · rintro (annotated | tagged)
    · rcases Option.isSome_iff_exists.mp annotated with ⟨name, found⟩
      exact ⟨name, Or.inl (exists_setsJsonName_of_annotatedJsonName? texts found)⟩
    · rcases Option.isSome_iff_exists.mp tagged with ⟨name, found⟩
      exact ⟨name, Or.inr (TagInfo.setsJsonName_iff.mpr found)⟩
  · rintro ⟨name, ⟨note, among, set⟩ | set⟩
    · exact Or.inl (annotatedJsonName?_isSome texts among set)
    · exact Or.inr (Option.isSome_iff_exists.mpr ⟨name, TagInfo.setsJsonName_iff.mp set⟩)

/-- The options of a field without `option` annotations hold one for its name in JSON exactly when
an annotation or the tag sets one; there is one such option then, and the name in it is the one that
formats use.  Otherwise formats use the name in the schema.  The first annotation that sets a name
decides, whatever the tag says, and no two options have one key. -/
theorem jsonName_agrees
    (noOption : ∀ note ∈ field.annotations, note.goesBy ["option"] = .ok false)
    (tagged : model.tagOf field = .ok tag) :
    ∃ options, field.fieldOptions model = .ok options ∧ (options.map FieldOption.key).Nodup ∧
      ((∃ option ∈ options, option.key = "json_name") ↔ ∃ name, field.SetsJsonName tag name) ∧
      ((∃ name, field.SetsJsonName tag name) → ∃ name, field.jsonName model = .ok name ∧
        (options.filter (·.key == "json_name")).map FieldOption.text =
          ["json_name = \"" ++ name ++ "\""]) ∧
      ((¬∃ name, field.SetsJsonName tag name) →
        field.jsonName model = field.schemaName model) ∧
      ∀ front note back name, field.annotations = front ++ note :: back →
        (∀ earlier ∈ front, ∀ other, ¬earlier.SetsJsonName other) → note.SetsJsonName name →
        field.jsonName model = .ok name := by
  have texts : ∀ note ∈ field.annotations, note.hasTextName = true := fun note member =>
    (goesBy_eq_ok_iff.mp (noOption note member)).1
  have used := jsonName_eq (List.all_eq_true.mpr texts) tagged
  have settled := @settledJsonName?_isSome_iff field tag texts
  rcases exists_fieldOptions noOption tagged with ⟨options, stated, distinct, own⟩
  refine ⟨options, stated, distinct, ?_, ?_, ?_, ?_⟩
  · rw [← settled]
    constructor
    · rintro ⟨option, member, same⟩
      have kept : option ∈ options.filter (·.key == "json_name") :=
        List.mem_filter.mpr ⟨member, beq_iff_eq.mpr same⟩
      rw [own, Option.mem_toList] at kept
      rcases Option.map_eq_some_iff.mp kept with ⟨name, found, -⟩
      rw [found]
      rfl
    · intro set
      rcases Option.isSome_iff_exists.mp set with ⟨name, found⟩
      have kept : FieldOption.ofJsonName name ∈ options.filter (·.key == "json_name") := by
        rw [own, found]
        exact List.mem_singleton_self _
      exact ⟨_, (List.mem_filter.mp kept).1, FieldOption.key_ofJsonName name⟩
  · intro set
    rcases Option.isSome_iff_exists.mp (settled.mpr set) with ⟨name, found⟩
    rw [found] at used own
    refine ⟨name, used, ?_⟩
    rw [own, ← FieldOption.text_ofJsonName]
    rfl
  · intro unset
    rw [Option.not_isSome_iff_eq_none.mp (mt settled.mp unset)] at used
    exact used
  · intro front note back name split unset set
    rw [split] at texts
    rw [settledJsonName?, split, annotatedJsonName?_of_first texts unset set,
      Option.some_or] at used
    exact used

/-- A field whose tag sets another name in JSON than its annotations, of which the first one that
says something of it gives an empty name. -/
def renamedField : DeclaredField :=
  { name := .text "FullName", type := .named "string" ""
    tag := .text "proto:\"json_name=tagged\""
    annotations :=
      [{ name := .text "field", params := [("json_name", .text "")] },
        { name := .text "proto.field", params := [("json_name", .text "fullName")] },
        { name := .text "field", params := [("json_name", .text "other")] }] }

def renamedTag : TagInfo :=
  { options := [("json_name", "tagged")] }

theorem tagOf_renamedField : Model.tagOf {} renamedField = .ok renamedTag := by
  have holds : TagInfo.HasPairs [("proto", "json_name=tagged")]
      "proto:\"json_name=tagged\"".toList := by
    have whole : "proto:\"json_name=tagged\"".toList =
        [] ++ ("proto".toList ++ ':' :: '"' ::
          ("json_name=tagged".toList ++ '"' :: [])) := by decide
    have proto : "proto".toList.all Text.isWordChar = true := by decide
    rw [whole]
    exact .cons (List.forall_mem_nil _) (by decide) (List.all_eq_true.mp proto) (by decide)
      (.nil (List.forall_mem_nil _))
  rw [Model.tagOf_of_hasPairs {} rfl holds (List.cons_ne_nil _ _)]
  decide +kernel

/-- The second annotation decides, in both places. -/
theorem jsonName_agrees_renamedField :
    (∀ note ∈ renamedField.annotations, note.goesBy ["option"] = .ok false) ∧
      Model.tagOf {} renamedField = .ok renamedTag ∧ renamedTag.SetsJsonName "tagged" ∧
      renamedField.jsonName {} = .ok "fullName" ∧
      ∃ options, renamedField.fieldOptions {} = .ok options ∧
        (options.map FieldOption.key).Nodup ∧
        (options.filter (·.key == "json_name")).map FieldOption.text =
          ["json_name = \"fullName\""] := by
  have noOption : ∀ note ∈ renamedField.annotations, note.goesBy ["option"] = .ok false := by
    decide +kernel
  rcases jsonName_agrees noOption tagOf_renamedField with
    ⟨options, stated, distinct, -, agrees, -, first⟩
  have unset : ∀ earlier ∈ renamedField.annotations.take 1, ∀ other,
      ¬earlier.SetsJsonName other := by
    intro earlier member other set
    rw [List.mem_singleton.mp member] at set
    rcases set with ⟨-, same, given⟩
    exact given (Option.some.inj same).symm
  have second : (renamedField.annotations[1]).SetsJsonName "fullName" :=
    ⟨by decide +kernel, rfl, by decide⟩
  have used := first _ _ _ _ rfl unset second
  rcases agrees ⟨_, Or.inl ⟨_, List.getElem_mem _, second⟩⟩ with ⟨name, named, only⟩
  cases used.symm.trans named
  exact ⟨noOption, tagOf_renamedField, ⟨rfl, by decide⟩, used, options, stated, distinct, only⟩

end DeclaredField

end WireSchema
