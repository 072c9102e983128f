import Mathlib.Data.List.Induction
import Mathlib.Data.List.Nodup
import Mathlib.Data.List.Perm.Basic
import WireSchema.FilePlan.Partition
import WireSchema.Proofs.Document.Distinct
import WireSchema.Proofs.Failure
import WireSchema.Proofs.Schema.Resolution

namespace WireSchema

/-!
# Groups of declarations

A declaration has a place: a key, with the name and the file that the key gives.  The keys of
declarations are collected one declaration after the other, and the run of the collection is
described once, for all its outcomes.  It ends with the distinct places in the order in which they
first occur; or at the first place whose file belongs to another key; or at a declaration that has
no place, which is one with a value of the wrong kind.

The groups are the selections of the declarations by the keys collected.  As every declaration has
one key, and it is among them, the selections are a partition.
-/

namespace FilePlan

variable {options : Options} {declaration : Declaration} {entries : List Declaration}
  {known places : List KeyedFile} {keyed owner later : KeyedFile}

/-! ## Places -/

def placeOfKey (options : Options) (key : Value) : Asked KeyedFile := do
  let name ← groupName options.strategy? key
  keyedFile options.outputFileName key name

def place (options : Options) (declaration : Declaration) : Asked KeyedFile := do
  let key ← keyOf options declaration
  let key ← key.askKey
  placeOfKey options key

theorem key_of_keyedFile {pattern key name : Value}
    (found : keyedFile pattern key name = .ok keyed) :
    key = .text keyed.key := by
  rcases Asked.bind_eq_ok_iff.mp found with ⟨_, -, found⟩
  rcases Asked.bind_eq_ok_iff.mp found with ⟨_, -, found⟩
  rcases Asked.bind_eq_ok_iff.mp found with ⟨content, admitted, found⟩
  rcases Asked.bind_eq_ok_iff.mp found with ⟨_, -, found⟩
  cases found
  cases key with
  | text own =>
      cases admitted
      rfl
  | null | bool _ | int _ | float _ | date _ | list _ | map _ => cases admitted

/-- A declaration has a place where its key is a text that gives one. -/
theorem place_eq_ok_iff :
    place options declaration = .ok keyed ↔
      keyOf options declaration = .ok (.text keyed.key) ∧
        placeOfKey options (.text keyed.key) = .ok keyed := by
  constructor
  · intro found
    rcases Asked.bind_eq_ok_iff.mp found with ⟨own, asked, found⟩
    rcases Asked.bind_eq_ok_iff.mp found with ⟨key, isKey, found⟩
    have text : key = .text keyed.key := by
      rcases Asked.bind_eq_ok_iff.mp found with ⟨name, -, last⟩
      exact key_of_keyedFile last
    rw [Value.askKey] at isKey
    split at isKey
    · cases isKey
      rw [text] at asked found
      exact ⟨asked, found⟩
    · cases isKey
  · rintro ⟨asked, found⟩
    rw [place, asked]
    exact found

/-- Places of one key are one place. -/
theorem place_eq_of_key_eq {other : Declaration} (first : place options declaration = .ok owner)
    (second : place options other = .ok later) (same : owner.key = later.key) : owner = later := by
  have ofFirst := (place_eq_ok_iff.mp first).2
  have ofSecond := (place_eq_ok_iff.mp second).2
  rw [same] at ofFirst
  exact Except.ok.inj (ofFirst.symm.trans ofSecond)

/-! ## Collecting places -/

/-- Adds a place unless it is known.  Its file must not be that of another key:
two groups in one file would overwrite each other. -/
def addPlace (known : List KeyedFile) (keyed : KeyedFile) : Outcome (List KeyedFile) :=
  if keyed ∈ known then .ok known
  else
    match known.find? (·.file == keyed.file) with
    | some owner => .error (.generation (.sharedFile owner.key keyed.key keyed.file))
    | none => .ok (known ++ [keyed])

/-- A declaration is added by its place, as far as the known ones are places of declarations. -/
theorem addDeclaration_eq
    (declared : ∀ keyed ∈ known, ∃ entry ∈ entries, place options entry = .ok keyed)
    (declaration : Declaration) :
    addDeclaration options known declaration =
      Failure.liftShape (place options declaration) >>= addPlace known := by
  rw [addDeclaration, place]
  cases keyOf options declaration with
  | error fault => rfl
  | ok own =>
      rw [Failure.liftShape_ok, Failure.ok_bind, Asked.ok_bind, addKeyFile]
      cases own.askKey with
      | error fault => rfl
      | ok key =>
          rw [Failure.liftShape_ok, Failure.ok_bind, Asked.ok_bind]
          split
          · rename_i isKnown
            rcases List.any_eq_true.mp isKnown with ⟨keyed, member, same⟩
            rcases declared keyed member with ⟨entry, -, found⟩
            have again := (place_eq_ok_iff.mp found).2
            rw [Value.text_beq_iff.mp same, again, Failure.liftShape_ok, Failure.ok_bind, addPlace,
              if_pos member]
            rfl
          · rename_i isNew
            rw [placeOfKey]
            cases groupName options.strategy? key with
            | error fault => rfl
            | ok name =>
                rw [Failure.liftShape_ok, Failure.ok_bind, Asked.ok_bind]
                cases found : keyedFile options.outputFileName key name with
                | error fault => rfl
                | ok keyed =>
                    have absent : keyed ∉ known := by
                      intro member
                      refine isNew (List.any_eq_true.mpr ⟨keyed, member, ?_⟩)
                      exact Value.text_beq_iff.mpr (key_of_keyedFile found)
                    rw [Failure.liftShape_ok, Failure.ok_bind, Failure.ok_bind, addPlace,
                      if_neg absent]
                    rfl

/-- What is known after declarations have been added: their distinct places, in
the order in which they were first seen.  This is the invariant of the fold over
all declarations. -/
structure IsCollected (options : Options) (entries : List Declaration) (known : List KeyedFile) :
    Prop where
  placed : ∃ places, entries.mapM (place options) = .ok places ∧ known = places.eraseDups
  files : (known.map (·.file)).Nodup

/-- Two places of declarations that have different keys and one file.  Nothing is
said of their order, for the run fails whichever of the two comes first. -/
structure Collision (options : Options) (entries : List Declaration) (owner later : KeyedFile) :
    Prop where
  ofOwner : ∃ declaration ∈ entries, place options declaration = .ok owner
  ofLater : ∃ declaration ∈ entries, place options declaration = .ok later
  keys : owner.key ≠ later.key
  file : owner.file = later.file

theorem eraseDups_concat_of_mem (member : keyed ∈ places) :
    (places ++ [keyed]).eraseDups = places.eraseDups := by
  have none : [keyed].removeAll places = [] := by
    rw [List.removeAll, List.filter_cons_of_neg (by simp [member]), List.filter_nil]
  rw [List.eraseDups_append, none, List.eraseDups_nil, List.append_nil]

theorem eraseDups_concat_of_not_mem (absent : keyed ∉ places) :
    (places ++ [keyed]).eraseDups = places.eraseDups ++ [keyed] := by
  have one : [keyed].removeAll places = [keyed] := by
    rw [List.removeAll, List.filter_cons_of_pos (by simp [absent]), List.filter_nil]
  rw [List.eraseDups_append, one]
  rfl

namespace IsCollected

theorem mem_iff (collected : IsCollected options entries known) :
    keyed ∈ known ↔ ∃ declaration ∈ entries, place options declaration = .ok keyed := by
  rcases collected.placed with ⟨places, found, rfl⟩
  rw [List.mem_eraseDups]
  constructor
  · exact Asked.exists_of_mem_mapM found
  · rintro ⟨declaration, declared, own⟩
    rcases Asked.exists_mem_of_mapM found declared with ⟨result, member, same⟩
    cases own.symm.trans same
    exact member

theorem keys (collected : IsCollected options entries known) : (known.map (·.key)).Nodup := by
  refine List.Nodup.map_on ?_ collected.files.of_map
  intro first firstMember second secondMember same
  rcases collected.mem_iff.mp firstMember with ⟨_, -, ofFirst⟩
  rcases collected.mem_iff.mp secondMember with ⟨_, -, ofSecond⟩
  exact place_eq_of_key_eq ofFirst ofSecond same

theorem not_collision (collected : IsCollected options entries known) :
    ¬Collision options entries owner later := by
  intro collision
  have ofOwner := collected.mem_iff.mpr collision.ofOwner
  have ofLater := collected.mem_iff.mpr collision.ofLater
  have same := List.inj_on_of_nodup_map collected.files ofOwner ofLater collision.file
  exact collision.keys (congrArg KeyedFile.key same)

/-- What one more declaration makes of the collection: it is complete again, or the file of the new
place belongs to another key. -/
theorem addPlace_cases (collected : IsCollected options entries known)
    (found : place options declaration = .ok keyed) :
    (∃ result, addPlace known keyed = .ok result ∧
        IsCollected options (entries ++ [declaration]) result) ∨
      ∃ owner, addPlace known keyed =
          .error (.generation (.sharedFile owner.key keyed.key keyed.file)) ∧
        Collision options (entries ++ [declaration]) owner keyed := by
  rcases collected.placed with ⟨places, placed, distinct⟩
  have all : (entries ++ [declaration]).mapM (place options) = .ok (places ++ [keyed]) := by
    rw [List.mapM_append, placed, List.mapM_cons, found]
    rfl
  rw [addPlace]
  split
  · rename_i isKnown
    rw [distinct, List.mem_eraseDups] at isKnown
    refine Or.inl ⟨known, rfl, ⟨places ++ [keyed], all, ?_⟩, collected.files⟩
    rw [eraseDups_concat_of_mem isKnown, distinct]
  · rename_i isNew
    split
    · rename_i owner shared
      have member := List.mem_of_find?_eq_some shared
      have sameFile := List.find?_some shared
      have file : owner.file = keyed.file := beq_iff_eq.mp sameFile
      rcases collected.mem_iff.mp member with ⟨entry, declared, ofOwner⟩
      refine Or.inr ⟨owner, rfl, ?_⟩
      exact {
        ofOwner := ⟨entry, List.mem_append_left _ declared, ofOwner⟩
        ofLater := ⟨declaration, List.mem_append_right _ List.mem_cons_self, found⟩
        keys := by
          intro same
          rw [place_eq_of_key_eq ofOwner found same] at member
          exact isNew member
        file := file }
    · rename_i free
      have other : ∀ owner ∈ known, owner.file ≠ keyed.file := by
        intro owner member same
        exact List.find?_eq_none.mp free owner member (beq_iff_eq.mpr same)
      rw [distinct, List.mem_eraseDups] at isNew
      refine Or.inl ⟨known ++ [keyed], rfl, ⟨places ++ [keyed], all, ?_⟩, ?_⟩
      · rw [eraseDups_concat_of_not_mem isNew, distinct]
      · rw [List.map_append, List.map_singleton, List.nodup_append]
        refine ⟨collected.files, List.nodup_singleton _, ?_⟩
        intro file member last isLast
        rcases List.mem_map.mp member with ⟨owner, ownerMember, rfl⟩
        rw [List.mem_singleton.mp isLast]
        exact other owner ownerMember

end IsCollected

theorem Collision.concat (collision : Collision options entries owner later)
    (declaration : Declaration) : Collision options (entries ++ [declaration]) owner later where
  ofOwner := by
    rcases collision.ofOwner with ⟨entry, declared, found⟩
    exact ⟨entry, List.mem_append_left _ declared, found⟩
  ofLater := by
    rcases collision.ofLater with ⟨entry, declared, found⟩
    exact ⟨entry, List.mem_append_left _ declared, found⟩
  keys := collision.keys
  file := collision.file

/-- How the collection of places ends.  The induction is on the declarations from the last one, as
the collection goes on from what the earlier ones left. -/
theorem keyFiles_cases (options : Options) (entries : List Declaration) :
    (∃ known, keyFiles options entries = .ok known ∧ IsCollected options entries known) ∨
      (∃ owner later, keyFiles options entries =
          .error (.generation (.sharedFile owner.key later.key later.file)) ∧
        Collision options entries owner later) ∨
      ∃ declaration ∈ entries, ∃ fault, place options declaration = .error fault ∧
        keyFiles options entries = .error (.ofShape fault) := by
  induction entries using List.reverseRecOn with
  | nil => exact Or.inl ⟨[], rfl, ⟨[], rfl, rfl⟩, List.nodup_nil⟩
  | append_singleton entries declaration ih =>
      have step := Failure.foldlM_concat (addDeclaration options) [] entries declaration
      rcases ih with ⟨known, run, collected⟩ | ⟨owner, later, run, collision⟩ |
        ⟨entry, declared, fault, unplaced, run⟩
      · rw [← keyFiles, ← keyFiles, run, Failure.ok_bind,
          addDeclaration_eq fun keyed => collected.mem_iff.mp] at step
        cases found : place options declaration with
        | error fault =>
            rw [found] at step
            exact Or.inr (Or.inr ⟨declaration, List.mem_append_right _ List.mem_cons_self, fault,
              found, step⟩)
        | ok keyed =>
            rw [found, Failure.liftShape_ok, Failure.ok_bind] at step
            rcases collected.addPlace_cases found with ⟨result, added, again⟩ |
              ⟨owner, refused, collision⟩
            · exact Or.inl ⟨result, step.trans added, again⟩
            · exact Or.inr (Or.inl ⟨owner, keyed, step.trans refused, collision⟩)
      · rw [← keyFiles, ← keyFiles, run] at step
        exact Or.inr (Or.inl ⟨owner, later, step, collision.concat declaration⟩)
      · rw [← keyFiles, ← keyFiles, run] at step
        exact Or.inr (Or.inr ⟨entry, List.mem_append_left _ declared, fault, unplaced, step⟩)

/-! ## Selecting groups -/

def FileGroup.head (group : FileGroup) : KeyedFile :=
  { key := group.key, name := group.name, file := group.file }

/-- The declarations of a group: composite types, enumerations and services,
each kind in the order of the model. -/
def FileGroup.members (group : FileGroup) : List Declaration :=
  group.composites.map .composite ++ group.enums.map .enum ++ group.services.map .service

theorem hasKey_iff {key : String} :
    hasKey options key declaration = true ↔ keyOf options declaration = .ok (.text key) := by
  rw [hasKey]
  cases keyOf options declaration with
  | error fault => exact ⟨nofun, nofun⟩
  | ok own => rw [Value.beq_text_iff, Except.ok.injEq]

theorem members_groupOf (model : Model) (keyed : KeyedFile) :
    (groupOf options model keyed).members =
      (declarations model).filter (hasKey options keyed.key) := by
  rw [FileGroup.members, groupOf, declarations, List.filter_append, List.filter_append,
    List.filter_map, List.filter_map, List.filter_map]
  rfl

/-- Selections by tests of which every item passes exactly one make up the whole list. -/
theorem flatMap_filter_perm {α β : Type} (test : β → α → Bool) {tests : List β} {items : List α}
    (some : ∀ item ∈ items, ∃ own ∈ tests, test own item = true)
    (apart : tests.Pairwise fun first second => ∀ item ∈ items, test first item = true →
      test second item = false) :
    (tests.flatMap fun own => items.filter (test own)).Perm items := by
  induction tests generalizing items with
  | nil =>
      cases items with
      | nil => exact .nil
      | cons item items =>
          rcases some item List.mem_cons_self with ⟨own, absent, -⟩
          cases absent
  | cons first tests ih =>
      rcases List.pairwise_cons.mp apart with ⟨fromFirst, others⟩
      have rest : (tests.flatMap fun own =>
          (items.filter fun item => !test first item).filter (test own)).Perm
          (items.filter fun item => !test first item) := by
        apply ih
        · intro item member
          rcases List.mem_filter.mp member with ⟨declared, refused⟩
          rcases some item declared with ⟨own, ownMember, passed⟩
          rcases List.mem_cons.mp ownMember with rfl | later
          · rw [passed] at refused
            cases refused
          · exact ⟨own, later, passed⟩
        · refine others.imp ?_
          intro one other distinct item member
          exact distinct item (List.mem_of_mem_filter member)
      have unchanged : (tests.flatMap fun own =>
          (items.filter fun item => !test first item).filter (test own)) =
          tests.flatMap fun own => items.filter (test own) := by
        refine List.flatMap_congr fun own member => ?_
        rw [List.filter_filter]
        refine List.filter_congr fun item declared => ?_
        cases passed : test first item with
        | false => rw [Bool.not_false, Bool.and_true]
        | true => rw [fromFirst own member item declared passed, Bool.false_and]
      rw [List.flatMap_cons]
      exact ((unchanged ▸ rest).append_left _).trans (List.filter_append_perm (test first) items)

/-- What a partition of the declarations of a model is.  Each declaration is in
one group, that of its own key, in the order of the model; groups have different
keys and different files. -/
structure IsPartition (options : Options) (model : Model) (groups : List FileGroup) : Prop where
  /-- The key of a group is that of each of its declarations and gives its name and its file. -/
  own : ∀ group ∈ groups, ∀ declaration ∈ group.members,
    keyOf options declaration = .ok (.text group.key) ∧
      placeOfKey options (.text group.key) = .ok group.head
  one : ∀ declaration ∈ declarations model,
    ∃! group, group ∈ groups ∧ declaration ∈ group.members
  /-- Every declaration is put into a group as often as it is declared. -/
  whole : (groups.flatMap FileGroup.members).Perm (declarations model)
  order : ∀ group ∈ groups, group.members.Sublist (declarations model)
  firstSeen : declarations model ≠ [] → ∃ places,
    (declarations model).mapM (place options) = .ok places ∧
      groups.map FileGroup.head = places.eraseDups
  keys : (groups.map (·.key)).Nodup
  files : (groups.map (·.file)).Nodup
  single : declarations model = [] → ∃ group, groups = [group] ∧ group.members = [] ∧
    schemaKeyFile options = .ok group.head

theorem IsCollected.exists_place (collected : IsCollected options entries known)
    (declared : declaration ∈ entries) :
      ∃ keyed ∈ known, place options declaration = .ok keyed := by
  rcases collected.placed with ⟨places, placed, rfl⟩
  rcases Asked.exists_mem_of_mapM placed declared with ⟨keyed, member, found⟩
  exact ⟨keyed, List.mem_eraseDups.mpr member, found⟩

theorem IsCollected.isPartition {model : Model} (present : declarations model ≠ [])
    (collected : IsCollected options (declarations model) known) :
    IsPartition options model (known.map (groupOf options model)) where
  own group member declaration inside := by
    rcases List.mem_map.mp member with ⟨keyed, isKnown, rfl⟩
    rw [members_groupOf] at inside
    rcases collected.mem_iff.mp isKnown with ⟨_, -, found⟩
    exact ⟨hasKey_iff.mp (List.mem_filter.mp inside).2, (place_eq_ok_iff.mp found).2⟩
  one declaration declared := by
    rcases collected.exists_place declared with ⟨keyed, isKnown, found⟩
    have ownKey := (place_eq_ok_iff.mp found).1
    refine ⟨groupOf options model keyed, ⟨List.mem_map_of_mem isKnown, ?_⟩, ?_⟩
    · rw [members_groupOf]
      exact List.mem_filter.mpr ⟨declared, hasKey_iff.mpr ownKey⟩
    · rintro other ⟨member, inside⟩
      rcases List.mem_map.mp member with ⟨otherKeyed, otherKnown, rfl⟩
      rw [members_groupOf] at inside
      have otherKey := hasKey_iff.mp (List.mem_filter.mp inside).2
      have same : otherKeyed.key = keyed.key :=
        Value.text.inj (Except.ok.inj (otherKey.symm.trans ownKey))
      rw [List.inj_on_of_nodup_map collected.keys otherKnown isKnown same]
  whole := by
    simp only [List.flatMap_map, members_groupOf]
    apply flatMap_filter_perm
    · intro declaration declared
      rcases collected.exists_place declared with ⟨keyed, isKnown, found⟩
      exact ⟨keyed, isKnown, hasKey_iff.mpr (place_eq_ok_iff.mp found).1⟩
    · refine (List.pairwise_map.mp collected.keys).imp ?_
      intro first second different declaration _ ofFirst
      refine Bool.eq_false_iff.mpr fun ofSecond => ?_
      have same := (hasKey_iff.mp ofFirst).symm.trans (hasKey_iff.mp ofSecond)
      exact different (Value.text.inj (Except.ok.inj same))
  order group member := by
    rcases List.mem_map.mp member with ⟨keyed, -, rfl⟩
    rw [members_groupOf]
    exact List.filter_sublist
  firstSeen _ := by
    rcases collected.placed with ⟨places, placed, distinct⟩
    refine ⟨places, placed, ?_⟩
    rw [List.map_map, ← distinct]
    exact List.map_id known
  keys := by
    rw [List.map_map]
    exact collected.keys
  files := by
    rw [List.map_map]
    exact collected.files
  single absent := absurd absent present

theorem isPartition_single {model : Model} (absent : declarations model = [])
    (found : schemaKeyFile options = .ok keyed) :
    IsPartition options model [groupOf options {} keyed] where
  own group member declaration inside := by
    rw [List.mem_singleton.mp member] at inside
    cases inside
  one declaration declared := by
    rw [absent] at declared
    cases declared
  whole := by
    rw [absent]
    exact .nil
  order group member := by
    rw [List.mem_singleton.mp member]
    exact List.nil_sublist _
  firstSeen present := absurd absent present
  keys := List.nodup_singleton _
  files := List.nodup_singleton _
  single _ := ⟨groupOf options {} keyed, rfl, rfl, found⟩

/-! ## The outcome of the partition -/

/-- Declarations of two keys whose groups would have one file.  A name of a file
is made from the last part of a key, so that different keys can come to this. -/
def Collides (options : Options) (model : Model) : Prop :=
  ∃ owner later, Collision options (declarations model) owner later

theorem isPartition_of_ok {model : Model} {groups : List FileGroup}
    (divided : partition options model = .ok groups) :
    IsPartition options model groups ∧ ¬Collides options model := by
  rcases keyFiles_cases options (declarations model) with ⟨known, run, collected⟩ |
    ⟨owner, later, run, -⟩ | ⟨_, -, fault, -, run⟩
  · refine ⟨?_, fun ⟨owner, later, collision⟩ => collected.not_collision collision⟩
    rw [partition, run, Failure.ok_bind] at divided
    split at divided
    · rename_i none
      have absent : declarations model = [] := by
        refine List.eq_nil_iff_forall_not_mem.mpr fun declaration declared => ?_
        rcases collected.exists_place declared with ⟨keyed, isKnown, -⟩
        rw [List.isEmpty_iff.mp none] at isKnown
        cases isKnown
      cases found : schemaKeyFile options with
      | error fault =>
          rw [found] at divided
          cases divided
      | ok keyed =>
          rw [found] at divided
          cases divided
          exact isPartition_single absent found
    · rename_i some
      cases divided
      refine collected.isPartition fun absent => some ?_
      rcases collected.placed with ⟨places, placed, rfl⟩
      rw [absent] at placed
      cases placed
      rfl
  · rw [partition, run] at divided
    cases divided
  · rw [partition, run] at divided
    cases divided

/-- A declaration whose source file, package and namespace are texts, like the names of its
annotations. -/
structure Declaration.IsTyped (declaration : Declaration) : Prop where
  sourceFile : declaration.sourceFile.IsText
  package : declaration.package.IsText
  namespaceName : declaration.namespaceName.IsText
  notes : declaration.annotations.all Annotation.hasTextName = true

/-- Texts for all that the files of a model are named by.  A document may hold
other values there, of which no path can be made. -/
structure NamesFiles (options : Options) (model : Model) : Prop where
  schemaName : options.schemaName.IsText
  pattern : options.outputFileName.IsText
  entries : ∀ declaration ∈ declarations model, declaration.IsTyped

theorem succeeds_keyedFile {pattern key name : Value} (patternText : pattern.IsText)
    (keyText : key.IsText) (nameText : name.IsText) : (keyedFile pattern key name).Succeeds := by
  rcases keyText with ⟨keyContent, rfl⟩
  rcases nameText with ⟨nameContent, rfl⟩
  have read : (readPattern pattern).Succeeds := by
    rw [readPattern]
    split
    · exact patternText.succeeds_askReplaceable
    · exact Asked.succeeds_ok _
  refine read.bind fun _ _ => ?_
  have file : (schemaFileName pattern nameContent).Succeeds :=
    read.bind fun _ _ => Asked.succeeds_ok _
  exact file.bind fun _ _ => Asked.succeeds_ok _

theorem exists_groupName (strategy : Option Strategy) {key : Value} (keyText : key.IsText) :
    ∃ name, groupName strategy key = .ok (.text name) := by
  rcases keyText with ⟨content, rfl⟩
  unfold groupName
  split
  · exact ⟨_, rfl⟩
  · exact ⟨_, rfl⟩
  · exact ⟨content, rfl⟩

theorem NamesFiles.exists_key {model : Model} (typed : NamesFiles options model)
    (declared : declaration ∈ declarations model) :
    ∃ key, keyOf options declaration = .ok (.text key) := by
  have own := typed.entries declaration declared
  unfold keyOf Declaration.key
  split
  · rcases own.sourceFile.orElse typed.schemaName with ⟨key, same⟩
    exact ⟨key, congrArg Except.ok same⟩
  · rcases own.package.orElse typed.schemaName with ⟨key, same⟩
    exact ⟨key, congrArg Except.ok same⟩
  · rcases own.namespaceName.orElse (Value.isText_text "default") with ⟨key, same⟩
    have asked : (firstString? ["namespace"] "name" declaration.annotations).Succeeds :=
      succeeds_firstString? own.notes
    rcases asked with ⟨given, found⟩
    rw [Declaration.namespaceKey, found, Asked.ok_bind]
    cases given with
    | none => exact ⟨key, congrArg Except.ok same⟩
    | some name => exact ⟨name, rfl⟩
  · rcases typed.schemaName with ⟨key, same⟩
    exact ⟨key, congrArg Except.ok same⟩

theorem NamesFiles.succeeds_place {model : Model} (typed : NamesFiles options model)
    (declared : declaration ∈ declarations model) : (place options declaration).Succeeds := by
  rcases typed.exists_key declared with ⟨key, asked⟩
  rcases exists_groupName options.strategy? (Value.isText_text key) with ⟨name, named⟩
  have isKey : (Value.text key).askKey = .ok (.text key) := rfl
  rw [place, asked, Asked.ok_bind, isKey, Asked.ok_bind, placeOfKey, named, Asked.ok_bind]
  exact succeeds_keyedFile typed.pattern (Value.isText_text key) (Value.isText_text name)

/-- The partition of a model fails with a report exactly when two declarations have different keys
whose files are the same; the report names such keys and their file.  Otherwise there are groups,
and they partition the declarations. -/
theorem partition_exact (options : Options) (model : Model) (typed : NamesFiles options model) :
    ((∃ fault, partition options model = .error (.generation fault)) ↔ Collides options model) ∧
      (∀ failure, partition options model = .error failure → ∃ owner later,
        failure = .generation (.sharedFile owner.key later.key later.file) ∧
          Collision options (declarations model) owner later) ∧
      ((∃ groups, partition options model = .ok groups) ↔ ¬Collides options model) ∧
      ∀ groups, partition options model = .ok groups → IsPartition options model groups := by
  have refused : ∀ failure, partition options model = .error failure → ∃ owner later,
      failure = .generation (.sharedFile owner.key later.key later.file) ∧
        Collision options (declarations model) owner later := by
    intro failure result
    rcases keyFiles_cases options (declarations model) with ⟨known, run, collected⟩ |
      ⟨owner, later, run, collision⟩ | ⟨declaration, declared, fault, unplaced, -⟩
    · rcases succeeds_keyedFile typed.pattern typed.schemaName typed.schemaName with ⟨keyed, found⟩
      rw [partition, run, Failure.ok_bind, schemaKeyFile, found] at result
      split at result
      · cases result
      · cases result
    · rw [partition, run] at result
      cases result
      exact ⟨owner, later, rfl, collision⟩
    · rcases typed.succeeds_place declared with ⟨keyed, found⟩
      cases unplaced.symm.trans found
  have divided : (∃ groups, partition options model = .ok groups) ↔ ¬Collides options model := by
    constructor
    · rintro ⟨groups, result⟩
      exact (isPartition_of_ok result).2
    · intro apart
      cases result : partition options model with
      | ok groups => exact ⟨groups, rfl⟩
      | error failure =>
          rcases refused failure result with ⟨owner, later, -, collision⟩
          exact absurd ⟨owner, later, collision⟩ apart
  refine ⟨⟨?_, ?_⟩, refused, divided, fun groups result => (isPartition_of_ok result).1⟩
  · rintro ⟨fault, result⟩
    rcases refused _ result with ⟨owner, later, -, collision⟩
    exact ⟨owner, later, collision⟩
  · intro collides
    cases result : partition options model with
    | ok groups => exact absurd collides (divided.mp ⟨groups, result⟩)
    | error failure =>
        rcases refused failure result with ⟨owner, later, rfl, -⟩
        exact ⟨_, rfl⟩

/-- Options that divide declarations by their packages. -/
def byPackage : Options :=
  { strategy := .read .package }

/-- A composite type and a service of one package, with an enumeration of another one between. -/
def packagedModel (first second : String) : Model :=
  { composites := [{ name := .text "User", package := .text first }]
    enums := [{ name := .text "Role", package := .text second }]
    services := [{ name := .text "Users", package := .text first }] }

theorem namesFiles_packagedModel (first second : String) :
    NamesFiles byPackage (packagedModel first second) where
  schemaName := Value.isText_text _
  pattern := Value.isText_text _
  entries declaration declared := by
    have cases : declaration ∈ [Declaration.composite _, .enum _, .service _] := declared
    rw [List.mem_cons, List.mem_cons, List.mem_singleton] at cases
    rcases cases with rfl | rfl | rfl
    all_goals exact ⟨⟨_, rfl⟩, ⟨_, rfl⟩, ⟨_, rfl⟩, rfl⟩

theorem partition_exact_packagedModel :
    (∃ groups, partition byPackage (packagedModel "api/v1" "api/v2") = .ok groups ∧
      groups.map FileGroup.head = [⟨"api/v1", "v1", "v1.proto"⟩, ⟨"api/v2", "v2", "v2.proto"⟩] ∧
      IsPartition byPackage (packagedModel "api/v1" "api/v2") groups) ∧
    Collides byPackage (packagedModel "new/api" "old/api") ∧
      ∃ fault, partition byPackage (packagedModel "new/api" "old/api") =
        .error (.generation fault) := by
  have heads : ((partition byPackage (packagedModel "api/v1" "api/v2")).toOption.map
      (·.map FileGroup.head)) =
      some [⟨"api/v1", "v1", "v1.proto"⟩, ⟨"api/v2", "v2", "v2.proto"⟩] := by
    decide +kernel
  have first : place byPackage (.composite { name := .text "User", package := .text "new/api" }) =
      .ok ⟨"new/api", "api", "api.proto"⟩ := by
    decide +kernel
  have second : place byPackage (.enum { name := .text "Role", package := .text "old/api" }) =
      .ok ⟨"old/api", "api", "api.proto"⟩ := by
    decide +kernel
  have collides : Collides byPackage (packagedModel "new/api" "old/api") :=
    ⟨_, _, ⟨_, .head _, first⟩, ⟨_, .tail _ (.head _), second⟩, by decide, rfl⟩
  rcases Asked.exists_of_toOption_map heads with ⟨groups, divided, same⟩
  have apart := partition_exact byPackage _ (namesFiles_packagedModel "api/v1" "api/v2")
  have clashing := partition_exact byPackage _ (namesFiles_packagedModel "new/api" "old/api")
  exact ⟨⟨groups, divided, same, apart.2.2.2 groups divided⟩, collides, clashing.1.mpr collides⟩

end FilePlan

end WireSchema
