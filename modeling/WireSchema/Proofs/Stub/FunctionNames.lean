import WireSchema.Proofs.ProtoText.Declarations
import WireSchema.Proofs.ProtoText.MapFields
import WireSchema.Proofs.Stub.Maps
import WireSchema.Proofs.Text.Identifiers

namespace WireSchema.Stub

/-!
# Functions of the module of types

The functions of the module of types are named in two ways.  Conversions of single values and lists
have a stem in front of `_to_proto` and `_from_proto`: a name in snake case, which a list continues
by `_slice`.  All others have the name of a type, or two of them, behind a fixed beginning.  Names
of the second kind are different from each other whenever the names of messages are; those of the
first kind are as different as their stems, and a stem may also continue to a name of the second
kind.
-/

open Asked

/-! ## Functions and their stems -/

/-- The functions that lines define, in order. -/
def conversionsOf (lines : List Line) : List Conversion :=
  (declarationsOf lines).filterMap Sum.getRight?

/-- The names of the functions that lines define, in order and with repetitions.
In a module a later function would replace an earlier one of its name. -/
def functionNames (lines : List Line) : List String :=
  (conversionsOf lines).map Conversion.name

/-- What stands in front of `_to_proto` or `_from_proto` in the name of a
function.  Functions with a stem share one space of names, as the list of a type
is converted under a stem as well. -/
def Conversion.stem? : Conversion → Option String
  | toSchema snake | fromSchema snake => some snake
  | listToSchema snake | listFromSchema snake => some (snake ++ "_slice")
  | _ => none

def stemNames (stem : String) : List String := [stem ++ "_to_proto", stem ++ "_from_proto"]

theorem append_slice (snake ending : String) :
    snake ++ "_slice" ++ ending = snake ++ ("_slice" ++ ending) := String.append_assoc

theorem Conversion.name_mem_stemNames {conversion : Conversion} {stem : String}
    (own : conversion.stem? = some stem) : conversion.name ∈ stemNames stem := by
  cases conversion with
  | toSchema snake =>
      cases own
      exact List.mem_cons_self
  | fromSchema snake =>
      cases own
      exact List.mem_cons_of_mem _ (List.mem_singleton_self _)
  | listToSchema snake =>
      cases own
      rw [stemNames, append_slice]
      exact List.mem_cons_self
  | listFromSchema snake =>
      cases own
      rw [stemNames, append_slice snake "_from_proto"]
      exact List.mem_cons_of_mem _ (List.mem_singleton_self _)
  | zeroTest | pointerToSchema | pointerFromSchema | ofMap => cases own

@[simp] theorem conversionsOf_append (first rest : List Line) :
    conversionsOf (first ++ rest) = conversionsOf first ++ conversionsOf rest := by
  rw [conversionsOf, declarationsOf_append, List.filterMap_append]
  rfl

theorem conversionsOf_flatMap {α : Type} (items : List α) (made : α → List Line) :
    conversionsOf (items.flatMap made) = items.flatMap fun item => conversionsOf (made item) := by
  rw [conversionsOf, declarationsOf_flatMap, List.filterMap_flatMap]
  rfl

theorem conversionsOf_of_declarationsOf {lines : List Line} {conversions : List Conversion}
    (declared : declarationsOf lines = conversions.map .inr) :
      conversionsOf lines = conversions := by
  rw [conversionsOf, declared, List.filterMap_map]
  exact List.filterMap_some

theorem TypesModule.conversionsOf_importLines (data : StubData) :
    conversionsOf (importLines data) = [] := by
  unfold importLines headLines
  split <;> rfl

/-! ## What stub data is named by -/

/-- A descriptor whose names are those of an identifier.  Names of messages may
be other texts, of which functions with invalid names are made. -/
structure TypeInfo.IsNamed (info : TypeInfo) : Prop where
  snake : info.snake = .ok (Text.toSnakeCase info.name.display)
  pointerName : info.pointerName = .ok info.name.display
  isIdentifier : Text.IsIdentifier info.name.display

namespace StubData

def messageNames (data : StubData) : List String := data.types.map (·.name.display)

/-- The names of enumerations in the schema. -/
def enumNames (data : StubData) : List String := data.enums.map (·.name.display)

/-- The stems of functions: those of enumerations, and two for each message.  Two
of them can be the same though the names differ, as letters become small. -/
def stems (data : StubData) : List String :=
  data.enumNames.map Text.toSnakeCase
    ++ data.messageNames.flatMap fun name =>
      [Text.toSnakeCase name, Text.toSnakeCase name ++ "_slice"]

/-- The functions for enumerations, messages and maps, in the order of the
module.  Repetitions are kept, for two functions of one name are what is looked
for. -/
def conversions (data : StubData) : List Conversion :=
  data.enumNames.flatMap (fun name => enumConversions (Text.toSnakeCase name))
    ++ data.messageNames.flatMap (fun name => messageConversions (Text.toSnakeCase name) name)
    ++ data.maps.flatMap (·.conversions)

/-- Stub data in which messages and enumerations are named by identifiers, messages by different
ones, and the types of maps by qualified names. -/
structure HasNames (data : StubData) : Prop where
  enums : ∀ enum ∈ data.enums, enum.IsNamed
  types : ∀ type ∈ data.types, type.IsNamed
  maps : ∀ map ∈ data.maps, map.IsNamed ∧
    ∀ suffix, suffixOf map.types = .ok suffix → ∀ c ∈ suffix.toList, Text.isNameChar c = true
  messages : data.messageNames.Nodup
  suffixes : (data.maps.map fun map => suffixOf map.types).Nodup

variable {data : StubData}

/-- The module of types of such data defines the functions of the data. -/
theorem HasNames.exists_lines (named : data.HasNames) :
    ∃ lines, TypesModule.lines data = .ok lines ∧ conversionsOf lines = data.conversions := by
  have enums : data.enums.mapM TypesModule.enumPart = .ok (data.enums.map fun enum =>
      TypesModule.enumLines enum (Text.toSnakeCase enum.name.display)) := by
    refine mapM_eq_ok_iff.mpr (List.forall₂_map_right_iff.mpr (List.forall₂_same.mpr ?_))
    intro enum member
    rw [TypesModule.enumPart, (named.enums enum member).snake]
    rfl
  have types : data.types.mapM (TypesModule.messagePart data) = .ok (data.types.map fun type =>
      TypesModule.messageLines data type (Text.toSnakeCase type.name.display)
        type.name.display) := by
    refine mapM_eq_ok_iff.mpr (List.forall₂_map_right_iff.mpr (List.forall₂_same.mpr ?_))
    intro type member
    rw [TypesModule.messagePart, (named.types type member).snake,
      (named.types type member).pointerName]
    rfl
  refine ⟨_, by rw [TypesModule.lines, enums, ok_bind, types, ok_bind, pure_eq_ok], ?_⟩
  have ofEnum : ∀ enum : TypeInfo,
      conversionsOf (TypesModule.enumLines enum (Text.toSnakeCase enum.name.display)) =
        enumConversions (Text.toSnakeCase enum.name.display) :=
    fun enum => conversionsOf_of_declarationsOf (TypesModule.declarationsOf_enumLines enum _)
  have ofType : ∀ type : TypeInfo, conversionsOf (TypesModule.messageLines data type
      (Text.toSnakeCase type.name.display) type.name.display) =
        messageConversions (Text.toSnakeCase type.name.display) type.name.display :=
    fun type => conversionsOf_of_declarationsOf (TypesModule.declarationsOf_messageLines
      data type _ _)
  have ofMap : ∀ map : MapConversion, conversionsOf (TypesModule.mapLines map) = map.conversions :=
    fun map => conversionsOf_of_declarationsOf (TypesModule.declarationsOf_mapLines map)
  simp only [conversionsOf_append, TypesModule.conversionsOf_importLines, ← List.flatMap_def,
    conversionsOf_flatMap, ofEnum, ofType, ofMap, List.nil_append, conversions, enumNames,
    messageNames, List.flatMap_map]

/-! ## Valid names -/

/-- What the names of functions without a stem begin with. -/
def beginnings : List String :=
  ["is_zero_", "convert_pointer_to_proto_", "convert_pointer_from_proto_", "convert_map_to_proto_",
   "convert_map_from_proto_"]

theorem stem_mem_stems {conversion : Conversion} {stem : String}
    (member : conversion ∈ data.conversions) (own : conversion.stem? = some stem) :
    stem ∈ data.stems := by
  simp only [conversions, List.mem_append, List.mem_flatMap, enumConversions, messageConversions,
    MapConversion.conversions, List.mem_cons, List.not_mem_nil, or_false] at member
  simp only [stems, List.mem_append, List.mem_map, List.mem_flatMap, List.mem_cons,
    List.not_mem_nil, or_false]
  rcases member with (⟨name, among, rfl | rfl⟩ |
    ⟨name, among, rfl | rfl | rfl | rfl | rfl | rfl | rfl⟩) | ⟨map, among, rfl | rfl⟩
  all_goals simp only [Conversion.stem?, Option.some.injEq, reduceCtorEq] at own
  · exact Or.inl ⟨name, among, own⟩
  · exact Or.inl ⟨name, among, own⟩
  · exact Or.inr ⟨name, among, Or.inl own.symm⟩
  · exact Or.inr ⟨name, among, Or.inl own.symm⟩
  · exact Or.inr ⟨name, among, Or.inr own.symm⟩
  · exact Or.inr ⟨name, among, Or.inr own.symm⟩

theorem isNameChar_of_mem_stems {stem : String} (member : stem ∈ data.stems) :
    ∀ c ∈ stem.toList, Text.isNameChar c = true := by
  simp only [stems, List.mem_append, List.mem_map, List.mem_flatMap, List.mem_cons,
    List.not_mem_nil, or_false] at member
  rcases member with ⟨name, -, rfl⟩ | ⟨name, -, rfl | rfl⟩
  · exact Text.isNameChar_of_mem_toSnakeCase
  · exact Text.isNameChar_of_mem_toSnakeCase
  · have ending : ∀ c ∈ "_slice".toList, Text.isNameChar c = true := List.all_eq_true.mp (by decide)
    exact Text.isNameChar_of_mem_append Text.isNameChar_of_mem_toSnakeCase ending

/-- A function without a stem has the characters of a name behind a fixed beginning. -/
theorem HasNames.exists_beginning (named : data.HasNames) {conversion : Conversion}
    (member : conversion ∈ data.conversions) (stemless : conversion.stem? = none) :
    ∃ beginning ∈ beginnings, ∃ rest, conversion.name = beginning ++ rest ∧
      ∀ c ∈ rest.toList, Text.isNameChar c = true := by
  simp only [conversions, List.mem_append, List.mem_flatMap, enumConversions, messageConversions,
    MapConversion.conversions, List.mem_cons, List.not_mem_nil, or_false] at member
  have identifier : ∀ name ∈ data.messageNames, ∀ c ∈ name.toList, Text.isNameChar c = true := by
    intro name among
    rcases List.mem_map.mp among with ⟨type, own, rfl⟩
    exact (named.types type own).isIdentifier.chars
  rcases member with (⟨name, among, rfl | rfl⟩ |
    ⟨name, among, rfl | rfl | rfl | rfl | rfl | rfl | rfl⟩) | ⟨map, among, rfl | rfl⟩
  all_goals try cases stemless
  · exact ⟨"is_zero_", by decide, Text.toSnakeCase name, rfl, Text.isNameChar_of_mem_toSnakeCase⟩
  · exact ⟨"convert_pointer_to_proto_", by decide, name, rfl, identifier name among⟩
  · exact ⟨"convert_pointer_from_proto_", by decide, name, rfl, identifier name among⟩
  · rcases named.maps map among with ⟨⟨suffix, own, name, -⟩, chars⟩
    exact ⟨"convert_map_to_proto_", by decide, suffix, name, chars suffix own⟩
  · rcases named.maps map among with ⟨⟨suffix, own, -, name⟩, chars⟩
    exact ⟨"convert_map_from_proto_", by decide, suffix, name, chars suffix own⟩

/-- The name of a function is valid unless its stem begins with a digit. -/
theorem HasNames.isFunctionName_iff (named : data.HasNames) {conversion : Conversion}
    (member : conversion ∈ data.conversions) :
    Text.IsFunctionName conversion.name ↔
      ∀ stem ∈ conversion.stem?, ¬Text.BeginsWithDigit stem := by
  cases own : conversion.stem? with
  | some stem =>
      have chars := isNameChar_of_mem_stems (stem_mem_stems member own)
      have ending : ∃ ending ∈ ["_to_proto", "_from_proto"], conversion.name = stem ++ ending := by
        simpa [stemNames] using Conversion.name_mem_stemNames own
      rcases ending with ⟨ending, among, name⟩
      have plain : ∀ ending ∈ ["_to_proto", "_from_proto"],
          (∀ c ∈ ending.toList, Text.isNameChar c = true) ∧ ending.toList.head? = some '_' := by
        simp only [List.forall_mem_cons, List.not_mem_nil, false_imp_iff, implies_true, and_true]
        exact ⟨⟨List.all_eq_true.mp (by decide), by decide⟩,
          List.all_eq_true.mp (by decide), by decide⟩
      rcases plain ending among with ⟨endingChars, mark⟩
      have inEnding : '_' ∈ ending.toList := List.mem_of_head? mark
      rw [name, Text.isFunctionName_iff (Text.isNameChar_of_mem_append chars endingChars)
        (by rw [String.toList_append]; exact List.mem_append_right _ inEnding),
        Text.beginsWithDigit_append_iff ⟨'_', mark, by decide⟩]
      simp
  | none =>
      rcases named.exists_beginning member own with ⟨beginning, among, rest, name, chars⟩
      have plain : ∀ beginning ∈ beginnings,
          Text.IsIdentifier beginning ∧ '_' ∈ beginning.toList := by
        decide +kernel
      rcases plain beginning among with ⟨isIdentifier, mark⟩
      have whole := isIdentifier.append chars
      rw [name, Text.isFunctionName_iff whole.chars
        (by rw [String.toList_append]; exact List.mem_append_left _ mark)]
      exact iff_of_true whole.not_beginsWithDigit (by simp)

theorem mem_conversions_of_mem_names {name : String}
    (member : name ∈ data.enumNames ++ data.messageNames) :
    .toSchema (Text.toSnakeCase name) ∈ data.conversions := by
  refine List.mem_append_left _ ?_
  rcases List.mem_append.mp member with enum | message
  · exact List.mem_append_left _ (List.mem_flatMap.mpr ⟨name, enum, List.mem_cons_self⟩)
  · refine List.mem_append_right _ (List.mem_flatMap.mpr ⟨name, message, ?_⟩)
    exact List.mem_cons_of_mem _ List.mem_cons_self

/-- All functions have valid names unless a name of a message or an enumeration leads with a
digit. -/
theorem HasNames.isFunctionName_names_iff (named : data.HasNames) :
    (∀ name ∈ data.conversions.map Conversion.name, Text.IsFunctionName name) ↔
      ∀ name ∈ data.enumNames ++ data.messageNames, ¬Text.LeadsWithDigit name := by
  rw [List.forall_mem_map]
  constructor
  · intro valid name member leads
    have own := mem_conversions_of_mem_names member
    exact (named.isFunctionName_iff own).mp (valid _ own) _ rfl
      (Text.beginsWithDigit_toSnakeCase_iff.mpr leads)
  · intro leadless conversion member
    refine (named.isFunctionName_iff member).mpr fun stem own begins => ?_
    have inStems := stem_mem_stems member own
    simp only [stems, List.mem_append, List.mem_map, List.mem_flatMap, List.mem_cons,
      List.not_mem_nil, or_false] at inStems
    rcases inStems with ⟨name, among, rfl⟩ | ⟨name, among, rfl | rfl⟩
    · exact leadless name (List.mem_append_left _ among)
        (Text.beginsWithDigit_toSnakeCase_iff.mp begins)
    · exact leadless name (List.mem_append_right _ among)
        (Text.beginsWithDigit_toSnakeCase_iff.mp begins)
    · rw [Text.beginsWithDigit_append_iff ⟨'_', by decide, by decide⟩] at begins
      exact leadless name (List.mem_append_right _ among)
        (Text.beginsWithDigit_toSnakeCase_iff.mp begins)

/-! ## Different names -/

/-- The names of the functions without a stem for a message. -/
def prefixedNames (name : String) : List String :=
  ["is_zero_" ++ Text.toSnakeCase name, "convert_pointer_to_proto_" ++ name,
   "convert_pointer_from_proto_" ++ name]

/-- The functions with a stem are named by the stems in order. -/
theorem map_name_filter_stem (data : StubData) :
    (data.conversions.filter (·.stem?.isSome)).map Conversion.name =
      data.stems.flatMap stemNames := by
  have enum : ∀ snake, ((enumConversions snake).filter (·.stem?.isSome)).map Conversion.name =
      stemNames snake := fun _ => rfl
  have message : ∀ snake pointer,
      ((messageConversions snake pointer).filter (·.stem?.isSome)).map Conversion.name =
        [snake, snake ++ "_slice"].flatMap stemNames := by
    intro snake pointer
    simp only [List.flatMap_cons, List.flatMap_nil, stemNames, append_slice]
    rfl
  have map : ∀ map : MapConversion, map.conversions.filter (·.stem?.isSome) = [] := fun _ => rfl
  simp only [conversions, stems, List.filter_append, List.filter_flatMap, List.map_append,
    List.map_flatMap, enum, message, map, List.flatMap_append, List.flatMap_map, List.flatMap_assoc]
  simp

theorem map_name_filter_none (data : StubData) :
    (data.conversions.filter fun conversion => !conversion.stem?.isSome).map Conversion.name =
      data.messageNames.flatMap prefixedNames
        ++ data.maps.flatMap fun map => [map.toName, map.fromName] := by
  have enum : ∀ snake, (enumConversions snake).filter (fun conversion => !conversion.stem?.isSome) =
      [] := fun _ => rfl
  have message : ∀ name, ((messageConversions (Text.toSnakeCase name) name).filter
      fun conversion => !conversion.stem?.isSome).map Conversion.name = prefixedNames name :=
    fun _ => rfl
  have map : ∀ map : MapConversion, (map.conversions.filter fun conversion =>
      !conversion.stem?.isSome).map Conversion.name = [map.toName, map.fromName] := fun _ => rfl
  simp only [conversions, List.filter_append, List.filter_flatMap, List.map_append,
    List.map_flatMap, enum, message, map]
  simp

/-- The names of all functions, those with a stem first. -/
theorem names_perm (data : StubData) :
    List.Perm (data.stems.flatMap stemNames ++ (data.messageNames.flatMap prefixedNames
        ++ data.maps.flatMap fun map => [map.toName, map.fromName]))
      (data.conversions.map Conversion.name) := by
  rw [← map_name_filter_stem, ← map_name_filter_none, ← List.map_append]
  exact (List.filter_append_perm (fun conversion : Conversion => conversion.stem?.isSome) _).map _

theorem to_ne_from (stem other : String) : stem ++ "_to_proto" ≠ other ++ "_from_proto" := by
  intro same
  have ends := congrArg (fun text => text.toList.reverse) same
  simp [String.toList_append] at ends

theorem disjoint_stemNames_iff {stem other : String} :
    List.Disjoint (stemNames stem) (stemNames other) ↔ stem ≠ other := by
  constructor
  · rintro disjoint rfl
    exact disjoint List.mem_cons_self List.mem_cons_self
  · intro apart name first second
    simp only [stemNames, List.mem_cons, List.not_mem_nil, or_false] at first second
    rcases first with rfl | rfl
    · rcases second with same | same
      · exact apart ((String.append_left_inj _).mp same)
      · exact to_ne_from _ _ same
    · rcases second with same | same
      · exact to_ne_from _ _ same.symm
      · exact apart ((String.append_left_inj _).mp same)

/-- Functions with different stems have different names. -/
theorem nodup_flatMap_stemNames_iff {stems : List String} :
    (stems.flatMap stemNames).Nodup ↔ stems.Nodup := by
  have each : ∀ stem ∈ stems, (stemNames stem).Nodup := by
    intro stem _
    rw [stemNames, List.nodup_cons, List.mem_singleton]
    exact ⟨to_ne_from stem stem, List.nodup_singleton _⟩
  rw [List.nodup_flatMap, and_iff_right each]
  exact ⟨fun disjoint => disjoint.imp disjoint_stemNames_iff.mp,
    fun distinct => distinct.imp disjoint_stemNames_iff.mpr⟩

/-- A name is read in one way as something behind a fixed beginning. -/
theorem eq_of_beginning_append_eq {first second rest further : String}
    (inFirst : first ∈ beginnings)
    (inSecond : second ∈ beginnings) (same : first ++ rest = second ++ further) :
    first = second ∧ rest = further := by
  have apart : ∀ first ∈ beginnings, ∀ second ∈ beginnings,
      first.toList <+: second.toList → first = second := by
    decide +kernel
  have lists := congrArg String.toList same
  rw [String.toList_append, String.toList_append] at lists
  have equal : first = second := by
    rcases List.prefix_or_prefix_of_prefix (List.prefix_append first.toList rest.toList)
      (lists ▸ List.prefix_append second.toList further.toList) with before | before
    · exact apart first inFirst second inSecond before
    · exact (apart second inSecond first inFirst before).symm
  subst equal
  exact ⟨rfl, (String.append_right_inj _).mp same⟩

theorem ne_of_beginning_ne {first second rest further : String} (inFirst : first ∈ beginnings)
    (inSecond : second ∈ beginnings) (apart : first ≠ second) :
    first ++ rest ≠ second ++ further :=
  fun same => apart (eq_of_beginning_append_eq inFirst inSecond same).1

theorem nodup_prefixedNames (name : String) : (prefixedNames name).Nodup := by
  simp only [prefixedNames, List.nodup_cons, List.mem_cons, List.not_mem_nil, or_false, not_or,
    not_false_iff, List.nodup_nil, and_true]
  exact ⟨⟨ne_of_beginning_ne (by decide) (by decide) (by decide),
    ne_of_beginning_ne (by decide) (by decide) (by decide)⟩,
    ne_of_beginning_ne (by decide) (by decide) (by decide)⟩

theorem disjoint_prefixedNames {name other : String} (apart : name ≠ other)
    (snakes : Text.toSnakeCase name ≠ Text.toSnakeCase other) :
    List.Disjoint (prefixedNames name) (prefixedNames other) := by
  intro found first second
  simp only [prefixedNames, List.mem_cons, List.not_mem_nil, or_false] at first second
  rcases first with rfl | rfl | rfl
  · rcases second with same | same | same
    · exact snakes ((String.append_right_inj _).mp same)
    · exact ne_of_beginning_ne (by decide) (by decide) (by decide) same
    · exact ne_of_beginning_ne (by decide) (by decide) (by decide) same
  · rcases second with same | same | same
    · exact ne_of_beginning_ne (by decide) (by decide) (by decide) same
    · exact apart ((String.append_right_inj _).mp same)
    · exact ne_of_beginning_ne (by decide) (by decide) (by decide) same
  · rcases second with same | same | same
    · exact ne_of_beginning_ne (by decide) (by decide) (by decide) same
    · exact ne_of_beginning_ne (by decide) (by decide) (by decide) same
    · exact apart ((String.append_right_inj _).mp same)

/-- The names of the functions for maps are different. -/
theorem HasNames.nodup_mapNames (named : data.HasNames) :
    (data.maps.flatMap fun map => [map.toName, map.fromName]).Nodup := by
  rw [List.nodup_flatMap]
  constructor
  · intro map member
    rcases (named.maps map member).1 with ⟨suffix, -, toName, fromName⟩
    rw [toName, fromName, List.nodup_cons, List.mem_singleton]
    exact ⟨ne_of_beginning_ne (by decide) (by decide) (by decide), List.nodup_singleton _⟩
  · refine (List.pairwise_map.mp named.suffixes).imp_of_mem fun inMaps alsoInMaps apart => ?_
    rcases (named.maps _ inMaps).1 with ⟨suffix, own, toName, fromName⟩
    rcases (named.maps _ alsoInMaps).1 with ⟨further, other, otherTo, otherFrom⟩
    intro found first second
    simp only [toName, fromName, otherTo, otherFrom, List.mem_cons, List.not_mem_nil, or_false]
      at first second
    rcases first with rfl | rfl <;> rcases second with same | same
    all_goals
      rcases eq_of_beginning_append_eq (by decide) (by decide) same with ⟨-, rest⟩
      exact apart (own.trans (rest ▸ other.symm))

/-- The names of functions without a stem are different when the names of messages are, also in
snake case. -/
theorem HasNames.nodup_prefixed (named : data.HasNames)
    (snakes : (data.messageNames.map Text.toSnakeCase).Nodup) :
    (data.messageNames.flatMap prefixedNames
      ++ data.maps.flatMap fun map => [map.toName, map.fromName]).Nodup := by
  rw [List.nodup_append]
  refine ⟨?_, named.nodup_mapNames, ?_⟩
  · rw [List.nodup_flatMap]
    refine ⟨fun name _ => nodup_prefixedNames name, ?_⟩
    exact (List.Pairwise.and named.messages (List.pairwise_map.mp snakes)).imp fun ⟨apart, snake⟩ =>
      disjoint_prefixedNames apart snake
  · intro found first other second
    rcases List.mem_flatMap.mp first with ⟨name, -, ofMessage⟩
    rcases List.mem_flatMap.mp second with ⟨map, member, ofMap⟩
    rcases (named.maps map member).1 with ⟨suffix, -, toName, fromName⟩
    simp only [prefixedNames, toName, fromName, List.mem_cons, List.not_mem_nil, or_false]
      at ofMessage ofMap
    rcases ofMessage with rfl | rfl | rfl <;> rcases ofMap with rfl | rfl
    all_goals exact ne_of_beginning_ne (by decide) (by decide) (by decide)

/-- The stems of messages are those of their names in snake case. -/
theorem nodup_snakes_of_nodup_stems (distinct : data.stems.Nodup) :
    (data.messageNames.map Text.toSnakeCase).Nodup := by
  have lists : ∀ names : List String,
      (names.map Text.toSnakeCase).Sublist
        (names.flatMap fun name => [Text.toSnakeCase name, Text.toSnakeCase name ++ "_slice"]) := by
    intro names
    induction names with
    | nil => exact List.Sublist.slnil
    | cons name names ih => exact (ih.cons _).cons_cons _
  exact distinct.sublist ((lists _).trans (List.sublist_append_right _ _))

/-- The names of all functions are different exactly when stems are, and none continues to the name
of a function without a stem. -/
theorem HasNames.nodup_names_iff (named : data.HasNames) :
    (data.conversions.map Conversion.name).Nodup ↔
      data.stems.Nodup ∧ ∀ stem ∈ data.stems, ∀ conversion ∈ data.conversions,
        conversion.stem? = none → conversion.name ∉ stemNames stem := by
  rw [← (names_perm data).nodup_iff, List.nodup_append', nodup_flatMap_stemNames_iff]
  have others : ∀ name, (name ∈ data.messageNames.flatMap prefixedNames
        ++ data.maps.flatMap fun map => [map.toName, map.fromName]) ↔
      ∃ conversion ∈ data.conversions, conversion.stem? = none ∧ conversion.name = name := by
    intro name
    rw [← map_name_filter_none, List.mem_map]
    simp [and_assoc]
  constructor
  · rintro ⟨distinct, -, disjoint⟩
    refine ⟨distinct, fun stem member conversion among stemless same => ?_⟩
    exact disjoint (List.mem_flatMap.mpr ⟨stem, member, same⟩)
      ((others _).mpr ⟨conversion, among, stemless, rfl⟩)
  · rintro ⟨distinct, apart⟩
    refine ⟨distinct, named.nodup_prefixed (nodup_snakes_of_nodup_stems distinct), ?_⟩
    intro name first second
    rcases List.mem_flatMap.mp first with ⟨stem, member, own⟩
    rcases (others name).mp second with ⟨conversion, among, stemless, rfl⟩
    exact apart stem member conversion among stemless own

end StubData

/-! ## Names that a model gives -/

theorem TypeInfo.isNamed_of {content : String} (plain : Text.IsIdentifier content)
    (sourceName : Value) (isEnum : Bool) (fields : List FieldInfo) :
    (TypeInfo.of (.text content) sourceName isEnum fields).IsNamed where
  snake := rfl
  pointerName := congrArg Except.ok (Text.sanitizeTypeName_of_isName plain.chars)
  isIdentifier := plain

/-- A field that names the types of its map by qualified names: an annotation states such names, and
the value of a declared map is no map itself and is named by one. -/
structure NamesMapTypes (field : DeclaredField) : Prop where
  stated : ∀ key value, field.annotatedMap? = .ok (some (key, value)) →
    Text.IsQualified key ∧ Text.IsQualified value
  declared : ∀ key value, field.type = .mapping key value →
    value.unwrap.IsUnmapped ∧ Text.IsQualified value.unwrap.qualifiedName

def IsIdentifier (name : Value) : Prop :=
  ∃ content, name = .text content ∧ Text.IsIdentifier content

/-- A model whose declarations are written under identifiers, and whose types of maps are named by
qualified names, also where annotations and options give them. -/
structure NamesIdentifiers (context : SchemaContext) : Prop where
  messages : ∀ composite ∈ context.model.composites, ∀ names,
    Validation.writtenNames composite = .ok names → ∀ name ∈ names, IsIdentifier name
  enums : ∀ enum ∈ context.model.enums, ∀ name, enum.schemaName = .ok name → IsIdentifier name
  table : context.types.GivesNamesOf Text.IsQualifiedChar
  maps : ∀ plans, context.messagePlans context.model.composites = .ok plans →
    ∀ plan ∈ plans, ∀ planned ∈ plan.fields, NamesMapTypes planned.field

theorem admitsBuiltin_isQualifiedChar : TypeTable.AdmitsBuiltin Text.IsQualifiedChar :=
  TypeTable.admitsBuiltin_of_point
    (fun c letter => Or.inl (by rw [Text.isNameChar, letter, Bool.true_or])) (Or.inr rfl)

section Naming

variable {context : SchemaContext} {plans : List MessagePlan} {converted : ConvertedTypes}
  {infos : List TypeInfo} {data : StubData}

/-- The types of a map are named by qualified names. -/
theorem isQualified_mapTypes {composite : Composite} {message : Value} {declared : DeclaredField}
    {planned : PlannedField} (isFrom : planned.IsFrom context composite message declared)
    (gives : context.types.GivesNamesOf Text.IsQualifiedChar) (named : NamesMapTypes planned.field)
    (map : planned.shape = .map) :
    Text.IsQualified planned.mapTypes.1.display ∧ Text.IsQualified planned.mapTypes.2.display := by
  have shaped := DeclaredField.hasShape_of_shape isFrom.shape
  have types := isFrom.mapTypes map
  rw [map] at shaped
  cases shaped with
  | @stated key value annotated =>
      rw [DeclaredField.mapTypes, annotated, ok_bind] at types
      rw [← Except.ok.inj types]
      exact named.stated key value annotated
  | @native key value name bare type keyed admitted =>
      have builtin : ∀ name ∈ mapKeyTypes, Text.IsQualified name := by decide +kernel
      simp only [DeclaredField.mapTypes, bare, ok_bind, type, keyed] at types
      rcases bind_eq_ok_iff.mp types with ⟨valueType, read, final⟩
      rcases named.declared key value type with ⟨unmapped, qualified⟩
      rw [← Except.ok.inj final]
      exact ⟨builtin name admitted, TypeTable.chars_of_schemaType
        admitsBuiltin_isQualifiedChar gives
        unmapped qualified read⟩

/-- Only types that are texts have a suffix. -/
theorem exists_texts_of_suffixOf {types : Value × Value} {suffix : String}
    (named : suffixOf types = .ok suffix) :
    ∃ key value, types = (.text key, .text value) := by
  rcases types with ⟨keyType, valueType⟩
  rcases bind_eq_ok_iff.mp named with ⟨keyName, ofKey, rest⟩
  rcases bind_eq_ok_iff.mp rest with ⟨valueName, ofValue, -⟩
  rcases bind_eq_ok_iff.mp ofKey with ⟨key, keyed, -⟩
  rcases bind_eq_ok_iff.mp ofValue with ⟨value, valued, -⟩
  have keyType_eq : keyType = .text key := Value.eq_text_of_askReplaceable keyed
  have valueType_eq : valueType = .text value := Value.eq_text_of_askReplaceable valued
  exact ⟨key, value, by rw [keyType_eq, valueType_eq]⟩

theorem isNameChar_of_suffixOf {types : Value × Value} {suffix : String}
    (named : suffixOf types = .ok suffix) (key : Text.IsQualified types.1.display)
    (value : Text.IsQualified types.2.display) : ∀ c ∈ suffix.toList, Text.isNameChar c = true := by
  rcases exists_texts_of_suffixOf named with ⟨keyText, valueText, rfl⟩
  have mark : ∀ c ∈ "_".toList, Text.isNameChar c = true := List.all_eq_true.mp (by decide)
  rw [suffixOf_text, Except.ok.injEq] at named
  rw [← named]
  exact Text.isNameChar_of_mem_append
    (Text.isNameChar_of_mem_append (Text.isNameChar_of_mem_sanitizeTypeName key) mark)
    (Text.isNameChar_of_mem_sanitizeTypeName value)

/-- A plan is written under an identifier. -/
theorem NamesIdentifiers.isIdentifier_name (names : NamesIdentifiers context)
    (planned : context.messagePlans context.model.composites = .ok plans) {plan : MessagePlan}
    (member : plan ∈ plans) : IsIdentifier plan.name := by
  rcases SchemaContext.exists_of_mem_messagePlans planned member with
    ⟨composite, declared, own, written, message, inNames, made⟩
  rw [SchemaContext.name_of_plan made]
  exact names.messages composite declared own written message inNames

/-- The types of the maps of a model are named by qualified names. -/
theorem NamesIdentifiers.isQualified_of_mem (names : NamesIdentifiers context)
    (planned : context.messagePlans context.model.composites = .ok plans) {types : Value × Value}
    (used : types ∈ usedMapTypes plans) :
    Text.IsQualified types.1.display ∧ Text.IsQualified types.2.display := by
  rcases List.mem_flatMap.mp used with ⟨plan, inPlans, inside⟩
  rcases List.mem_filterMap.mp inside with ⟨field, inFields, own⟩
  rcases SchemaContext.exists_of_mem_messagePlans planned inPlans with
    ⟨composite, -, -, -, message, -, made⟩
  rcases SchemaContext.exists_isFrom_of_plan made inFields with ⟨fields, -, declared, -, isFrom⟩
  unfold mapTypes? at own
  split at own
  · rename_i isMap
    cases own
    exact isQualified_mapTypes isFrom names.table
      (names.maps plans planned plan inPlans field inFields) (eq_of_beq isMap)
  · cases own

/-- The descriptors of enumerations are named by identifiers. -/
theorem NamesIdentifiers.isNamed_of_mem_enums (names : NamesIdentifiers context)
    {stubs : StubOptions} {commandLine : String} {lists : List (List TypeInfo)}
    (made : data.IsMadeOf context stubs commandLine converted lists) :
    ∀ enum ∈ data.enums, enum.IsNamed := by
  intro enum member
  rcases made.ofEnums with ⟨kept, keeps, described⟩
  rcases exists_of_mem_mapM described member with ⟨declared, inKept, found⟩
  rcases bind_eq_ok_iff.mp found with ⟨name, stated, final⟩
  cases final
  rcases names.enums declared (mem_of_mem_keepWhere keeps inKept) name stated with
    ⟨content, rfl, plain⟩
  exact TypeInfo.isNamed_of plain _ _ _

/-- The descriptors of messages are named by identifiers. -/
theorem NamesIdentifiers.isNamed_of_mem_types (names : NamesIdentifiers context)
    (planned : context.messagePlans context.model.composites = .ok plans)
    (described : AreDescribed converted plans infos) (maps : List MapConversion) :
    ∀ type ∈ infos.map (·.sharing maps), type.IsNamed := by
  intro type member
  rcases List.mem_map.mp member with ⟨info, inInfos, rfl⟩
  rcases exists_left_of_forall₂ described inInfos with ⟨plan, inPlans, own⟩
  rcases names.isIdentifier_name planned inPlans with ⟨content, named, plain⟩
  have whole := (exists_of_messageInfo own).2
  rw [named] at whole
  rw [whole]
  exact TypeInfo.isNamed_of plain plan.composite.name false (info.fields.map (·.sharing maps))

/-- The descriptors of messages have the names of the plans, in order. -/
theorem AreDescribed.map_name (described : AreDescribed converted plans infos)
    (maps : List MapConversion) :
    (infos.map (·.sharing maps)).map (·.name) = plans.map (·.name) := by
  rw [List.map_map, ← List.forall₂_eq_eq_eq, List.forall₂_map_left_iff, List.forall₂_map_right_iff]
  exact described.flip.imp fun info plan own => congrArg TypeInfo.name (exists_of_messageInfo own).2

/-- Identifiers of different plans are shown as different texts. -/
theorem NamesIdentifiers.nodup_display (names : NamesIdentifiers context)
    (planned : context.messagePlans context.model.composites = .ok plans)
    (distinct : Value.Distinct (plans.map (·.name))) :
    ((plans.map (·.name)).map Value.display).Nodup := by
  have texts : ∀ name ∈ plans.map (·.name), name.IsText := by
    intro name member
    rcases List.mem_map.mp member with ⟨plan, inPlans, rfl⟩
    rcases names.isIdentifier_name planned inPlans with ⟨content, named, -⟩
    rw [named]
    exact Value.isText_text content
  exact (Value.nodup_display_iff texts).mpr distinct

/-- The stub data of a model that is accepted is named by identifiers when the model is. -/
theorem NamesIdentifiers.hasNames (names : NamesIdentifiers context) {stubs : StubOptions}
    {commandLine : String} {found : List Finding} {lists : List (List TypeInfo)}
    (accepted : Validation.check context context.model.wholeUnit = .ok found)
    (made : data.IsMadeOf context stubs commandLine converted lists) : data.HasNames := by
  rcases Validation.exists_messagePlans_of_check accepted with ⟨plans, planned, distinct⟩
  rcases exists_plans_of_messageInfos made.ofComposites with ⟨others, again, described⟩
  cases planned.symm.trans again
  have shares : data.SharesMaps plans := AreDescribed.sharesMaps described made.maps made.types
  refine ⟨names.isNamed_of_mem_enums made, ?_, ?_, ?_, shares.suffixes⟩
  · rw [made.types]
    exact names.isNamed_of_mem_types planned described data.maps
  · intro map member
    refine ⟨shares.named map member, fun suffix own => ?_⟩
    rcases names.isQualified_of_mem planned (shares.first map member).mem with ⟨key, value⟩
    exact isNameChar_of_suffixOf own key value
  · have shown : data.messageNames = (plans.map (·.name)).map Value.display := by
      rw [← AreDescribed.map_name described data.maps, ← made.types, List.map_map]
      rfl
    rw [shown]
    exact names.nodup_display planned distinct

end Naming

/-- Of an accepted model that is named by identifiers, the module of types defines each function
under a valid name unless the name has a stem that begins with a digit, which one has exactly when a
message or an enumeration leads with a digit.  No two functions have one name exactly when all stems
are different, and none continues to the name of a function without a stem. -/
theorem functionNames_of_check (context : SchemaContext) (stubs : StubOptions)
    (commandLine : String) (found : List Finding) (data : StubData)
    (accepted : Validation.check context context.model.wholeUnit = .ok found)
    (names : NamesIdentifiers context) (made : StubData.of context stubs commandLine = .ok data) :
    ∃ lines, TypesModule.lines data = .ok lines ∧
      (∀ conversion ∈ conversionsOf lines, Text.IsFunctionName conversion.name ↔
        ∀ stem ∈ conversion.stem?, ¬Text.BeginsWithDigit stem) ∧
      ((∀ name ∈ functionNames lines, Text.IsFunctionName name) ↔
        ∀ name ∈ data.enumNames ++ data.messageNames, ¬Text.LeadsWithDigit name) ∧
      ((functionNames lines).Nodup ↔
        data.stems.Nodup ∧ ∀ stem ∈ data.stems, ∀ conversion ∈ conversionsOf lines,
          conversion.stem? = none → conversion.name ∉ stemNames stem) := by
  rcases StubData.exists_isMadeOf made with ⟨converted, lists, origin⟩
  have named := names.hasNames accepted origin
  rcases named.exists_lines with ⟨lines, written, defined⟩
  have inOrder : functionNames lines = data.conversions.map Conversion.name :=
    congrArg (List.map Conversion.name) defined
  refine ⟨lines, written, ?_⟩
  rw [inOrder, defined]
  exact ⟨fun _ => named.isFunctionName_iff, named.isFunctionName_names_iff, named.nodup_names_iff⟩

/-- A table that neither options nor aliases add names to. -/
theorem givesNamesOf_of_none {kind : Char → Prop} {table : TypeTable}
    (overrides : ∀ name, table.override? name = .ok none)
    (known : ∀ name, table.knownSchemaType? name = .ok none) (aliases : table.aliases = []) :
    table.GivesNamesOf kind where
  overrides := fun name type own => by cases (overrides name).symm.trans own
  known := fun name type own => by cases (known name).symm.trans own
  aliases := by
    rw [aliases]
    rintro entry ⟨⟩

/-- A field of a single type without annotations has no types of a map to name. -/
theorem namesMapTypes_named (name package : String) (source : Value) :
    NamesMapTypes { name := source, type := .named name package } where
  stated := by
    intro key value annotated
    cases annotated
  declared := by rintro key value ⟨⟩

theorem isIdentifier_of_writtenNames {composite : Composite} (content : String)
    (own : Validation.writtenNames composite = .ok [.text content])
    (plain : Text.IsIdentifier content)
    (names : List Value) (written : Validation.writtenNames composite = .ok names) :
    ∀ name ∈ names, IsIdentifier name := by
  cases own.symm.trans written
  intro name member
  cases List.mem_singleton.mp member
  exact ⟨content, rfl, plain⟩

theorem namesMapTypes_of_fields {context : SchemaContext} (fields : List DeclaredField)
    (whole : (context.messagePlans context.model.composites).toOption.map
      (fun plans => plans.flatMap fun plan => plan.fields.map (·.field)) = some fields)
    (each : ∀ field ∈ fields, NamesMapTypes field) (plans : List MessagePlan)
    (planned : context.messagePlans context.model.composites = .ok plans) :
    ∀ plan ∈ plans, ∀ planned ∈ plan.fields, NamesMapTypes planned.field := by
  rcases exists_of_toOption_map whole with ⟨others, again, shown⟩
  cases again.symm.trans planned
  intro plan inPlans field inFields
  refine each field.field ?_
  rw [← shown]
  exact List.mem_flatMap.mpr ⟨plan, inPlans, List.mem_map_of_mem inFields⟩

/-- Messages with a map, and an enumeration. -/
def depotModel : Model :=
  { composites :=
      [{ name := .text "Item", fields := [{ name := .text "Id", type := .named "int64" "" }] },
       { name := .text "Order"
         fields :=
          [{ name := .text "Items"
             type := .mapping (.named "string" "") (.pointer (.named "Item" "shop")) }] }]
    enums :=
      [{ name := .text "OrderStatus", values := [{ name := .text "Open", index := .int 0 }] }] }

def depotContext : SchemaContext := .of depotModel {}

private theorem namesIdentifiers_depotContext : NamesIdentifiers depotContext where
  messages := by
    intro composite member
    fin_cases member
    · exact isIdentifier_of_writtenNames "Item" (by cbv) (by decide)
    · exact isIdentifier_of_writtenNames "Order" (by cbv) (by decide)
  enums := by
    intro enum member name named
    fin_cases member
    have own : depotModel.enums[0].schemaName = .ok (.text "OrderStatus") := by cbv
    cases own.symm.trans named
    exact ⟨"OrderStatus", rfl, by decide⟩
  table := givesNamesOf_of_none (fun _ => rfl) (fun _ => rfl) rfl
  maps := by
    refine namesMapTypes_of_fields (depotModel.composites.flatMap (·.fields)) (by cbv) ?_
    intro field member
    rcases List.mem_pair.mp member with rfl | rfl
    · exact namesMapTypes_named ..
    · constructor
      · intro key value annotated
        cases annotated
      · rintro key value ⟨⟩
        exact ⟨by rintro key value ⟨⟩, by decide⟩

private theorem conversionsOf_depotContext :
    (StubData.of depotContext {} "").toOption.map (fun data =>
        (data.enumNames, data.messageNames, data.stems,
          (TypesModule.lines data).toOption.map conversionsOf)) =
      some (["OrderStatus"], ["Item", "Order"],
        ["order_status", "item", "item_slice", "order", "order_slice"],
        some (enumConversions "order_status" ++ messageConversions "item" "Item"
          ++ messageConversions "order" "Order"
          ++ [.ofMap "convert_map_to_proto_string_Item",
            .ofMap "convert_map_from_proto_string_Item"])) := by
  decide +kernel

theorem functionNames_of_check_depotContext :
    ∃ found data lines, Validation.check depotContext depotContext.model.wholeUnit = .ok found ∧
      NamesIdentifiers depotContext ∧ StubData.of depotContext {} "" = .ok data ∧
      TypesModule.lines data = .ok lines ∧
      (∀ name ∈ functionNames lines, Text.IsFunctionName name) ∧
      (functionNames lines).Nodup := by
  have accepts : (Validation.check depotContext depotContext.model.wholeUnit).toOption.isSome =
      true := by
    decide +kernel
  rcases exists_of_isSome_toOption accepts with ⟨found, accepted⟩
  rcases exists_of_toOption_map conversionsOf_depotContext with ⟨data, made, shown⟩
  simp only [Prod.mk.injEq] at shown
  rcases shown with ⟨enums, messages, stems, conversions⟩
  rcases functionNames_of_check depotContext {} "" found data accepted namesIdentifiers_depotContext
    made with ⟨lines, written, -, valid, distinct⟩
  rw [written] at conversions
  have own := Option.some.inj conversions
  refine ⟨found, data, lines, accepted, namesIdentifiers_depotContext, made, written,
    valid.mpr ?_, distinct.mpr ⟨?_, ?_⟩⟩
  · rw [enums, messages]
    decide +kernel
  · rw [stems]
    decide
  · rw [stems, own]
    decide +kernel

/-- Messages whose names have the same words. -/
def twinModel : Model :=
  { composites :=
      [{ name := .text "UserID", fields := [{ name := .text "Id", type := .named "int64" "" }] },
       { name := .text "UserId", fields := [{ name := .text "Id", type := .named "int64" "" }] }] }

def twinContext : SchemaContext := .of twinModel {}

private theorem namesIdentifiers_twinContext : NamesIdentifiers twinContext where
  messages := by
    intro composite member
    fin_cases member
    · exact isIdentifier_of_writtenNames "UserID" (by cbv) (by decide)
    · exact isIdentifier_of_writtenNames "UserId" (by cbv) (by decide)
  enums := by rintro enum ⟨⟩
  table := givesNamesOf_of_none (fun _ => rfl) (fun _ => rfl) rfl
  maps := by
    refine namesMapTypes_of_fields (twinModel.composites.flatMap (·.fields)) (by cbv) ?_
    intro field member
    rcases List.mem_pair.mp member with rfl | rfl
    all_goals exact namesMapTypes_named ..

/-- Both messages define all functions that are named in snake case. -/
theorem functionNames_of_check_twinContext :
    ∃ found data lines, Validation.check twinContext twinContext.model.wholeUnit = .ok found ∧
      NamesIdentifiers twinContext ∧ StubData.of twinContext {} "" = .ok data ∧
      TypesModule.lines data = .ok lines ∧ (functionNames lines).count "user_id_to_proto" = 2 ∧
      ¬(functionNames lines).Nodup := by
  have accepts : (Validation.check twinContext twinContext.model.wholeUnit).toOption.isSome =
      true := by
    decide +kernel
  have defines : (StubData.of twinContext {} "").toOption.map (fun data =>
      (TypesModule.lines data).toOption.map fun lines =>
        (functionNames lines).count "user_id_to_proto") = some (some 2) := by
    decide +kernel
  rcases exists_of_isSome_toOption accepts with ⟨found, accepted⟩
  rcases exists_of_toOption_map defines with ⟨data, made, counted⟩
  rcases exists_of_toOption_map counted with ⟨lines, written, twice⟩
  refine ⟨found, data, lines, accepted, namesIdentifiers_twinContext, made, written, twice, ?_⟩
  intro distinct
  have once := List.nodup_iff_count_le_one.mp distinct "user_id_to_proto"
  rw [twice] at once
  exact absurd once (by decide)

end WireSchema.Stub
