import WireSchema.Proofs.Document.Pointwise
import WireSchema.Proofs.Stub.Data
import WireSchema.Proofs.Text.Joined
import WireSchema.Proofs.Text.TypeNames

namespace WireSchema.Stub

/-!
# Which conversions a map has

Fields that are maps share conversions by name.  The name has a suffix that tells the types of keys
and values, but points and other marks of the types are replaced in it, so maps of different types
may have one suffix.  All of them are then converted as the first one is.  Every map is converted by
conversions of its own types exactly when the suffix tells the types apart that are used.
-/

open Asked

/-! ## Types of maps -/

/-- The types of keys and values that a map's conversions are made for. -/
def MapConversion.types (map : MapConversion) : Value × Value := (map.keyType, map.valueType)

/-- The types of keys and values of a field that is a map.  They are those of the
schema, so that maps of different declared types can share conversions. -/
def mapTypes? (planned : PlannedField) : Option (Value × Value) :=
  if planned.shape == .map then some planned.mapTypes else none

/-- The types of the maps among the fields of messages, in order and with repetitions. -/
def usedMapTypes (plans : List MessagePlan) : List (Value × Value) :=
  plans.flatMap fun plan => plan.fields.filterMap mapTypes?

def suffixOf (types : Value × Value) : Asked String := mapSuffix types.1 types.2

/-- Types of maps of which no two different ones have the same suffix.  Suffixes
are made by replacing characters, so that types with different punctuation can
share one. -/
def NamedApart (used : List (Value × Value)) : Prop :=
  ∀ first ∈ used, ∀ second ∈ used, suffixOf first = suffixOf second → first = second

/-- The first of the types that are used with the suffix of given ones.  Its
conversions serve all maps of the suffix, whatever their types are. -/
def IsFirstNamedAs (used : List (Value × Value)) (types found : Value × Value) : Prop :=
  ∃ before after, used = before ++ found :: after ∧ suffixOf found = suffixOf types ∧
    ∀ earlier ∈ before, suffixOf earlier ≠ suffixOf types

theorem IsFirstNamedAs.mem {used : List (Value × Value)} {types found : Value × Value}
    (first : IsFirstNamedAs used types found) : found ∈ used := by
  rcases first with ⟨before, after, rfl, -, -⟩
  exact List.mem_append_right before List.mem_cons_self

theorem IsFirstNamedAs.suffixOf_eq {used : List (Value × Value)} {types found : Value × Value}
    (first : IsFirstNamedAs used types found) : suffixOf found = suffixOf types := by
  rcases first with ⟨-, -, -, same, -⟩
  exact same

theorem suffixOf_text (key value : String) :
    suffixOf (.text key, .text value) =
      .ok (Text.sanitizeTypeName key ++ "_" ++ Text.sanitizeTypeName value) := rfl

/-- When keys are named by letters and digits, a suffix tells the key and the value type as it is
written into names. -/
theorem eq_of_suffixOf_eq {key value other further : String}
    (letters : Text.IsAlphanum key) (otherLetters : Text.IsAlphanum other)
    (same : suffixOf (.text key, .text value) = suffixOf (.text other, .text further)) :
    key = other ∧ Text.sanitizeTypeName value = Text.sanitizeTypeName further := by
  rw [suffixOf_text, suffixOf_text, letters.sanitizeTypeName_eq,
    otherLetters.sanitizeTypeName_eq, Except.ok.injEq, ← String.toList_inj] at same
  have chars : key.toList ++ '_' :: (Text.sanitizeTypeName value).toList =
      other.toList ++ '_' :: (Text.sanitizeTypeName further).toList := by
    simpa using same
  have ends : ∀ rest : List Char, ∀ c ∈ ('_' :: rest).head?, ¬c.isAlphanum = true := by
    intro rest c own
    cases Option.mem_some_iff.mp own
    decide
  rcases Text.append_inj_of_class letters otherLetters (ends _) (ends _) chars with ⟨keys, values⟩
  exact ⟨String.toList_inj.mp keys, String.toList_inj.mp (List.cons.inj values).2⟩

/-- A suffix tells types apart when keys are named by letters and digits, and values by qualified
names without underscores. -/
theorem namedApart_of_isQualified {used : List (Value × Value)}
    (plain : ∀ types ∈ used, ∃ key value, types = (.text key, .text value) ∧
      Text.IsAlphanum key ∧ Text.IsQualified value ∧ '_' ∉ value.toList) :
    NamedApart used := by
  intro first inUsed second alsoUsed same
  rcases plain first inUsed with ⟨key, value, rfl, letters, qualified, noMark⟩
  rcases plain second alsoUsed with ⟨other, further, rfl, otherLetters, otherQualified, otherNoMark⟩
  rcases eq_of_suffixOf_eq letters otherLetters same with ⟨rfl, written⟩
  rw [Text.eq_of_sanitizeTypeName_eq qualified otherQualified noMark otherNoMark written]

/-! ## Names of conversions -/

/-- Conversions of a map that are named by its types.  Names of types lose their
points on the way, so different types can have one suffix. -/
def MapConversion.IsNamed (map : MapConversion) : Prop :=
  ∃ suffix, suffixOf map.types = .ok suffix ∧ map.toName = "convert_map_to_proto_" ++ suffix ∧
    map.fromName = "convert_map_from_proto_" ++ suffix

/-- The names of conversions tell as much as the suffix. -/
theorem MapConversion.IsNamed.toName_eq_iff {first second : MapConversion} (named : first.IsNamed)
    (alsoNamed : second.IsNamed) :
    first.toName = second.toName ↔ suffixOf first.types = suffixOf second.types := by
  rcases named with ⟨suffix, own, name, -⟩
  rcases alsoNamed with ⟨further, other, otherName, -⟩
  rw [own, other, name, otherName, Except.ok.injEq]
  exact String.append_right_inj _

section Fields

variable {converted : ConvertedTypes} {plans : List MessagePlan} {infos : List TypeInfo}

/-- The descriptor of a field has conversions for the types of its map, if it is one. -/
theorem map_of_fieldInfo {planned : PlannedField} {field : FieldInfo}
    (described : fieldInfo converted planned = .ok field) :
    field.map.map (·.types) = mapTypes? planned ∧ ∀ map ∈ field.map, map.IsNamed := by
  unfold fieldInfo at described
  unfold mapTypes?
  split at described
  · rename_i isMap
    rcases bind_eq_ok_iff.mp described with ⟨map, made, final⟩
    rcases bind_eq_ok_iff.mp made with ⟨kind, -, made⟩
    rcases bind_eq_ok_iff.mp made with ⟨helper, -, made⟩
    rcases bind_eq_ok_iff.mp made with ⟨suffix, named, made⟩
    cases made
    cases final
    rw [if_pos isMap]
    refine ⟨rfl, fun map own => ?_⟩
    cases Option.mem_some_iff.mp own
    exact ⟨suffix, named, rfl, rfl⟩
  · rename_i other
    rcases exists_of_plainFieldInfo described with ⟨value, helper, pointer, -, -, -, rfl⟩
    rw [if_neg other]
    exact ⟨rfl, fun map own => absurd own (Option.not_mem_none map)⟩

/-- What is planned for messages and the descriptors that are made of it, field by field. -/
def AreDescribed (converted : ConvertedTypes) (plans : List MessagePlan) (infos : List TypeInfo) :
    Prop :=
  List.Forall₂ (fun plan info => messageInfo converted plan = .ok info) plans infos

theorem types_filterMap_map {planned : List PlannedField} {fields : List FieldInfo}
    (described : List.Forall₂ (fun planned field => fieldInfo converted planned = .ok field)
      planned fields) :
    (fields.filterMap (·.map)).map (·.types) = planned.filterMap mapTypes? := by
  induction described with
  | nil => rfl
  | @cons planned field _ _ head _ rest =>
      rw [List.filterMap_cons, List.filterMap_cons, ← (map_of_fieldInfo head).1]
      cases field.map with
      | none => exact rest
      | some map => exact congrArg (map.types :: ·) rest

theorem AreDescribed.types_fieldMaps (described : AreDescribed converted plans infos) :
    (fieldMaps infos).map (·.types) = usedMapTypes plans := by
  induction described with
  | nil => rfl
  | @cons plan info plans infos own _ ih =>
      rw [fieldMaps, List.flatMap_cons, List.map_append,
        types_filterMap_map (exists_of_messageInfo own).1, usedMapTypes, List.flatMap_cons]
      exact congrArg _ ih

theorem AreDescribed.isNamed (described : AreDescribed converted plans infos) {map : MapConversion}
    (member : map ∈ fieldMaps infos) : map.IsNamed := by
  rcases List.mem_flatMap.mp member with ⟨info, among, inside⟩
  rcases List.mem_filterMap.mp inside with ⟨field, own, given⟩
  rcases exists_left_of_forall₂ described among with ⟨plan, -, made⟩
  rcases exists_left_of_forall₂ (exists_of_messageInfo made).1 own with ⟨planned, -, found⟩
  exact (map_of_fieldInfo found).2 map given

end Fields

/-! ## Sharing -/

section Sharing

variable {known maps : List MapConversion}

/-- The conversions of a name that are kept are the first ones of that name. -/
theorem find?_foldl_addMap (name : String) :
    (maps.foldl addMap known).find? (·.toName == name) =
      (known ++ maps).find? (·.toName == name) := by
  induction maps generalizing known with
  | nil => rw [List.foldl_nil, List.append_nil]
  | cons map maps ih =>
      rw [List.foldl_cons, ih, addMap]
      split
      · rename_i isKnown
        rcases List.any_eq_true.mp isKnown with ⟨earlier, member, same⟩
        rw [List.find?_append, List.find?_append, List.find?_cons]
        cases own : map.toName == name with
        | false => rfl
        | true =>
            -- A name that is known is found before the map is reached.
            have found : (known.find? (·.toName == name)).isSome = true :=
              List.find?_isSome.mpr ⟨earlier, member, by rw [eq_of_beq same, own]⟩
            rcases Option.isSome_iff_exists.mp found with ⟨first, isFirst⟩
            rw [isFirst, Option.some_or, Option.some_or]
      · rw [List.append_assoc, List.singleton_append]

/-- No two conversions that are kept have the same name. -/
theorem nodup_foldl_addMap (distinct : (known.map (·.toName)).Nodup) :
    ((maps.foldl addMap known).map (·.toName)).Nodup := by
  induction maps generalizing known with
  | nil => exact distinct
  | cons map maps ih =>
      rw [List.foldl_cons]
      refine ih ?_
      rw [addMap]
      split
      · exact distinct
      · rename_i isNew
        rw [List.map_append, List.map_singleton, List.nodup_append]
        refine ⟨distinct, List.nodup_singleton _, fun name member other own same => isNew ?_⟩
        cases List.mem_singleton.mp own
        rcases List.mem_map.mp member with ⟨earlier, among, rfl⟩
        exact List.any_eq_true.mpr ⟨earlier, among, beq_iff_eq.mpr same⟩

theorem find?_mapsOf (infos : List TypeInfo) (name : String) :
    (mapsOf infos).find? (·.toName == name) = (fieldMaps infos).find? (·.toName == name) :=
  find?_foldl_addMap name

theorem nodup_mapsOf (infos : List TypeInfo) : ((mapsOf infos).map (·.toName)).Nodup :=
  nodup_foldl_addMap List.nodup_nil

end Sharing

/-! ## The whole data -/

section Data

variable {converted : ConvertedTypes} {plans : List MessagePlan} {infos : List TypeInfo}
  {map shared : MapConversion} {data : StubData}

/-- The conversions that are shared under the name of a map are made for the first types with its
suffix. -/
theorem AreDescribed.isFirstNamedAs (described : AreDescribed converted plans infos)
    (member : map ∈ fieldMaps infos)
    (found : (mapsOf infos).find? (·.toName == map.toName) = some shared) :
    IsFirstNamedAs (usedMapTypes plans) map.types shared.types := by
  rw [find?_mapsOf] at found
  have named := described.isNamed member
  rcases List.find?_eq_some_iff_append.mp found with ⟨same, before, after, whole, others⟩
  have inWhole : ∀ other ∈ before ++ [shared], other ∈ fieldMaps infos := by
    intro other inside
    rw [whole, List.append_cons]
    exact List.mem_append_left after inside
  refine ⟨before.map (·.types), after.map (·.types), ?_, ?_, ?_⟩
  · rw [← described.types_fieldMaps, whole, List.map_append, List.map_cons]
  · have alsoNamed := described.isNamed (inWhole shared (by simp))
    exact (alsoNamed.toName_eq_iff named).mp (eq_of_beq same)
  · intro types early
    rcases List.mem_map.mp early with ⟨other, inBefore, rfl⟩
    have alsoNamed := described.isNamed (inWhole other (by simp [inBefore]))
    rw [Ne, ← alsoNamed.toName_eq_iff named]
    simpa using others other inBefore

/-- A field and its descriptor: one that is a map has conversions out of given ones, and they are
made for the first types with its suffix. -/
def IsShared (maps : List MapConversion) (used : List (Value × Value)) (planned : PlannedField)
    (field : FieldInfo) : Prop :=
  Option.Rel (fun types map => map ∈ maps ∧ IsFirstNamedAs used types map.types)
    (mapTypes? planned) field.map

theorem IsShared.types_eq {maps : List MapConversion} {used : List (Value × Value)}
    {planned : PlannedField} {field : FieldInfo} (isShared : IsShared maps used planned field)
    (apart : NamedApart used) (own : ∀ types ∈ mapTypes? planned, types ∈ used) :
    field.map.map (·.types) = mapTypes? planned := by
  rw [IsShared] at isShared
  cases types? : mapTypes? planned with
  | none =>
      rw [types?] at isShared
      cases given : field.map with
      | none => rfl
      | some map =>
          rw [given] at isShared
          cases isShared
  | some types =>
      rw [types?] at isShared
      cases given : field.map with
      | none =>
          rw [given] at isShared
          cases isShared
      | some map =>
          rw [given] at isShared
          rcases isShared with ⟨-, first⟩
          exact congrArg some (apart map.types first.mem types (own types types?) first.suffixOf_eq)

/-- Maps that are shared by the suffixes of their types: a map is converted as the first one with
its suffix is, and conversions are kept once for every suffix. -/
structure StubData.SharesMaps (data : StubData) (plans : List MessagePlan) : Prop where
  fields : List.Forall₂
    (fun plan info => List.Forall₂ (IsShared data.maps (usedMapTypes plans)) plan.fields
      info.fields)
    plans data.types
  named : ∀ map ∈ data.maps, map.IsNamed
  suffixes : (data.maps.map fun map => suffixOf map.types).Nodup
  first : ∀ map ∈ data.maps, IsFirstNamedAs (usedMapTypes plans) map.types map.types
  all : ∀ types ∈ usedMapTypes plans, ∃ map ∈ data.maps, suffixOf map.types = suffixOf types

/-- Maps that are converted by their own conversions: those of a field are made for exactly the
types of its map, and conversions are kept once for every pair of types that is used. -/
structure StubData.ConvertsMaps (data : StubData) (plans : List MessagePlan) : Prop where
  fields : List.Forall₂
    (fun plan info => List.Forall₂
      (fun planned field => field.map.map (·.types) = mapTypes? planned) plan.fields info.fields)
    plans data.types
  nodup : (data.maps.map (·.types)).Nodup
  mem_iff : ∀ types, types ∈ data.maps.map (·.types) ↔ types ∈ usedMapTypes plans

theorem AreDescribed.isShared (described : AreDescribed converted plans infos)
    {planned : PlannedField} {field : FieldInfo} (own : fieldInfo converted planned = .ok field)
    (member : ∀ map ∈ field.map, map ∈ fieldMaps infos) :
    IsShared (mapsOf infos) (usedMapTypes plans) planned (field.sharing (mapsOf infos)) := by
  rw [IsShared, ← (map_of_fieldInfo own).1, FieldInfo.sharing]
  cases given : field.map with
  | none => exact .none
  | some map =>
      have inMaps : map ∈ fieldMaps infos := member map given
      rcases exists_find?_mapsOf inMaps with ⟨shared, kept, found⟩
      rw [Option.bind_some, found]
      exact .some ⟨kept, described.isFirstNamedAs inMaps found⟩

/-- The stub data of described messages shares maps. -/
theorem AreDescribed.sharesMaps (described : AreDescribed converted plans infos)
    (maps : data.maps = mapsOf infos) (types : data.types = infos.map (·.sharing data.maps)) :
    data.SharesMaps plans where
  fields := by
    rw [types, maps]
    refine List.forall₂_map_right_iff.mpr (forall₂_of_mem described fun plan _ info among own => ?_)
    refine List.forall₂_map_right_iff.mpr
      (forall₂_of_mem (exists_of_messageInfo own).1 fun planned _ field inside made => ?_)
    refine described.isShared made fun map given => ?_
    exact List.mem_flatMap.mpr ⟨info, among, List.mem_filterMap.mpr ⟨field, inside, given⟩⟩
  named := by
    intro map member
    rw [maps] at member
    exact described.isNamed (mem_fieldMaps_of_mem_mapsOf member)
  suffixes := by
    rw [maps]
    refine (List.Nodup.of_map _ (nodup_mapsOf infos)).map_on fun map member other among same => ?_
    have named := described.isNamed (mem_fieldMaps_of_mem_mapsOf member)
    have alsoNamed := described.isNamed (mem_fieldMaps_of_mem_mapsOf among)
    exact List.inj_on_of_nodup_map (nodup_mapsOf infos) member among
      ((named.toName_eq_iff alsoNamed).mpr same)
  first := by
    intro map member
    rw [maps] at member
    have inMaps := mem_fieldMaps_of_mem_mapsOf member
    rcases exists_find?_mapsOf inMaps with ⟨shared, kept, found⟩
    have same : shared = map :=
      List.inj_on_of_nodup_map (nodup_mapsOf infos) kept member
        (by simpa using List.find?_some found)
    rw [same] at found
    exact described.isFirstNamedAs inMaps found
  all := by
    intro types used
    rw [← described.types_fieldMaps] at used
    rcases List.mem_map.mp used with ⟨map, member, rfl⟩
    rcases exists_find?_mapsOf member with ⟨shared, kept, found⟩
    rw [maps]
    exact ⟨shared, kept, (described.isFirstNamedAs member found).suffixOf_eq⟩

/-- Shared maps are converted by their own conversions exactly when suffixes tell types apart. -/
theorem StubData.SharesMaps.convertsMaps_iff (shares : data.SharesMaps plans) :
    data.ConvertsMaps plans ↔ NamedApart (usedMapTypes plans) := by
  constructor
  · intro converts first used second alsoUsed same
    rcases List.mem_map.mp ((converts.mem_iff first).mpr used) with ⟨map, kept, rfl⟩
    rcases List.mem_map.mp ((converts.mem_iff second).mpr alsoUsed) with ⟨other, alsoKept, rfl⟩
    rw [List.inj_on_of_nodup_map shares.suffixes kept alsoKept same]
  · intro apart
    refine ⟨?_, ?_, fun types => ⟨?_, fun used => ?_⟩⟩
    · refine forall₂_of_mem shares.fields fun plan inPlans info _ fields => ?_
      refine forall₂_of_mem fields fun planned inFields field _ shared => ?_
      refine shared.types_eq apart fun types own => ?_
      exact List.mem_flatMap.mpr ⟨plan, inPlans, List.mem_filterMap.mpr ⟨planned, inFields, own⟩⟩
    · have whole : ((data.maps.map (·.types)).map suffixOf).Nodup := by
        rw [List.map_map]
        exact shares.suffixes
      exact whole.of_map
    · intro member
      rcases List.mem_map.mp member with ⟨map, kept, rfl⟩
      exact (shares.first map kept).mem
    · rcases shares.all types used with ⟨map, kept, same⟩
      rw [← apart map.types (shares.first map kept).mem types used same]
      exact List.mem_map_of_mem kept

/-- The stub data of a model shares the maps of its messages. -/
theorem StubData.exists_sharesMaps {context : SchemaContext} {stubs : StubOptions}
    {commandLine : String} (made : StubData.of context stubs commandLine = .ok data) :
    ∃ plans, context.messagePlans context.model.composites = .ok plans ∧ data.SharesMaps plans := by
  rcases StubData.exists_isMadeOf made with ⟨converted, lists, origin⟩
  rcases exists_plans_of_messageInfos origin.ofComposites with ⟨plans, planned, described⟩
  exact ⟨plans, planned, AreDescribed.sharesMaps described origin.maps origin.types⟩

end Data

/-- In the stub data of a model maps share conversions by the suffixes of their types, and each map
has its own conversions exactly when no two types that are used have one suffix. -/
theorem StubData.convertsMaps_iff_namedApart (context : SchemaContext) (stubs : StubOptions)
    (commandLine : String) (data : StubData)
    (made : StubData.of context stubs commandLine = .ok data) :
    ∃ plans, context.messagePlans context.model.composites = .ok plans ∧ data.SharesMaps plans ∧
      (data.ConvertsMaps plans ↔ NamedApart (usedMapTypes plans)) := by
  rcases StubData.exists_sharesMaps made with ⟨plans, planned, shares⟩
  exact ⟨plans, planned, shares, shares.convertsMaps_iff⟩

/-- Maps of two types, one of them used twice. -/
def orderModel : Model :=
  { composites :=
      [{ name := .text "Item", fields := [{ name := .text "Id", type := .named "int64" "" }] },
       { name := .text "Order"
         fields :=
          [{ name := .text "Items"
             type := .mapping (.named "string" "") (.pointer (.named "Item" "shop")) },
           { name := .text "Times"
             type := .mapping (.named "string" "") (.named "Time" "time") },
           { name := .text "Spares"
             type := .mapping (.named "string" "") (.named "Item" "") }] }] }

def orderContext : SchemaContext := .of orderModel {}

private theorem usedMapTypes_orderModel :
    (orderContext.messagePlans orderModel.composites).toOption.map
      (fun plans => usedMapTypes plans) =
      some [(.text "string", .text "Item"), (.text "string", .text "google.protobuf.Timestamp"),
        (.text "string", .text "Item")] := by
  cbv

theorem StubData.convertsMaps_orderModel :
    ∃ data plans, StubData.of orderContext {} "" = .ok data ∧
      orderContext.messagePlans orderModel.composites = .ok plans ∧ data.ConvertsMaps plans := by
  have succeeds : (StubData.of orderContext {} "").toOption.isSome = true := by decide +kernel
  rcases exists_of_isSome_toOption succeeds with ⟨data, made⟩
  rcases StubData.convertsMaps_iff_namedApart orderContext {} "" data made with
    ⟨plans, planned, -, own⟩
  rcases exists_of_toOption_map usedMapTypes_orderModel with ⟨others, again, used⟩
  cases planned.symm.trans again
  refine ⟨data, plans, made, planned, own.mpr (namedApart_of_isQualified fun types member => ?_)⟩
  rw [used] at member
  fin_cases member
  · exact ⟨"string", "Item", rfl, by decide, by decide, by decide⟩
  · exact ⟨"string", "google.protobuf.Timestamp", rfl, by decide, by decide, by decide⟩
  · exact ⟨"string", "Item", rfl, by decide, by decide, by decide⟩

/-- Maps of two types with the same suffix: a known type and a message of the model. -/
def importModel : Model :=
  { composites :=
      [{ name := .text "shop_Item", fields := [{ name := .text "Id", type := .named "int64" "" }] },
       { name := .text "Order"
         fields :=
          [{ name := .text "Imported"
             type := .mapping (.named "string" "") (.named "Item" "shop") },
           { name := .text "Local"
             type := .mapping (.named "string" "") (.named "shop_Item" "") }] }] }

def importContext : SchemaContext :=
  .of importModel
    { knownTypes := .read [(.text "shop.Item",
        { type := .text "shop.Item", importPath := .text "shop/item.proto" })] }

private theorem usedMapTypes_importModel :
    (importContext.messagePlans importModel.composites).toOption.map
      (fun plans => usedMapTypes plans) =
      some [(.text "string", .text "shop.Item"), (.text "string", .text "shop_Item")] := by
  cbv

/-- The types of values of the maps of a type's fields, as they are shown. -/
def TypeInfo.mapValues (info : TypeInfo) : List String :=
  info.fields.filterMap fun field => field.map.map (·.valueType.display)

/-- The map of the message is converted as the one of the known type. -/
theorem StubData.sharesMaps_importModel :
    ∃ data plans, StubData.of importContext {} "" = .ok data ∧
      importContext.messagePlans importModel.composites = .ok plans ∧
      usedMapTypes plans =
        [(.text "string", .text "shop.Item"), (.text "string", .text "shop_Item")] ∧
      data.types.flatMap TypeInfo.mapValues = ["shop.Item", "shop.Item"] ∧
      ¬data.ConvertsMaps plans := by
  have shown : (StubData.of importContext {} "").toOption.map
      (fun data => data.types.flatMap TypeInfo.mapValues) = some ["shop.Item", "shop.Item"] := by
    decide +kernel
  rcases exists_of_toOption_map shown with ⟨data, made, values⟩
  rcases StubData.exists_sharesMaps made with ⟨plans, planned, shares⟩
  rcases exists_of_toOption_map usedMapTypes_importModel with ⟨others, again, used⟩
  cases planned.symm.trans again
  refine ⟨data, plans, made, planned, used, values, fun converts => ?_⟩
  have apart := shares.convertsMaps_iff.mp converts
  rw [used] at apart
  have same : suffixOf (.text "string", .text "shop.Item") =
      suffixOf (.text "string", .text "shop_Item") := by
    cbv
  have equal := apart _ List.mem_cons_self _ (List.mem_cons_of_mem _ List.mem_cons_self) same
  exact absurd equal (by simp)

end WireSchema.Stub
