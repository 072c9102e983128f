import WireSchema.Proofs.Document.Table
import WireSchema.Proofs.Schema.Outcome
import WireSchema.Proofs.Stub.Conversions

namespace WireSchema

/-!
# Stub data names what it holds

The conversions of a value are found by its schema type alone, those that are defined by the
declarations of the model.  Both lead to the same names: a type is converted as a message exactly
when it is the name of a message, and as an enumeration when an enumeration goes by it.  A map
shares the conversions of the first map of the same types.  So stub data that is made of a model is
backed.
-/

open Asked

/-! ## Names -/

/-- The replaceable text of a value is that of a text. -/
theorem Value.eq_text_of_askReplaceable {value : Value} {content : String}
    (asked : value.askReplaceable = .ok content) : value = .text content := by
  cases value with
  | text own =>
      cases asked
      rfl
  | null | bool _ | int _ | float _ | date _ | list _ | map _ => cases asked

theorem Value.eq_of_askKey {value key : Value} (asked : value.askKey = .ok key) : key = value := by
  unfold askKey at asked
  split at asked
  · cases asked
    rfl
  · cases asked

theorem eq_text_of_snakeCaseOf {name : Value} {snake : String}
    (asked : snakeCaseOf name = .ok snake) :
    ∃ content, name = .text content ∧ snake = Text.toSnakeCase content := by
  rcases bind_eq_ok_iff.mp asked with ⟨content, replaceable, final⟩
  cases final
  exact ⟨content, Value.eq_text_of_askReplaceable replaceable, rfl⟩

namespace Stub

/-! ## Kinds of values -/

namespace ConvertedTypes

variable {types : ConvertedTypes} {type : Value} {helper : String}

/-- An enumeration goes by a type that is converted as one. -/
theorem lookupKey?_of_kindOf_enum (kind : types.kindOf type = .ok .enum) :
    ∃ name, lookupKey? type types.enums = some name := by
  rcases bind_eq_ok_iff.mp kind with ⟨key, asked, chosen⟩
  rw [Value.eq_of_askKey asked] at chosen
  split at chosen
  · cases chosen
  split at chosen
  · cases chosen
  split at chosen
  · cases chosen
  split at chosen
  · rename_i found
    exact Option.isSome_iff_exists.mp found
  split at chosen <;> cases chosen

/-- A type that is converted as a message is the name of one, and no enumeration goes by it. -/
theorem contains_of_kindOf_message (kind : types.kindOf type = .ok .message) :
    lookupKey? type types.enums = none ∧ types.messages.contains type = true := by
  rcases bind_eq_ok_iff.mp kind with ⟨key, asked, chosen⟩
  rw [Value.eq_of_askKey asked] at chosen
  split at chosen
  · cases chosen
  split at chosen
  · cases chosen
  split at chosen
  · cases chosen
  split at chosen
  · cases chosen
  rename_i noEnum
  split at chosen
  · rename_i isMessage
    exact ⟨Option.not_isSome_iff_eq_none.mp noEnum, isMessage⟩
  · cases chosen

theorem exists_of_helperName_enum (kind : types.kindOf type = .ok .enum)
    (named : types.helperName type = .ok helper) :
    ∃ pair ∈ types.enums, snakeCaseOf pair.2 = .ok helper := by
  rcases lookupKey?_of_kindOf_enum kind with ⟨name, found⟩
  rcases exists_of_lookupKey? found with ⟨pair, member, same⟩
  refine ⟨pair, member, ?_⟩
  rwa [same, ← Option.getD_some (a := name) (b := type), ← found]

theorem exists_of_helperName_message (kind : types.kindOf type = .ok .message)
    (named : types.helperName type = .ok helper) :
    ∃ content, type = .text content ∧ .text content ∈ types.messages ∧
      snakeCaseOf (.text content) = .ok helper := by
  rcases contains_of_kindOf_message kind with ⟨noEnum, isMessage⟩
  rw [helperName, noEnum, Option.getD_none] at named
  rcases eq_text_of_snakeCaseOf named with ⟨content, rfl, -⟩
  rcases List.contains_iff_exists_mem_beq.mp isMessage with ⟨other, member, same⟩
  rw [Value.text_beq_iff.mp same] at member
  exact ⟨content, rfl, member, named⟩

/-- Stub data has a message for every name of a message, and an enumeration for every name that one
goes by. -/
structure AreWritten (types : ConvertedTypes) (data : StubData) : Prop where
  messages : ∀ content, .text content ∈ types.messages →
    ∃ info ∈ data.types, info.snake = snakeCaseOf (.text content) ∧
      info.pointerName = sanitizedName (.text content)
  enums : ∀ pair ∈ types.enums, ∃ info ∈ data.enums, info.snake = snakeCaseOf pair.2

/-- What a type is converted by belongs to a message or an enumeration. -/
theorem AreWritten.backs {data : StubData} {kind : ValueKind} {pointer : String}
    (written : types.AreWritten data) (found : types.kindOf type = .ok kind)
    (named : types.valueHelper kind type = .ok helper)
    (pointed : isConverted kind = true → sanitizedName type = .ok pointer) :
    data.Backs kind helper pointer := by
  cases kind with
  | message =>
      rcases exists_of_helperName_message found named with ⟨content, rfl, member, snake⟩
      rcases written.messages content member with ⟨info, among, own, ownPointer⟩
      exact ⟨info, among, own.trans snake, ownPointer.trans (pointed rfl)⟩
  | enum =>
      rcases exists_of_helperName_enum found named with ⟨pair, member, snake⟩
      rcases written.enums pair member with ⟨info, among, own⟩
      exact ⟨info, among, own.trans snake⟩
  | scalar => trivial
  | timestamp => trivial
  | duration => trivial
  | rawMessage => trivial

theorem AreWritten.backsMessage {data : StubData} (written : types.AreWritten data)
    (named : types.messageHelper type = .ok helper) : data.BacksMessage helper := by
  intro given
  rcases bind_eq_ok_iff.mp named with ⟨kind, found, rest⟩
  split at rest
  · rename_i isMessage
    rw [eq_of_beq isMessage] at found
    rcases exists_of_helperName_message found rest with ⟨content, rfl, -, -⟩
    exact ⟨_, written.backs found rest fun _ => rfl⟩
  · cases rest
    exact absurd rfl given

end ConvertedTypes

/-! ## Maps -/

section Maps

/-- Adds a kind of map unless one of its name is known.  Names and not types are
compared, so that two kinds of the same name share the conversions of the first
one. -/
def addMap (known : List MapConversion) (map : MapConversion) : List MapConversion :=
  if known.any (·.toName == map.toName) then known else known ++ [map]

variable {known maps : List MapConversion} {map : MapConversion}

theorem subset_addMap : known ⊆ addMap known map := by
  unfold addMap
  split
  · exact List.Subset.refl known
  · exact List.subset_append_left known [map]

theorem eq_or_mem_of_mem_addMap {other : MapConversion} (member : other ∈ addMap known map) :
    other = map ∨ other ∈ known := by
  unfold addMap at member
  split at member
  · exact Or.inr member
  · exact (List.mem_append.mp member).symm.imp List.mem_singleton.mp id

theorem exists_mem_addMap (known : List MapConversion) (map : MapConversion) :
    ∃ shared ∈ addMap known map, shared.toName = map.toName := by
  unfold addMap
  split
  · rename_i found
    rcases List.any_eq_true.mp found with ⟨shared, member, same⟩
    exact ⟨shared, member, eq_of_beq same⟩
  · exact ⟨map, List.mem_append_right known (List.mem_singleton_self map), rfl⟩

theorem subset_foldl_addMap : known ⊆ maps.foldl addMap known := by
  induction maps generalizing known with
  | nil => exact List.Subset.refl known
  | cons map maps ih => exact List.Subset.trans subset_addMap ih

/-- Adding kinds of maps leads to no others. -/
theorem mem_or_mem_of_mem_foldl (member : map ∈ maps.foldl addMap known) :
    map ∈ known ∨ map ∈ maps := by
  induction maps generalizing known with
  | nil => exact Or.inl member
  | cons first maps ih =>
      rcases ih member with early | later
      · rcases eq_or_mem_of_mem_addMap early with rfl | old
        · exact Or.inr List.mem_cons_self
        · exact Or.inl old
      · exact Or.inr (List.mem_cons_of_mem first later)

/-- Each kind of map that is added shares the name of one that is kept. -/
theorem exists_mem_foldl_addMap (known : List MapConversion) (member : map ∈ maps) :
    ∃ shared ∈ maps.foldl addMap known, shared.toName = map.toName := by
  induction maps generalizing known with
  | nil => cases member
  | cons first maps ih =>
      rw [List.foldl_cons]
      rcases List.mem_cons.mp member with rfl | later
      · rcases exists_mem_addMap known map with ⟨shared, kept, same⟩
        exact ⟨shared, subset_foldl_addMap kept, same⟩
      · exact ih (addMap known first) later

def fieldMaps (types : List TypeInfo) : List MapConversion :=
  types.flatMap fun type => type.fields.filterMap (·.map)

theorem mem_fieldMaps_of_mem_mapsOf {types : List TypeInfo} (member : map ∈ mapsOf types) :
    map ∈ fieldMaps types :=
  (mem_or_mem_of_mem_foldl member).resolve_left List.not_mem_nil

/-- A map of a field is found among the kinds of maps by its name. -/
theorem exists_find?_mapsOf {types : List TypeInfo} (member : map ∈ fieldMaps types) :
    ∃ shared ∈ mapsOf types,
      (mapsOf types).find? (·.toName == map.toName) = some shared := by
  rcases exists_mem_foldl_addMap [] member with ⟨shared, kept, same⟩
  have found : ((mapsOf types).find? (·.toName == map.toName)).isSome = true :=
    List.find?_isSome.mpr ⟨shared, kept, beq_iff_eq.mpr same⟩
  rcases Option.isSome_iff_exists.mp found with ⟨first, first?⟩
  exact ⟨first, List.mem_of_find?_eq_some first?, first?⟩

end Maps

/-! ## Fields -/

variable {types : ConvertedTypes} {data : StubData}

/-- The descriptor of a field that is no map. -/
theorem exists_of_plainFieldInfo {planned : PlannedField} {field : FieldInfo}
    (described : plainFieldInfo types planned = .ok field) :
    ∃ value helper pointer, types.kindOf planned.type = .ok value ∧
      types.valueHelper value planned.type = .ok helper ∧
      (ConvertedTypes.isConverted value = true → sanitizedName planned.type = .ok pointer) ∧
      field =
        { sourceName := planned.field.name
          schemaName := planned.name
          kind := fieldKind planned.shape value
          helper, pointerName := pointer
          isMessage := (fieldKind planned.shape value).isMessage
          map := none } := by
  rcases bind_eq_ok_iff.mp described with ⟨value, kind, rest⟩
  rcases bind_eq_ok_iff.mp rest with ⟨helper, named, rest⟩
  refine ⟨value, helper, ?_⟩
  cases converted : ConvertedTypes.isConverted value with
  | true =>
      rw [if_pos converted] at rest
      rcases bind_eq_ok_iff.mp rest with ⟨pointer, pointed, final⟩
      cases final
      exact ⟨pointer, kind, named, fun _ => pointed, rfl⟩
  | false =>
      rw [if_neg (by rw [converted]; decide)] at rest
      cases rest
      exact ⟨"", kind, named, nofun, rfl⟩

/-- What a field names in its descriptor is there. -/
theorem ConvertedTypes.AreWritten.isBacked {planned : PlannedField} {field : FieldInfo}
    (written : types.AreWritten data) (described : fieldInfo types planned = .ok field)
    (shared : ∀ map, field.map = some map →
      ∃ kept ∈ data.maps, data.maps.find? (·.toName == map.toName) = some kept) :
    (field.sharing data.maps).IsBacked data := by
  unfold fieldInfo at described
  split at described
  · rcases bind_eq_ok_iff.mp described with ⟨map, -, final⟩
    cases final
    rcases shared map rfl with ⟨kept, member, found⟩
    exact .ofMap kept rfl rfl found member
  · rcases exists_of_plainFieldInfo described with
      ⟨value, helper, pointer, kind, named, pointed, rfl⟩
    exact .ofValue planned.shape value rfl rfl (written.backs kind named pointed)

/-- What the values of a field's map name is there. -/
theorem ConvertedTypes.AreWritten.backs_map {planned : PlannedField} {field : FieldInfo}
    {map : MapConversion} (written : types.AreWritten data)
    (described : fieldInfo types planned = .ok field) (given : field.map = some map) :
    ∃ pointer, data.Backs map.valueKind map.valueHelper pointer := by
  unfold fieldInfo at described
  split at described
  · rcases bind_eq_ok_iff.mp described with ⟨made, converted, final⟩
    cases final
    cases given
    rcases bind_eq_ok_iff.mp converted with ⟨kind, found, rest⟩
    rcases bind_eq_ok_iff.mp rest with ⟨helper, named, rest⟩
    rcases bind_eq_ok_iff.mp rest with ⟨suffix, suffixed, final⟩
    rcases bind_eq_ok_iff.mp suffixed with ⟨key, -, suffixed⟩
    rcases bind_eq_ok_iff.mp suffixed with ⟨pointer, pointed, -⟩
    cases final
    exact ⟨pointer, written.backs found named fun _ => pointed⟩
  · rcases exists_of_plainFieldInfo described with ⟨value, helper, pointer, -, -, -, rfl⟩
    cases given

/-! ## Messages -/

/-- The descriptor of a message has its fields in order, and its names are those of the message. -/
theorem exists_of_messageInfo {plan : MessagePlan} {info : TypeInfo}
    (described : messageInfo types plan = .ok info) :
    List.Forall₂ (fun planned field => fieldInfo types planned = .ok field) plan.fields
      info.fields ∧
      info = TypeInfo.of plan.name plan.composite.name false info.fields := by
  rcases bind_eq_ok_iff.mp described with ⟨fields, each, final⟩
  cases final
  exact ⟨mapM_eq_ok_iff.mp each, rfl⟩

/-- A message has a descriptor under each of its names. -/
theorem exists_of_messageInfos {context : SchemaContext} {composite : Composite} {name : Value}
    {names : List Value} {infos : List TypeInfo} (isMessage : composite.isMessage = .ok true)
    (named : composite.messageNames = .ok names) (member : name ∈ names)
    (described : messageInfos context types composite = .ok infos) :
    ∃ info ∈ infos, info.snake = snakeCaseOf name ∧ info.pointerName = sanitizedName name := by
  rcases bind_eq_ok_iff.mp described with ⟨plans, planned, each⟩
  rw [SchemaContext.plansIfMessage, isMessage, ok_bind, if_pos rfl, SchemaContext.plans, named,
    ok_bind] at planned
  rcases exists_mem_of_mapM planned member with ⟨plan, among, own⟩
  rcases exists_mem_of_mapM each among with ⟨info, inInfos, made⟩
  rw [← SchemaContext.name_of_plan own]
  refine ⟨info, inInfos, ?_⟩
  rw [(exists_of_messageInfo made).2]
  exact ⟨rfl, rfl⟩

/-- The descriptors of composite types are those of the plans of their messages, one by one. -/
theorem exists_plans_of_messageInfos {context : SchemaContext} {composites : List Composite}
    {lists : List (List TypeInfo)}
    (described : composites.mapM (messageInfos context types) = .ok lists) :
    ∃ plans, context.messagePlans composites = .ok plans ∧
      List.Forall₂ (fun plan info => messageInfo types plan = .ok info) plans lists.flatten := by
  have related := mapM_eq_ok_iff.mp described
  clear described
  induction related with
  | nil => exact ⟨[], rfl, .nil⟩
  | @cons composite infos composites lists own _ ih =>
      rcases bind_eq_ok_iff.mp own with ⟨plans, planned, each⟩
      rcases ih with ⟨others, further, rest⟩
      rcases bind_eq_ok_iff.mp further with ⟨groups, grouped, final⟩
      cases final
      refine ⟨plans ++ groups.flatten, ?_, ?_⟩
      · rw [SchemaContext.messagePlans, mapM_cons_eq_ok planned grouped, ok_bind]
        rfl
      · exact List.rel_append (mapM_eq_ok_iff.mp each) rest

/-! ## The whole data -/

/-- Stub data is made of the descriptors of the declarations of a model.  Each
list keeps the order of the declarations, and conversions of maps are collected
from all types. -/
structure StubData.IsMadeOf (context : SchemaContext) (stubs : StubOptions) (commandLine : String)
    (converted : ConvertedTypes) (types : List (List TypeInfo)) (data : StubData) : Prop where
  ofModel : ConvertedTypes.of context.model = .ok converted
  ofComposites : context.model.composites.mapM (messageInfos context converted) = .ok types
  ofEnums : ∃ enums, writtenEnums context.model.enums = .ok enums ∧
    enums.mapM enumInfo = .ok data.enums
  ofServices : ∃ services : List Service,
    services.mapM (serviceInfo converted stubs.streamingSupport.isTruthy) = .ok data.services
  maps : data.maps = mapsOf types.flatten
  types : data.types = types.flatten.map (·.sharing data.maps)
  usesEmpty : data.usesEmpty = data.services.any fun service => service.methods.any (·.usesEmpty)
  modulePath : data.modulePath = stubs.modulePath
  protobufPackage : data.protobufPackage = stubs.protobufPackage
  protobufAlias : data.protobufAlias = stubs.protobufAlias
  grpcPackage : data.grpcPackage = stubs.grpcPackage
  grpcAlias : data.grpcAlias = stubs.grpcAlias
  commandLine : data.commandLine = commandLine

theorem StubData.exists_isMadeOf {context : SchemaContext} {stubs : StubOptions}
    {commandLine : String} (made : StubData.of context stubs commandLine = .ok data) :
    ∃ converted types, data.IsMadeOf context stubs commandLine converted types := by
  rcases bind_eq_ok_iff.mp made with ⟨converted, ofModel, made⟩
  rcases bind_eq_ok_iff.mp made with ⟨types, ofComposites, made⟩
  rcases bind_eq_ok_iff.mp made with ⟨kept, keeps, made⟩
  rcases bind_eq_ok_iff.mp made with ⟨enums, ofEnums, made⟩
  rcases bind_eq_ok_iff.mp made with ⟨written, -, made⟩
  rcases bind_eq_ok_iff.mp made with ⟨services, ofServices, made⟩
  cases made
  exact ⟨converted, types, ofModel, ofComposites, ⟨kept, keeps, ofEnums⟩, ⟨written, ofServices⟩,
    rfl, rfl, rfl, rfl, rfl, rfl, rfl, rfl, rfl⟩

namespace StubData.IsMadeOf

variable {context : SchemaContext} {stubs : StubOptions} {commandLine : String}
  {converted : ConvertedTypes} {lists : List (List TypeInfo)}

/-- Every name of a message has its descriptor in the data. -/
theorem exists_message (made : data.IsMadeOf context stubs commandLine converted lists)
    {content : String} (member : .text content ∈ converted.messages) :
    ∃ info ∈ data.types, info.snake = snakeCaseOf (.text content) ∧
      info.pointerName = sanitizedName (.text content) := by
  rcases bind_eq_ok_iff.mp made.ofModel with ⟨named, ofMessages, rest⟩
  rcases bind_eq_ok_iff.mp rest with ⟨enums, -, final⟩
  cases final
  rcases List.mem_flatten.mp member with ⟨own, among, inside⟩
  rcases exists_of_mem_mapM ofMessages among with ⟨composite, declared, found⟩
  rcases bind_eq_ok_iff.mp found with ⟨isMessage, asked, found⟩
  cases isMessage with
  | false =>
      cases found
      cases inside
  | true =>
      rcases bind_eq_ok_iff.mp found with ⟨names, stated, keys⟩
      rcases exists_of_mem_mapM keys inside with ⟨name, inNames, key⟩
      rw [← Value.eq_of_askKey key] at inNames
      rcases exists_mem_of_mapM made.ofComposites declared with ⟨infos, inLists, described⟩
      rcases exists_of_messageInfos asked stated inNames described with
        ⟨info, inInfos, snake, pointer⟩
      refine ⟨info.sharing data.maps, ?_, snake, pointer⟩
      rw [made.types]
      exact List.mem_map_of_mem (List.mem_flatten.mpr ⟨infos, inLists, inInfos⟩)

/-- Every name by which an enumeration goes belongs to a descriptor in the data. -/
theorem exists_enum (made : data.IsMadeOf context stubs commandLine converted lists)
    {pair : Value × Value} (member : pair ∈ converted.enums) :
    ∃ info ∈ data.enums, info.snake = snakeCaseOf pair.2 := by
  rcases bind_eq_ok_iff.mp made.ofModel with ⟨named, -, rest⟩
  rcases bind_eq_ok_iff.mp rest with ⟨enums, ofEnums, final⟩
  cases final
  rcases exists_mem_of_mem_setKeys member with ⟨other, inFlat, same⟩
  rcases List.mem_flatten.mp inFlat with ⟨own, among, inside⟩
  rcases exists_of_mem_mapM ofEnums among with ⟨enum, declared, found⟩
  rcases bind_eq_ok_iff.mp found with ⟨isWritten, asked, found⟩
  cases isWritten with
  | false =>
      cases found
      cases inside
  | true =>
      rcases bind_eq_ok_iff.mp found with ⟨name, stated, found⟩
      rcases bind_eq_ok_iff.mp found with ⟨first, -, found⟩
      rcases bind_eq_ok_iff.mp found with ⟨second, -, found⟩
      cases found
      have value : other.2 = name := by
        simp only [List.mem_cons, List.not_mem_nil, or_false] at inside
        rcases inside with rfl | rfl <;> rfl
      rcases made.ofEnums with ⟨kept, keeps, described⟩
      rcases exists_mem_of_mapM described (mem_keepWhere keeps declared asked) with
        ⟨info, inInfos, own⟩
      rw [enumInfo, stated, ok_bind] at own
      cases own
      exact ⟨_, inInfos, by rw [← same, value]; rfl⟩

theorem areWritten (made : data.IsMadeOf context stubs commandLine converted lists) :
    converted.AreWritten data where
  messages := fun _ => made.exists_message
  enums := fun _ => made.exists_enum

/-- The fields of the data before their maps are shared. -/
theorem exists_field (made : data.IsMadeOf context stubs commandLine converted lists)
    {type : TypeInfo} {field : FieldInfo} (member : type ∈ lists.flatten)
    (own : field ∈ type.fields) :
    ∃ planned, fieldInfo converted planned = .ok field := by
  rcases List.mem_flatten.mp member with ⟨infos, inLists, inInfos⟩
  rcases exists_of_mem_mapM made.ofComposites inLists with ⟨composite, -, described⟩
  rcases bind_eq_ok_iff.mp described with ⟨plans, -, each⟩
  rcases exists_of_mem_mapM each inInfos with ⟨plan, -, info⟩
  rcases bind_eq_ok_iff.mp info with ⟨fields, ofFields, final⟩
  cases final
  rcases exists_of_mem_mapM ofFields own with ⟨planned, -, found⟩
  exact ⟨planned, found⟩

/-- Stub data that is made of a model is backed. -/
theorem isBacked (made : data.IsMadeOf context stubs commandLine converted lists) :
    data.IsBacked where
  fields := by
    intro type member field own
    rw [made.types] at member
    rcases List.mem_map.mp member with ⟨info, inLists, rfl⟩
    rcases List.mem_map.mp own with ⟨original, inFields, rfl⟩
    rcases made.exists_field inLists inFields with ⟨planned, described⟩
    refine made.areWritten.isBacked described fun map given => ?_
    rw [made.maps]
    refine exists_find?_mapsOf (List.mem_flatMap.mpr ⟨info, inLists, ?_⟩)
    exact List.mem_filterMap.mpr ⟨original, inFields, given⟩
  maps := by
    intro map member
    rw [made.maps] at member
    rcases List.mem_flatMap.mp (mem_fieldMaps_of_mem_mapsOf member) with ⟨type, inLists, inside⟩
    rcases List.mem_filterMap.mp inside with ⟨field, own, given⟩
    rcases made.exists_field inLists own with ⟨planned, described⟩
    exact made.areWritten.backs_map described given
  methods := by
    intro service member method own
    rcases made.ofServices with ⟨services, described⟩
    rcases exists_of_mem_mapM described member with ⟨declared, -, found⟩
    rcases bind_eq_ok_iff.mp found with ⟨methods, ofMethods, final⟩
    cases final
    rcases exists_of_mem_mapM ofMethods own with ⟨rpc, -, found⟩
    rcases bind_eq_ok_iff.mp found with ⟨input, ofInput, found⟩
    rcases bind_eq_ok_iff.mp found with ⟨output, ofOutput, found⟩
    cases found
    refine ⟨made.areWritten.backsMessage ofInput, made.areWritten.backsMessage ofOutput, ?_⟩
    intro uses
    rw [made.usesEmpty]
    exact List.any_eq_true.mpr ⟨_, member, List.any_eq_true.mpr ⟨_, own, uses⟩⟩

end StubData.IsMadeOf

end Stub

end WireSchema
