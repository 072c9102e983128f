import Mathlib.Tactic.Tauto
import WireSchema.Proofs.Document.Asked
import WireSchema.Stub.Files

namespace WireSchema.Stub

/-!
# Conversions that are called and defined

The module of types defines the conversions of every enumeration, message and kind of map of its
stub data.  What it calls for a field or for the values of a map is named in their descriptors, as
is what the modules of services call.  Stub data is backed when each such name belongs to one of
its enumerations, messages or kinds of maps; then whatever is called is defined.
-/

open Asked

/-! ## Reading lines -/

/-- Whether a part of a line refers to something outside the line. -/
def Part.refers : Part → Bool
  | text _ => false
  | _ => true

/-- The parts of a line that refer to something. -/
def Part.references (parts : List Part) : List Part := parts.filter Part.refers

namespace Line

def references : Line → List Part
  | code parts => Part.references parts
  | _ => []

/-- What a line declares: an import, or a conversion of which it begins the
definition.  Lines of a body declare nothing, so a definition is counted once. -/
def declaration? : Line → Option (Import ⊕ Conversion)
  | load loaded => some (.inl loaded)
  | define conversion _ _ => some (.inr conversion)
  | code _ => none

variable {loaded : Import} {conversion : Conversion} {parameters result content : String}
  {parts : List Part}

@[simp] theorem references_load : (load loaded).references = [] := rfl

@[simp] theorem references_define : (define conversion parameters result).references = [] := rfl

@[simp] theorem references_code : (code parts).references = Part.references parts := rfl

@[simp] theorem references_plain : (plain content).references = [] := rfl

@[simp] theorem references_blank : blank.references = [] := rfl

@[simp] theorem declaration?_load : (load loaded).declaration? = some (.inl loaded) := rfl

@[simp] theorem declaration?_define :
    (define conversion parameters result).declaration? = some (.inr conversion) := rfl

@[simp] theorem declaration?_code : (code parts).declaration? = none := rfl

@[simp] theorem declaration?_plain : (plain content).declaration? = none := rfl

@[simp] theorem declaration?_blank : blank.declaration? = none := rfl

end Line

namespace Part

variable {first rest : List Part}

@[simp] theorem references_nil : references [] = [] := rfl

@[simp] theorem references_text (content : String) :
    references (text content :: rest) = references rest := rfl

@[simp] theorem references_call (conversion : Conversion) :
    references (call conversion :: rest) = call conversion :: references rest := rfl

@[simp] theorem references_emptyMessage :
    references (emptyMessage :: rest) = emptyMessage :: references rest := rfl

@[simp] theorem references_append :
    references (first ++ rest) = references first ++ references rest :=
  List.filter_append ..

end Part

def referencesOf (lines : List Line) : List Part := lines.flatMap Line.references

def declarationsOf (lines : List Line) : List (Import ⊕ Conversion) :=
  lines.filterMap Line.declaration?

section Reading

variable {first rest lines : List Line} {lists : List (List Line)} {line : Line} {α : Type}
  {items : List α}

@[simp] theorem referencesOf_nil : referencesOf [] = [] := rfl

@[simp] theorem referencesOf_cons :
    referencesOf (line :: rest) = line.references ++ referencesOf rest := rfl

@[simp] theorem referencesOf_append :
    referencesOf (first ++ rest) = referencesOf first ++ referencesOf rest :=
  List.flatMap_append

theorem referencesOf_flatMap (made : α → List Line) :
    referencesOf (items.flatMap made) = items.flatMap fun item => referencesOf (made item) :=
  List.flatMap_assoc

theorem referencesOf_map (made : α → Line) :
    referencesOf (items.map made) = items.flatMap fun item => (made item).references :=
  List.flatMap_map ..

theorem mem_referencesOf_flatten {part : Part} :
    part ∈ referencesOf lists.flatten ↔ ∃ lines ∈ lists, part ∈ referencesOf lines := by
  simp only [referencesOf, List.mem_flatMap, List.mem_flatten]
  constructor
  · rintro ⟨line, ⟨lines, member, own⟩, inside⟩
    exact ⟨lines, member, line, own, inside⟩
  · rintro ⟨lines, member, line, own, inside⟩
    exact ⟨line, ⟨lines, member, own⟩, inside⟩

@[simp] theorem referencesOf_definition :
    referencesOf (definition lines) = referencesOf lines := rfl

@[simp] theorem referencesOf_headLines (data : StubData) : referencesOf (headLines data) = [] := by
  unfold headLines
  split <;> rfl

@[simp] theorem declarationsOf_nil : declarationsOf [] = [] := rfl

@[simp] theorem declarationsOf_cons :
    declarationsOf (line :: rest) = line.declaration?.toList ++ declarationsOf rest := by
  rw [declarationsOf, List.filterMap_cons]
  cases line.declaration? <;> rfl

@[simp] theorem declarationsOf_append :
    declarationsOf (first ++ rest) = declarationsOf first ++ declarationsOf rest :=
  List.filterMap_append

theorem declarationsOf_flatMap (made : α → List Line) :
    declarationsOf (items.flatMap made) = items.flatMap fun item => declarationsOf (made item) :=
  List.filterMap_flatMap ..

theorem mem_declarationsOf_flatten {declared : Import ⊕ Conversion} :
    declared ∈ declarationsOf lists.flatten ↔
      ∃ lines ∈ lists, declared ∈ declarationsOf lines := by
  rw [declarationsOf, List.filterMap_flatten, ← List.flatMap_def]
  exact List.mem_flatMap

@[simp] theorem declarationsOf_definition :
    declarationsOf (definition lines) = declarationsOf lines := rfl

/-- Lines of which none declares anything declare nothing together. -/
theorem declarationsOf_eq_nil (each : ∀ line ∈ lines, line.declaration? = none) :
    declarationsOf lines = [] :=
  List.filterMap_eq_nil_iff.mpr each

theorem inl_mem_declarationsOf_iff {loaded : Import} :
    .inl loaded ∈ declarationsOf lines ↔ .load loaded ∈ lines := by
  rw [declarationsOf, List.mem_filterMap]
  constructor
  · rintro ⟨line, member, own⟩
    cases line <;> cases own
    exact member
  · exact fun member => ⟨.load loaded, member, rfl⟩

theorem inr_mem_declarationsOf_iff {conversion : Conversion} :
    .inr conversion ∈ declarationsOf lines ↔
      ∃ parameters result, .define conversion parameters result ∈ lines := by
  rw [declarationsOf, List.mem_filterMap]
  constructor
  · rintro ⟨line, member, own⟩
    cases line <;> cases own
    exact ⟨_, _, member⟩
  · rintro ⟨parameters, result, member⟩
    exact ⟨_, member, rfl⟩

theorem mem_referencesOf_of_mem {parts : List Part} {part : Part} (member : .code parts ∈ lines)
    (own : part ∈ parts) (refers : part.refers = true) : part ∈ referencesOf lines :=
  List.mem_flatMap.mpr ⟨.code parts, member, List.mem_filter.mpr ⟨own, refers⟩⟩

end Reading

/-! ## What is defined -/

def enumConversions (snake : String) : List Conversion := [.toSchema snake, .fromSchema snake]

def messageConversions (snake pointer : String) : List Conversion :=
  [.zeroTest snake, .toSchema snake, .fromSchema snake, .listToSchema snake, .listFromSchema snake,
   .pointerToSchema pointer, .pointerFromSchema pointer]

def ValueKind.conversions (kind : ValueKind) (helper pointer : String) : List Conversion :=
  match kind with
  | .message => messageConversions helper pointer
  | .enum => enumConversions helper
  | _ => []

def MapConversion.conversions (map : MapConversion) : List Conversion :=
  [.ofMap map.toName, .ofMap map.fromName]

/-- The conversions of stub data: those of its enumerations, of its messages and
of its kinds of maps.  Names that cannot be written have none, since the module
fails there. -/
inductive StubData.Defines (data : StubData) (conversion : Conversion) : Prop where
  | ofEnum (enum : TypeInfo) (snake : String) (member : enum ∈ data.enums)
      (written : writtenName enum.snake = .ok snake) (own : conversion ∈ enumConversions snake)
  | ofMessage (type : TypeInfo) (snake pointer : String) (member : type ∈ data.types)
      (written : writtenName type.snake = .ok snake)
      (writtenPointer : writtenName type.pointerName = .ok pointer)
      (own : conversion ∈ messageConversions snake pointer)
  | ofMap (map : MapConversion) (member : map ∈ data.maps) (own : conversion ∈ map.conversions)

namespace TypesModule

theorem declarationsOf_enumLines (enum : TypeInfo) (snake : String) :
    declarationsOf (enumLines enum snake) = (enumConversions snake).map .inr := rfl

theorem declarationsOf_setLines (field : FieldInfo) : declarationsOf (setLines field) = [] := by
  unfold setLines
  cases field.kind <;> rfl

theorem declarationsOf_messageLines (data : StubData) (type : TypeInfo) (snake pointer : String) :
    declarationsOf (messageLines data type snake pointer) =
      (messageConversions snake pointer).map .inr := by
  have zero : declarationsOf (zeroLines type snake) = [.inr (.zeroTest snake)] := by
    have fields : declarationsOf (type.fields.map zeroLine) = [] := by
      apply declarationsOf_eq_nil
      intro line member
      rcases List.mem_map.mp member with ⟨field, -, rfl⟩
      unfold zeroLine
      split <;> rfl
    unfold zeroLines
    split <;> simp [fields]
  have set : declarationsOf (toProtoLines data type snake) = [.inr (.toSchema snake)] := by
    have fields : declarationsOf (type.fields.flatMap setLines) = [] := by
      rw [declarationsOf_flatMap]
      simp [declarationsOf_setLines]
    simp [toProtoLines, fields]
  have read : declarationsOf (fromProtoLines data type snake) = [.inr (.fromSchema snake)] := by
    have fields : declarationsOf (type.fields.map readLine) = [] := by
      apply declarationsOf_eq_nil
      intro line member
      rcases List.mem_map.mp member with ⟨field, -, rfl⟩
      rfl
    unfold fromProtoLines
    split <;> simp [fields]
  simp only [messageLines, declarationsOf_append, declarationsOf_definition, zero, set, read]
  rfl

theorem declarationsOf_mapLines (map : MapConversion) :
    declarationsOf (mapLines map) = map.conversions.map .inr := by
  unfold mapLines mapSetLines mapReadLine
  cases map.valueKind <;> rfl

/-- The module declares its imports and, apart from them, the conversions of its data. -/
theorem mem_declarationsOf_lines_iff {data : StubData} {made : List Line}
    (written : lines data = .ok made) (declared : Import ⊕ Conversion) :
    declared ∈ declarationsOf made ↔
      declared ∈ declarationsOf (importLines data) ∨
        ∃ conversion, declared = .inr conversion ∧ data.Defines conversion := by
  rcases bind_eq_ok_iff.mp written with ⟨enums, ofEnums, rest⟩
  rcases bind_eq_ok_iff.mp rest with ⟨types, ofTypes, final⟩
  cases final
  simp only [declarationsOf_append, List.mem_append, mem_declarationsOf_flatten,
    declarationsOf_flatMap, List.mem_flatMap, declarationsOf_mapLines, or_assoc]
  refine or_congr_right ⟨?_, ?_⟩
  · rintro (⟨part, among, own⟩ | ⟨part, among, own⟩ | ⟨map, member, own⟩)
    · rcases exists_of_mem_mapM ofEnums among with ⟨enum, member, found⟩
      rcases bind_eq_ok_iff.mp found with ⟨snake, named, found⟩
      cases found
      rw [declarationsOf_enumLines] at own
      rcases List.mem_map.mp own with ⟨conversion, inside, rfl⟩
      exact ⟨conversion, rfl, .ofEnum enum snake member named inside⟩
    · rcases exists_of_mem_mapM ofTypes among with ⟨type, member, found⟩
      rcases bind_eq_ok_iff.mp found with ⟨snake, named, found⟩
      rcases bind_eq_ok_iff.mp found with ⟨pointer, namedPointer, found⟩
      cases found
      rw [declarationsOf_messageLines] at own
      rcases List.mem_map.mp own with ⟨conversion, inside, rfl⟩
      exact ⟨conversion, rfl, .ofMessage type snake pointer member named namedPointer inside⟩
    · rcases List.mem_map.mp own with ⟨conversion, inside, rfl⟩
      exact ⟨conversion, rfl, .ofMap map member inside⟩
  · rintro ⟨conversion, rfl, defined⟩
    cases defined with
    | ofEnum enum snake member named own =>
        rcases exists_mem_of_mapM ofEnums member with ⟨part, among, made⟩
        rw [enumPart, named, ok_bind] at made
        cases made
        exact Or.inl ⟨_, among, List.mem_map_of_mem own⟩
    | ofMessage type snake pointer member named namedPointer own =>
        rcases exists_mem_of_mapM ofTypes member with ⟨part, among, made⟩
        rw [messagePart, named, ok_bind, namedPointer, ok_bind] at made
        cases made
        refine Or.inr (Or.inl ⟨_, among, ?_⟩)
        rw [declarationsOf_messageLines]
        exact List.mem_map_of_mem own
    | ofMap map member own =>
        exact Or.inr (Or.inr ⟨map, member, List.mem_map_of_mem own⟩)

end TypesModule

/-! ## What the other modules declare -/

section Services

variable {data : StubData}

theorem AdapterModule.declarationsOf_lines :
    declarationsOf (lines data) = declarationsOf (headLines data ++ serviceImportLines data) := by
  have method : ∀ info, declarationsOf (methodLines info) = [] := by
    intro info
    unfold methodLines bodyLines
    cases info.serverStreaming <;> cases info.hasOutput <;> rfl
  have service : ∀ info, declarationsOf (serviceLines data info) = [] := by
    intro info
    simp [serviceLines, declarationsOf_flatMap, method]
  simp [lines, declarationsOf_flatMap, service]

theorem ClientModule.declarationsOf_lines :
    declarationsOf (lines data) = declarationsOf (headLines data ++ serviceImportLines data) := by
  have method : ∀ info, declarationsOf (methodLines info) = [] := by
    intro info
    unfold methodLines bodyLines
    cases info.serverStreaming <;> cases info.hasOutput <;> rfl
  have service : ∀ info, declarationsOf (serviceLines data info) = [] := by
    intro info
    simp [serviceLines, declarationsOf_flatMap, method]
  simp [lines, declarationsOf_flatMap, service]

theorem BridgeModule.declarationsOf_lines :
    declarationsOf (lines data) = declarationsOf (headLines data) := by
  have service : ∀ info, declarationsOf (serviceLines info) = [] := by
    intro info
    simp [serviceLines, declarationsOf_flatMap, methodLines]
  simp [lines, declarationsOf_flatMap, service]

theorem RegistrationModule.declarationsOf_lines {made : List Line}
    (written : lines data = .ok made) :
    declarationsOf made =
      declarationsOf
        (headLines data ++ [serviceImport data, .load (.sibling .adapter "adapters")]) := by
  rcases bind_eq_ok_iff.mp written with ⟨entries, -, final⟩
  cases final
  have service : ∀ entry, declarationsOf (serviceLines data entry) = [] := fun _ => rfl
  have all : declarationsOf (allLines entries) = [] := by
    cases entries with
    | nil => rfl
    | cons first rest =>
        have table : declarationsOf ((first :: rest).map entryLine) = [] := by
          apply declarationsOf_eq_nil
          intro line member
          rcases List.mem_map.mp member with ⟨entry, -, rfl⟩
          rfl
        rw [allLines, declarationsOf_definition, declarationsOf_append,
          declarationsOf_append, table]
        rfl
  simp [declarationsOf_flatMap, service, all, serviceImport]

end Services

/-! ## What is named -/

/-- The names of conversions that a value of a kind is converted by are those of an enumeration or
of a message of stub data. -/
def StubData.Backs (data : StubData) (kind : ValueKind) (helper pointer : String) : Prop :=
  match kind with
  | .message => ∃ type ∈ data.types, type.snake = .ok helper ∧ type.pointerName = .ok pointer
  | .enum => ∃ enum ∈ data.enums, enum.snake = .ok helper
  | _ => True

/-- The conversions that a field names are there.  A field that is no map names
those of its value, and a map names the pair that is made for its types. -/
inductive FieldInfo.IsBacked (data : StubData) (field : FieldInfo) : Prop where
  | ofValue (shape : FieldShape) (value : ValueKind) (kind : field.kind = fieldKind shape value)
      (isMessage : field.isMessage = field.kind.isMessage)
      (backed : data.Backs value field.helper field.pointerName)
  | ofMap (map : MapConversion) (kind : field.kind = .map) (isMessage : field.isMessage = false)
      (given : field.map = some map) (member : map ∈ data.maps)

/-- The conversion that a method names for its input or output is there, unless it names none. -/
def StubData.BacksMessage (data : StubData) (helper : String) : Prop :=
  helper ≠ "" → ∃ pointer, data.Backs .message helper pointer

/-- What a method names is there, and it is known whether the empty message is used. -/
structure MethodInfo.IsBacked (data : StubData) (method : MethodInfo) : Prop where
  input : data.BacksMessage method.inputHelper
  output : data.BacksMessage method.outputHelper
  empty : method.usesEmpty = true → data.usesEmpty = true

/-- Whatever stub data names is part of it: the conversions of fields, of map
values and of methods.  The modules that are made of the data are closed because
of this. -/
structure StubData.IsBacked (data : StubData) : Prop where
  fields : ∀ type ∈ data.types, ∀ field ∈ type.fields, field.IsBacked data
  maps : ∀ map ∈ data.maps, ∃ pointer, data.Backs map.valueKind map.valueHelper pointer
  methods : ∀ service ∈ data.services, ∀ method ∈ service.methods, method.IsBacked data

section Backed

variable {data : StubData} {helper pointer : String} {conversion : Conversion} {part : Part}

theorem StubData.Backs.defines {kind : ValueKind} (backed : data.Backs kind helper pointer)
    (own : conversion ∈ kind.conversions helper pointer) : data.Defines conversion := by
  cases kind with
  | message =>
      rcases backed with ⟨type, member, snake, pointerName⟩
      exact .ofMessage type helper pointer member (by rw [snake]; rfl)
        (by rw [pointerName]; rfl) own
  | enum =>
      rcases backed with ⟨enum, member, snake⟩
      exact .ofEnum enum helper member (by rw [snake]; rfl) own
  | scalar => cases own
  | timestamp => cases own
  | duration => cases own
  | rawMessage => cases own

/-- A part of a line that calls a conversion of stub data.  The conversion is
defined in one of the modules, which need not be the one with the call. -/
def StubData.HasCall (data : StubData) (part : Part) : Prop :=
  ∃ conversion, part = .call conversion ∧ data.Defines conversion

theorem StubData.hasCall_of_mem {conversions : List Conversion}
    (defined : ∀ conversion ∈ conversions, data.Defines conversion)
    (member : part ∈ conversions.map Part.call) : data.HasCall part := by
  rcases List.mem_map.mp member with ⟨conversion, own, rfl⟩
  exact ⟨conversion, rfl, defined conversion own⟩

/-! ## What the module of types refers to -/

namespace TypesModule

/-- The lines about a field that is no map call conversions of its kind of value. -/
theorem references_field_subset {field : FieldInfo} {shape : FieldShape} {value : ValueKind}
    (kind : field.kind = fieldKind shape value)
    (isMessage : field.isMessage = field.kind.isMessage) :
    referencesOf (zeroLine field :: (setLines field ++ [readLine field])) ⊆
      (value.conversions field.helper field.pointerName).map .call := by
  rw [kind] at isMessage
  unfold zeroLine setLines readLine readParts
  rw [isMessage, kind]
  cases shape <;> cases value <;>
    simp [fieldKind, FieldKind.single, FieldKind.optional, FieldKind.repeated, FieldKind.isMessage,
      ValueKind.conversions, messageConversions, enumConversions, whenGiven, ifPresent]

/-- The lines about a field call what the field names. -/
theorem hasCall_of_mem_field {field : FieldInfo} (backed : field.IsBacked data)
    (inside : part ∈ referencesOf (zeroLine field :: (setLines field ++ [readLine field]))) :
    data.HasCall part := by
  cases backed with
  | ofValue shape value kind isMessage backed =>
      exact StubData.hasCall_of_mem (fun _ own => backed.defines own)
        (references_field_subset kind isMessage inside)
  | ofMap map kind isMessage given member =>
      refine StubData.hasCall_of_mem (fun _ own => .ofMap map member own) ?_
      simpa [zeroLine, setLines, readLine, readParts, kind, isMessage, given,
        MapConversion.conversions] using inside

/-- The conversions of a kind of map call those of its values. -/
theorem references_mapLines_subset (map : MapConversion) (pointer : String) :
    referencesOf (mapLines map) ⊆
      (map.valueKind.conversions map.valueHelper pointer).map .call := by
  unfold mapLines mapSetLines mapReadLine
  cases map.valueKind <;>
    simp [ValueKind.conversions, messageConversions, enumConversions, forItems, eachItem]

theorem referencesOf_zeroLines (type : TypeInfo) (snake : String) :
    referencesOf (zeroLines type snake) =
      type.fields.flatMap fun field => (zeroLine field).references := by
  unfold zeroLines
  split
  · rename_i empty
    simp [List.isEmpty_iff.mp empty]
  · simp [referencesOf_map]

theorem referencesOf_toProtoLines (type : TypeInfo) (snake : String) :
    referencesOf (toProtoLines data type snake) =
      type.fields.flatMap fun field => referencesOf (setLines field) := by
  simp [toProtoLines, referencesOf_flatMap]

theorem referencesOf_fromProtoLines (type : TypeInfo) (snake : String) :
    referencesOf (fromProtoLines data type snake) =
      type.fields.flatMap fun field => (readLine field).references := by
  unfold fromProtoLines
  split
  · rename_i empty
    simp [List.isEmpty_iff.mp empty]
  · simp [referencesOf_map]

/-- The part about a message calls what its fields name and what it defines itself. -/
theorem hasCall_of_mem_messageLines {type : TypeInfo} {snake pointer : String}
    (fields : ∀ field ∈ type.fields, field.IsBacked data)
    (own : ∀ conversion ∈ messageConversions snake pointer, data.Defines conversion)
    (inside : part ∈ referencesOf (messageLines data type snake pointer)) : data.HasCall part := by
  have slices : referencesOf (sliceLines data type snake) ⊆
      (messageConversions snake pointer).map .call := by
    simp [sliceLines, messageConversions]
  have pointers : referencesOf (pointerLines data type snake pointer) ⊆
      (messageConversions snake pointer).map .call := by
    simp [pointerLines, messageConversions]
  simp only [messageLines, referencesOf_append, referencesOf_definition, referencesOf_zeroLines,
    referencesOf_toProtoLines, referencesOf_fromProtoLines, List.mem_append,
    List.mem_flatMap] at inside
  rcases inside with (((⟨field, member, line⟩ | ⟨field, member, line⟩) |
    ⟨field, member, line⟩) | line) | line
  · exact hasCall_of_mem_field (fields field member) (by simp [line])
  · exact hasCall_of_mem_field (fields field member) (by simp [line])
  · exact hasCall_of_mem_field (fields field member) (by simp [line])
  · exact StubData.hasCall_of_mem own (slices line)
  · exact StubData.hasCall_of_mem own (pointers line)

/-- The module refers to nothing but conversions that it defines. -/
theorem hasCall_of_mem_lines {made : List Line} (backed : data.IsBacked)
    (written : lines data = .ok made) (inside : part ∈ referencesOf made) : data.HasCall part := by
  rcases bind_eq_ok_iff.mp written with ⟨enums, ofEnums, rest⟩
  rcases bind_eq_ok_iff.mp rest with ⟨types, ofTypes, final⟩
  cases final
  have imports : referencesOf (importLines data) = [] := by simp [importLines]
  simp only [referencesOf_append, imports, List.nil_append, List.mem_append,
    mem_referencesOf_flatten] at inside
  rcases inside with (⟨part, among, line⟩ | ⟨part, among, line⟩) | line
  · rcases exists_of_mem_mapM ofEnums among with ⟨enum, -, found⟩
    rcases bind_eq_ok_iff.mp found with ⟨snake, -, found⟩
    cases found
    cases line
  · rcases exists_of_mem_mapM ofTypes among with ⟨type, member, found⟩
    rcases bind_eq_ok_iff.mp found with ⟨snake, named, found⟩
    rcases bind_eq_ok_iff.mp found with ⟨pointer, namedPointer, found⟩
    cases found
    exact hasCall_of_mem_messageLines (backed.fields type member)
      (fun _ own => .ofMessage type snake pointer member named namedPointer own) line
  · rw [referencesOf_flatMap] at line
    rcases List.mem_flatMap.mp line with ⟨map, member, line⟩
    rcases backed.maps map member with ⟨pointer, backs⟩
    exact StubData.hasCall_of_mem (fun _ own => backs.defines own)
      (references_mapLines_subset map pointer line)

end TypesModule

/-! ## What the modules of services refer to -/

/-- A part of a line refers to something that stub data provides: a conversion, or the empty
message when the data uses it. -/
def StubData.Provides (data : StubData) (part : Part) : Prop :=
  data.HasCall part ∨ (part = .emptyMessage ∧ data.usesEmpty = true)

/-- The call of a conversion that may be lacking. -/
def callIfNamed (convert : String → Conversion) (snake : String) : List Part :=
  if snake = "" then [] else [.call (convert snake)]

theorem StubData.BacksMessage.hasCall {convert : String → Conversion}
    (backed : data.BacksMessage helper)
    (kind : convert helper ∈ [Conversion.toSchema helper, .fromSchema helper])
    (inside : part ∈ callIfNamed convert helper) : data.HasCall part := by
  unfold callIfNamed at inside
  split at inside
  · cases inside
  · rename_i given
    rcases backed given with ⟨pointer, backs⟩
    refine ⟨convert helper, List.mem_singleton.mp inside, backs.defines ?_⟩
    revert kind
    simp only [ValueKind.conversions, messageConversions, List.mem_cons]
    tauto

theorem references_converted (convert : String → Conversion) (snake : String) (value : List Part) :
    Part.references (converted convert snake value) =
      callIfNamed convert snake ++ Part.references value := by
  unfold converted callIfNamed
  split <;> simp

theorem references_convertedStream (convert : String → Conversion)
    (snake stream otherwise : String) :
    Part.references (convertedStream convert snake stream otherwise) =
      callIfNamed convert snake := by
  unfold convertedStream callIfNamed
  split <;> simp

theorem references_serviceImportLines : referencesOf (serviceImportLines data) = [] := by
  unfold serviceImportLines serviceImport
  cases data.usesEmpty <;> cases data.types.isEmpty && data.enums.isEmpty <;> rfl

/-- A module with a part for every service refers to what is provided when the lines about every
method do. -/
theorem provides_of_mem_services {serviceLines : ServiceInfo → List Line}
    {methodLines : MethodInfo → List Line}
    (service : ∀ info, referencesOf (serviceLines info) =
      info.methods.flatMap fun method => referencesOf (methodLines method))
    (each : ∀ method, method.IsBacked data → part ∈ referencesOf (methodLines method) →
      data.Provides part)
    (backed : data.IsBacked)
    (inside : part ∈ referencesOf
      (headLines data ++ serviceImportLines data ++ data.services.flatMap serviceLines)) :
    data.Provides part := by
  simp only [referencesOf_append, referencesOf_headLines, references_serviceImportLines,
    List.nil_append, referencesOf_flatMap, service, List.mem_flatMap] at inside
  rcases inside with ⟨info, member, method, own, inside⟩
  exact each method (backed.methods info member method own) inside

namespace AdapterModule

variable {method : MethodInfo}

theorem references_call_subset :
    Part.references (call method) ⊆ callIfNamed .fromSchema method.inputHelper := by
  have argument : ∀ parts ∈ argument? method,
      Part.references parts = callIfNamed .fromSchema method.inputHelper := by
    unfold argument?
    cases method.hasInput <;> cases method.clientStreaming <;>
      simp [references_converted, references_convertedStream]
  unfold call
  cases given : argument? method with
  | none => cases method.hasContext <;> simp [List.intercalate]
  | some parts =>
      cases method.hasContext <;> simp [List.intercalate, argument parts given]

/-- The lines about a method refer to what the method names, and to the empty message when it
answers nothing. -/
theorem provides_of_mem_method (backed : method.IsBacked data)
    (inside : part ∈ referencesOf (methodLines method)) : data.Provides part := by
  have input : part ∈ Part.references (call method) → data.Provides part := fun called =>
    Or.inl (backed.input.hasCall (by simp) (references_call_subset called))
  have output : part ∈ callIfNamed .toSchema method.outputHelper → data.Provides part :=
      fun called =>
    Or.inl (backed.output.hasCall (by simp) called)
  unfold methodLines bodyLines wordLine at inside
  cases streams : method.serverStreaming with
  | true =>
      have parts : part ∈ Part.references (call method) ∨
          part ∈ callIfNamed .toSchema method.outputHelper := by
        simpa [streams, references_converted] using inside
      exact parts.elim input output
  | false =>
      cases answers : method.hasOutput with
      | true =>
          have parts : part ∈ callIfNamed .toSchema method.outputHelper ∨
              part ∈ Part.references (call method) := by
            simpa [streams, answers, references_converted] using inside
          exact parts.elim output input
      | false =>
          have parts : part ∈ Part.references (call method) ∨ part = .emptyMessage := by
            simpa [streams, answers] using inside
          exact parts.elim input fun empty =>
            Or.inr ⟨empty, backed.empty (by simp [MethodInfo.usesEmpty, answers])⟩

/-- Whatever the module refers to is provided by its data. -/
theorem provides_of_mem_lines (backed : data.IsBacked) (inside : part ∈ referencesOf (lines data)) :
    data.Provides part := by
  have service : ∀ info, referencesOf (serviceLines data info) =
      info.methods.flatMap fun method => referencesOf (methodLines method) := by
    intro info
    simp [serviceLines, referencesOf_flatMap]
  exact provides_of_mem_services service (fun _ => provides_of_mem_method) backed inside

end AdapterModule

namespace ClientModule

variable {method : MethodInfo}

theorem references_call :
    Part.references (call method) =
      if method.hasInput then callIfNamed .toSchema method.inputHelper else [.emptyMessage] := by
  unfold call message
  cases method.hasInput <;> cases method.clientStreaming <;>
    simp [references_converted, references_convertedStream]

/-- The lines about a method refer to what the method names, and to the empty message when it sends
nothing. -/
theorem provides_of_mem_method (backed : method.IsBacked data)
    (inside : part ∈ referencesOf (methodLines method)) : data.Provides part := by
  have input : part ∈ Part.references (call method) → data.Provides part := by
    intro called
    rw [references_call] at called
    split at called
    · exact Or.inl (backed.input.hasCall (by simp) called)
    · rename_i silent
      exact Or.inr ⟨List.mem_singleton.mp called,
        backed.empty (by simp [MethodInfo.usesEmpty, silent])⟩
  have output : part ∈ callIfNamed .fromSchema method.outputHelper → data.Provides part :=
    fun called => Or.inl (backed.output.hasCall (by simp) called)
  unfold methodLines bodyLines wordLine at inside
  cases streams : method.serverStreaming with
  | true =>
      have parts : part ∈ Part.references (call method) ∨
          part ∈ callIfNamed .fromSchema method.outputHelper := by
        simpa [streams, references_converted] using inside
      exact parts.elim input output
  | false =>
      cases answers : method.hasOutput with
      | true =>
          have parts : part ∈ callIfNamed .fromSchema method.outputHelper ∨
              part ∈ Part.references (call method) := by
            simpa [streams, answers, references_converted] using inside
          exact parts.elim output input
      | false => exact input (by simpa [streams, answers] using inside)

/-- Whatever the module refers to is provided by its data. -/
theorem provides_of_mem_lines (backed : data.IsBacked) (inside : part ∈ referencesOf (lines data)) :
    data.Provides part := by
  have service : ∀ info, referencesOf (serviceLines data info) =
      info.methods.flatMap fun method => referencesOf (methodLines method) := by
    intro info
    simp [serviceLines, referencesOf_flatMap]
  exact provides_of_mem_services service (fun _ => provides_of_mem_method) backed inside

end ClientModule

theorem BridgeModule.referencesOf_lines : referencesOf (lines data) = [] := by
  have service : ∀ info, referencesOf (serviceLines info) = [] := by
    intro info
    simp [serviceLines, referencesOf_flatMap, methodLines]
  simp [lines, referencesOf_flatMap, service]

theorem RegistrationModule.referencesOf_lines {made : List Line} (written : lines data = .ok made) :
    referencesOf made = [] := by
  rcases bind_eq_ok_iff.mp written with ⟨entries, -, final⟩
  cases final
  have service : ∀ entry, referencesOf (serviceLines data entry) = [] := fun _ => rfl
  have all : referencesOf (allLines entries) = [] := by
    cases entries <;> simp [allLines, referencesOf_map, entryLine]
  simp [referencesOf_flatMap, service, all, serviceImport]

end Backed

end WireSchema.Stub
