import WireSchema.Proofs.Document.Order
import WireSchema.Proofs.ProtoText.Parts
import WireSchema.Proofs.Schema.Origin

namespace WireSchema

/-!
# What a unit imports

The types of fields and methods are texts as soon as the table of types gives texts, so every
reference of a unit can be followed.  It leads to the file that declares a well-known type, or to
the file of another group, or nowhere; together with the paths that options and annotations ask for,
these are the imports of the unit, in increasing order.
-/

open Asked

/-! ## References are texts -/

theorem DeclaredField.isText_schemaType {context : SchemaContext} {field : DeclaredField}
    {type : Value} (typed : context.types.IsTyped) (found : field.schemaType context = .ok type) :
    type.IsText := by
  rcases bind_eq_ok_iff.mp found with ⟨annotated, -, rest⟩
  cases annotated with
  | some content =>
      cases rest
      exact Value.isText_text content
  | none =>
      rcases bind_eq_ok_iff.mp rest with ⟨tag, -, rest⟩
      split at rest
      · cases rest
        exact Value.isText_text _
      · rcases context.types.exists_schemaType typed field.type with ⟨content, same⟩
        cases same.symm.trans rest
        exact Value.isText_text content

theorem DeclaredField.isText_mapTypes {table : TypeTable} {field : DeclaredField}
    {types : Value × Value} (typed : table.IsTyped) (found : field.mapTypes table = .ok types) :
    types.2.IsText := by
  rcases bind_eq_ok_iff.mp found with ⟨annotated, -, rest⟩
  split at rest
  · cases rest
    exact Value.isText_text _
  · split at rest
    · rename_i key value same
      rcases table.exists_schemaType typed value with ⟨content, valueType⟩
      rcases bind_eq_ok_iff.mp rest with ⟨keyType, -, rest⟩
      rcases bind_eq_ok_iff.mp rest with ⟨other, given, final⟩
      cases final
      cases valueType.symm.trans given
      exact Value.isText_text content
    · cases rest
      exact Value.isText_text ""

namespace Rpc

theorem isText_statedOr {other : Value} (isText : other.IsText) (note : Annotation)
    (param : String) : (statedOr note param other).IsText :=
  (Value.isText_text _).orElse isText

theorem isText_foldl_override {rpc : Rpc} {notes : List Annotation} (input : rpc.inputType.IsText)
    (output : rpc.outputType.IsText) :
    (notes.foldl override rpc).inputType.IsText ∧
      (notes.foldl override rpc).outputType.IsText := by
  induction notes generalizing rpc with
  | nil => exact ⟨input, output⟩
  | cons note notes ih =>
      rw [List.foldl_cons]
      exact ih (isText_statedOr input note "input") (isText_statedOr output note "output")

end Rpc

section Services

variable {table : TypeTable}

theorem Method.isText_firstType {parameters : List Parameter} {type : Value}
    (typed : table.IsTyped) (found : firstType table parameters = .ok type) : type.IsText := by
  cases parameters with
  | nil =>
      cases found
      exact Value.isText_text emptyType
  | cons first _ =>
      rcases table.exists_schemaType typed first.type with ⟨content, same⟩
      cases same.symm.trans found
      exact Value.isText_text content

theorem Method.isText_toRpc {method : Method} {rpc : Rpc} (typed : table.IsTyped)
    (found : method.toRpc table = .ok rpc) : rpc.inputType.IsText ∧ rpc.outputType.IsText := by
  rcases bind_eq_ok_iff.mp found with ⟨inputType, input, rest⟩
  rcases bind_eq_ok_iff.mp rest with ⟨outputType, output, rest⟩
  rcases bind_eq_ok_iff.mp rest with ⟨notes, -, final⟩
  cases final
  exact Rpc.isText_foldl_override (isText_firstType typed input) (isText_firstType typed output)

theorem exists_toRpc_of_serviceOf {name doc : Value} {notes : List Annotation}
    {methods : List Method} {fromComposite : Bool} {service : Service} {rpc : Rpc}
    (made : serviceOf table name notes methods doc fromComposite = .ok service)
    (member : rpc ∈ service.rpcs) : ∃ method ∈ methods, method.toRpc table = .ok rpc := by
  rcases bind_eq_ok_iff.mp made with ⟨given, -, rest⟩
  rcases bind_eq_ok_iff.mp rest with ⟨rpcs, called, rest⟩
  rcases bind_eq_ok_iff.mp rest with ⟨description, -, final⟩
  cases final
  exact exists_of_mem_mapM called member

theorem eq_ok_of_mem_serviceIfAsked {notes : List Annotation} {made : Asked Service}
    {services : List Service} {service : Service} (found : serviceIfAsked notes made = .ok services)
    (member : service ∈ services) : made = .ok service := by
  rcases bind_eq_ok_iff.mp found with ⟨asked, -, rest⟩
  cases asked with
  | false =>
      cases rest
      cases member
  | true =>
      rcases bind_eq_ok_iff.mp rest with ⟨own, same, final⟩
      cases final
      rw [List.mem_singleton.mp member]
      exact same

theorem SchemaContext.exists_toRpc_of_services {context : SchemaContext}
    {contracts : List ServiceContract} {composites : List Composite} {services : List Service}
    {service : Service} {rpc : Rpc}
    (resolved : context.services contracts composites = .ok services)
    (among : service ∈ services) (member : rpc ∈ service.rpcs) :
    ∃ method : Method, method.toRpc context.types = .ok rpc := by
  rcases bind_eq_ok_iff.mp resolved with ⟨ofContracts, first, rest⟩
  rcases bind_eq_ok_iff.mp rest with ⟨ofComposites, second, final⟩
  cases final
  rcases List.mem_append.mp among with here | there
  · rcases List.mem_flatten.mp here with ⟨list, listed, found⟩
    rcases exists_of_mem_mapM first listed with ⟨contract, -, own⟩
    rcases exists_toRpc_of_serviceOf (eq_ok_of_mem_serviceIfAsked own found) member with
      ⟨method, -, made⟩
    exact ⟨method, made⟩
  · rcases List.mem_flatten.mp there with ⟨list, listed, found⟩
    rcases exists_of_mem_mapM second listed with ⟨composite, -, own⟩
    rcases bind_eq_ok_iff.mp (eq_ok_of_mem_serviceIfAsked own found) with ⟨methods, -, made⟩
    rcases exists_toRpc_of_serviceOf made member with ⟨method, -, called⟩
    exact ⟨method, called⟩

end Services

namespace ProtoText

variable {context : SchemaContext} {schema : SchemaUnit} {plans : List MessagePlan}
  {services : List Service}

/-- The types to which a unit refers: those of its fields, of which a map counts by its values, and
those of what its methods take and give. -/
inductive Refers (plans : List MessagePlan) (services : List Service) : Value → Prop where
  | field {plan : MessagePlan} {planned : PlannedField} (among : plan ∈ plans)
      (member : planned ∈ plan.fields) (single : planned.shape ≠ .map) :
      Refers plans services planned.type
  | mapValue {plan : MessagePlan} {planned : PlannedField} (among : plan ∈ plans)
      (member : planned ∈ plan.fields) (mapped : planned.shape = .map) :
      Refers plans services planned.mapTypes.2
  | input {service : Service} {rpc : Rpc} (among : service ∈ services)
      (member : rpc ∈ service.rpcs) : Refers plans services rpc.inputType
  | output {service : Service} {rpc : Rpc} (among : service ∈ services)
      (member : rpc ∈ service.rpcs) : Refers plans services rpc.outputType

theorem type_fieldReference (planned : PlannedField) :
    (fieldReference planned).type =
      if planned.shape = .map then planned.mapTypes.2 else planned.type := by
  rw [fieldReference]
  by_cases mapped : planned.shape = .map
  · rw [if_pos (beq_iff_eq.mpr mapped), if_pos mapped]
    split <;> rfl
  · rw [if_neg (fun same => mapped (beq_iff_eq.mp same)), if_neg mapped]

/-- The references of a unit are to the types to which it refers. -/
theorem refers_iff {type : Value} :
    Refers plans services type ↔
      ∃ reference ∈ references plans services, reference.type = type := by
  constructor
  · rintro (⟨among, member, single⟩ | ⟨among, member, mapped⟩ | ⟨among, member⟩ | ⟨among, member⟩)
    · refine ⟨_, List.mem_append_left _
        (List.mem_flatMap.mpr ⟨_, among, List.mem_map_of_mem member⟩), ?_⟩
      rw [type_fieldReference, if_neg single]
    · refine ⟨_, List.mem_append_left _
        (List.mem_flatMap.mpr ⟨_, among, List.mem_map_of_mem member⟩), ?_⟩
      rw [type_fieldReference, if_pos mapped]
    · exact ⟨_, List.mem_append_right _ (List.mem_flatMap.mpr ⟨_, among,
        List.mem_flatMap.mpr ⟨_, member, List.mem_cons_self⟩⟩), rfl⟩
    · exact ⟨_, List.mem_append_right _ (List.mem_flatMap.mpr ⟨_, among,
        List.mem_flatMap.mpr ⟨_, member, List.mem_cons_of_mem _ List.mem_cons_self⟩⟩), rfl⟩
  · rintro ⟨reference, member, rfl⟩
    rcases List.mem_append.mp member with ofPlans | ofServices
    · rcases List.mem_flatMap.mp ofPlans with ⟨plan, among, own⟩
      rcases List.mem_map.mp own with ⟨planned, declared, rfl⟩
      rw [type_fieldReference]
      by_cases mapped : planned.shape = .map
      · rw [if_pos mapped]
        exact .mapValue among declared mapped
      · rw [if_neg mapped]
        exact .field among declared mapped
    · rcases List.mem_flatMap.mp ofServices with ⟨service, among, own⟩
      rcases List.mem_flatMap.mp own with ⟨rpc, called, pair⟩
      rcases List.mem_pair.mp pair with rfl | rfl
      · exact .input among called
      · exact .output among called

theorem services_of_writtenServices {service : Service}
    (written : writtenServices context schema = .ok services) (member : service ∈ services) :
    context.services schema.services schema.composites = .ok services := by
  rw [writtenServices] at written
  split at written
  · exact written
  · cases written
    cases member

theorem isText_of_refers {type : Value} (typed : context.types.IsTyped)
    (planned : context.messagePlans schema.composites = .ok plans)
    (written : writtenServices context schema = .ok services)
    (refers : Refers plans services type) : type.IsText := by
  cases refers with
  | field among member single =>
      rcases SchemaContext.exists_of_mem_messagePlans planned among with
        ⟨composite, -, names, -, message, -, made⟩
      rcases SchemaContext.exists_isFrom_of_plan made member with ⟨fields, -, declared, -, isFrom⟩
      exact DeclaredField.isText_schemaType typed isFrom.type
  | mapValue among member mapped =>
      rcases SchemaContext.exists_of_mem_messagePlans planned among with
        ⟨composite, -, names, -, message, -, made⟩
      rcases SchemaContext.exists_isFrom_of_plan made member with ⟨fields, -, declared, -, isFrom⟩
      exact DeclaredField.isText_mapTypes typed (isFrom.mapTypes mapped)
  | input among member =>
      rcases context.exists_toRpc_of_services (services_of_writtenServices written among) among
        member with ⟨method, made⟩
      exact (Method.isText_toRpc typed made).1
  | output among member =>
      rcases context.exists_toRpc_of_services (services_of_writtenServices written among) among
        member with ⟨method, made⟩
      exact (Method.isText_toRpc typed made).2

/-! ## Paths of imports -/

/-- The path that an `import` annotation of the model asks for.  Every file of a
run imports it, whether or not it uses anything from there. -/
def IsAnnotatedImport (model : Model) (path : String) : Prop :=
  ∃ note ∈ model.levelAnnotations, note.isNamed ["import"] = true ∧ note.string "path" = path ∧
    path ≠ ""

theorem exists_annotatedImports {model : Model}
    (notes : model.levelAnnotations.all Annotation.hasTextName = true) :
    ∃ paths, annotatedImports model = .ok paths ∧
      ∀ path, path ∈ paths ↔ IsAnnotatedImport model path := by
  refine ⟨_, by rw [annotatedImports, annotationsNamed_of_text notes, ok_bind, pure_eq_ok], ?_⟩
  intro path
  simp only [List.mem_filterMap, List.mem_filter, nonempty?, IsAnnotatedImport]
  constructor
  · rintro ⟨note, ⟨among, named⟩, found⟩
    split at found
    · cases found
    · rename_i given
      cases found
      exact ⟨note, among, named, rfl, given⟩
  · rintro ⟨note, among, named, rfl, given⟩
    exact ⟨note, ⟨among, named⟩, if_neg given⟩

/-- Known types that bring no import with them.  Where one does, its path is
imported for every reference by its name, whatever schema type the reference is
written with. -/
def HasNoKnownImports (table : TypeTable) : Prop :=
  ∃ entries, table.known = .read entries ∧
    ∀ entry ∈ entries, entry.2.importPath.isTruthy = false

theorem importFor_text {table : TypeTable} (none : HasNoKnownImports table) (name source : String) :
    table.importFor (.text name) source =
      .ok (.text ((lookupKey? name wellKnownImports).getD "")) := by
  rcases none with ⟨entries, read, pathless⟩
  have unknown : table.knownImport? source = .ok Option.none := by
    rw [TypeTable.knownImport?, read]
    refine congrArg Except.ok (Option.filter_eq_none_iff.mpr fun path found => ?_)
    rcases Option.map_eq_some_iff.mp found with ⟨known, looked, rfl⟩
    rcases exists_of_lookupKey? looked with ⟨entry, member, rfl⟩
    rw [pathless entry member]
    exact Bool.false_ne_true
  rw [TypeTable.importFor, unknown, ok_bind]
  rfl

theorem wellKnownImports_ne_empty {name path : String}
    (found : lookupKey? name wellKnownImports = some path) : path ≠ "" := by
  have each : ∀ entry ∈ wellKnownImports, entry.2 ≠ "" := by decide
  rcases exists_of_lookupKey? found with ⟨entry, member, rfl⟩
  exact each entry member

/-- The path to which a type leads: the import of a well-known type, or else the file of another
group. -/
def importPath? (schema : SchemaUnit) (name : String) : Option String :=
  lookupKey? name wellKnownImports <|> otherFile? schema (.text name)

theorem referenceImport?_text {table : TypeTable} (none : HasNoKnownImports table)
    {reference : Reference} {name : String} (named : reference.type = .text name) :
    referenceImport? table schema reference = .ok ((importPath? schema name).map .text) := by
  rw [referenceImport?, named, importFor_text none, ok_bind, importPath?]
  cases found : lookupKey? name wellKnownImports with
  | none => rfl
  | some path =>
      rw [Option.getD_some, Value.isTruthy_text,
        if_pos (bne_iff_ne.mpr (wellKnownImports_ne_empty found))]
      rfl

theorem exists_referenced {table : TypeTable} (schema : SchemaUnit) (none : HasNoKnownImports table)
    (texts : ∀ type, Refers plans services type → type.IsText) :
    ∃ (found : List (Option Value)) (referenced : List String),
      (references plans services).mapM (referenceImport? table schema) = .ok found ∧
      found.filterMap id = referenced.map .text ∧
      ∀ path, path ∈ referenced ↔
        ∃ name, Refers plans services (.text name) ∧ importPath? schema name = some path := by
  have named : ∀ reference ∈ references plans services,
      reference.type = .text reference.type.display := by
    intro reference member
    rcases texts _ (refers_iff.mpr ⟨reference, member, rfl⟩) with ⟨name, same⟩
    rw [same, Value.display_text]
  refine ⟨(references plans services).map fun reference =>
      (importPath? schema reference.type.display).map .text,
    (references plans services).filterMap fun reference =>
      importPath? schema reference.type.display, ?_, ?_, fun path => ?_⟩
  · rw [mapM_eq_ok_iff, List.forall₂_map_right_iff, List.forall₂_same]
    exact fun reference member => referenceImport?_text none (named reference member)
  · rw [List.filterMap_map, List.map_filterMap]
    rfl
  · rw [List.mem_filterMap]
    constructor
    · rintro ⟨reference, member, found⟩
      refine ⟨reference.type.display, ?_, found⟩
      rw [← named reference member]
      exact refers_iff.mpr ⟨reference, member, rfl⟩
    · rintro ⟨name, refers, found⟩
      rcases refers_iff.mp refers with ⟨reference, member, same⟩
      exact ⟨reference, member, by rw [same, Value.display_text, found]⟩

/-- A unit whose references are texts has its imports in strictly increasing order: those that the
options list, those that annotations ask for and those to which its types lead. -/
theorem exists_imports (context : SchemaContext) (schema : SchemaUnit) {custom : List String}
    (notes : schema.model.levelAnnotations.all Annotation.hasTextName = true)
    (none : HasNoKnownImports context.types)
    (listed : context.options.customImports = some (.list (custom.map .text)))
    (texts : ∀ type, Refers plans services type → type.IsText) :
    ∃ paths : List String, imports context schema plans services = .ok (paths.map .text) ∧
      paths.Pairwise (· < ·) ∧
      ∀ path, path ∈ paths ↔ path ∈ custom ∨ IsAnnotatedImport schema.model path ∨
        ∃ name, Refers plans services (.text name) ∧ importPath? schema name = some path := by
  have keys : Value.askKeys (custom.map .text) = .ok (custom.map .text) := by
    rw [Value.askKeys, mapM_eq_ok_iff, List.forall₂_same]
    intro value member
    rcases List.mem_map.mp member with ⟨content, -, rfl⟩
    rfl
  rcases exists_annotatedImports notes with ⟨annotated, asked, ofNotes⟩
  rcases exists_referenced schema none texts with
    ⟨found, referenced, followed, kept, ofTypes⟩
  rcases Value.exists_inOrder_distinct (custom ++ annotated ++ referenced) with
    ⟨paths, sorted, increasing, members⟩
  refine ⟨paths, ?_, increasing, fun path => ?_⟩
  · rw [imports, listed]
    simp only [askGiven, Value.items, ok_bind, keys, asked, followed, kept,
      ← List.map_append, sorted]
  · rw [members, List.mem_append, List.mem_append, ofNotes, ofTypes, or_assoc]

end ProtoText

end WireSchema
