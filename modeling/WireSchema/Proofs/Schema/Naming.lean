import WireSchema.Proofs.Schema.Resolution
import WireSchema.Schema.Service
import WireSchema.Validation.Check

namespace WireSchema

/-!
# Names of what a typed unit writes

Messages, enumerations and services take their names from annotations, which give texts, or keep the
declared ones.  In a typed unit the latter are texts too, so that every name is one and can be
compared with the others.
-/

open Asked

/-! ## Messages -/

namespace Composite

variable {composite : Composite}

theorem isText_nameOr {declared : Value} (name : declared.IsText) (note : Annotation) :
    (nameOr declared note).IsText := by
  unfold nameOr
  cases nonempty? (note.string "name") with
  | none => exact name
  | some text => exact Value.isText_text text

theorem exists_messageNames (typed : composite.IsTyped) :
    ∃ names, composite.messageNames = .ok names ∧ ∀ name ∈ names, name.IsText := by
  have notes : composite.messageAnnotations.Succeeds := succeeds_annotationsNamed typed.notes
  have default : ∃ name, composite.defaultMessageName = .ok name ∧ name.IsText := by
    have first : (annotationNamed? ["message"] composite.annotations).Succeeds :=
      succeeds_annotationNamed? typed.notes
    rcases first with ⟨found, equal⟩
    refine ⟨_, by rw [defaultMessageName, equal, ok_bind, pure_eq_ok], ?_⟩
    cases found with
    | none => exact typed.name
    | some note => exact isText_nameOr typed.name note
  rcases notes with ⟨found, equal⟩
  rcases default with ⟨name, given, isText⟩
  refine ⟨_, by rw [messageNames, equal, ok_bind, given, ok_bind, pure_eq_ok], ?_⟩
  split
  · intro only member
    rw [List.mem_singleton.mp member]
    exact isText
  · intro own member
    rcases List.mem_map.mp member with ⟨note, _, rfl⟩
    exact isText_nameOr isText note

theorem succeeds_isMessage (typed : composite.IsTyped) : composite.isMessage.Succeeds := by
  unfold isMessage
  split
  · exact succeeds_ok false
  · apply (succeeds_isAnnotated typed.notes : (isSkipped composite.annotations).Succeeds).bind
    intro skipped _
    split
    · exact succeeds_ok false
    · exact (succeeds_isAnnotated typed.notes).bind fun _ _ => succeeds_ok _

theorem exists_writtenNames (typed : composite.IsTyped) :
    ∃ names, Validation.writtenNames composite = .ok names ∧ ∀ name ∈ names, name.IsText := by
  rcases succeeds_isMessage typed with ⟨isMessage, equal⟩
  rw [Validation.writtenNames, equal, ok_bind]
  cases isMessage with
  | true => exact exists_messageNames typed
  | false => exact ⟨[], rfl, by rintro name ⟨⟩⟩

end Composite

/-! ## Enumerations -/

namespace EnumType

variable {enum : EnumType}

theorem succeeds_isWritten (typed : enum.IsTyped) : enum.isWritten.Succeeds := by
  apply (succeeds_isAnnotated typed.notes : (isSkipped enum.annotations).Succeeds).bind
  intro skipped _
  exact succeeds_ok _

theorem exists_schemaName (typed : enum.IsTyped) :
    ∃ name, enum.schemaName = .ok name ∧ name.IsText :=
  exists_renamed typed.notes typed.name

theorem succeeds_allowsAlias (typed : enum.IsTyped) : enum.allowsAlias.Succeeds :=
  (succeeds_annotationsNamed typed.notes).bind fun _ _ => succeeds_ok _

end EnumType

namespace EnumValue

variable {value : EnumValue}

/-- The number of a typed value is an integer. -/
theorem exists_number (typed : value.IsTyped) :
    ∃ number : Int, value.number = .ok (.int number) := by
  have notes : (annotationsNamed ["enumvalue"] value.annotations).Succeeds :=
    succeeds_annotationsNamed typed.notes
  rcases notes with ⟨found, equal⟩
  rw [number, equal, ok_bind, pure_eq_ok]
  cases found.findSome? (·.integer? "number") with
  | none =>
      rcases typed.index with ⟨index, same⟩
      exact ⟨index, congrArg Except.ok same⟩
  | some stated => exact ⟨stated, rfl⟩

theorem succeeds_schemaName (typed : value.IsTyped) : value.schemaName.Succeeds := by
  apply (succeeds_firstString? typed.notes).bind
  intro given _
  split
  · exact succeeds_ok _
  · exact typed.name.succeeds_askReplaceable.bind fun _ _ => succeeds_ok _

end EnumValue

/-! ## Services -/

section Services

variable {table : TypeTable} {model : Model}

theorem Method.succeeds_firstType (typed : table.IsTyped) (parameters : List Parameter) :
    (firstType table parameters).Succeeds := by
  cases parameters with
  | nil => exact succeeds_ok _
  | cons first _ => exact table.succeeds_schemaType typed first.type

theorem Method.succeeds_toRpc {method : Method} (tableTyped : table.IsTyped)
    (typed : method.IsTyped) : (method.toRpc table).Succeeds := by
  apply (succeeds_firstType tableTyped method.dataParams).bind
  intro inputType _
  apply (succeeds_firstType tableTyped method.dataResults).bind
  intro outputType _
  exact (succeeds_annotationsNamed typed).bind fun _ _ => succeeds_ok _

theorem exists_serviceOf {name doc : Value} {notes : List Annotation} {methods : List Method}
    {fromComposite : Bool} (tableTyped : table.IsTyped) (isText : name.IsText)
    (typed : notes.all Annotation.hasTextName = true) (each : ∀ method ∈ methods, method.IsTyped) :
    ∃ service, serviceOf table name notes methods doc fromComposite = .ok service ∧
      service.name.IsText := by
  have rpcs : (methods.mapM (Method.toRpc table)).Succeeds :=
    succeeds_mapM fun method member => Method.succeeds_toRpc tableTyped (each method member)
  have own : ∃ given, renamed ["service"] notes name = .ok given ∧ given.IsText :=
    exists_renamed typed isText
  rcases own with ⟨given, equal, givenText⟩
  rcases rpcs with ⟨calls, called⟩
  rcases succeeds_descriptionOf doc typed with ⟨description, described⟩
  exact ⟨_, by rw [serviceOf, equal, ok_bind, called, ok_bind, described, ok_bind, pure_eq_ok],
    givenText⟩

theorem exists_serviceIfAsked {notes : List Annotation} {service : Asked Service}
    (typed : notes.all Annotation.hasTextName = true)
    (made : ∃ found, service = .ok found ∧ found.name.IsText) :
    ∃ services, serviceIfAsked notes service = .ok services ∧
      ∀ found ∈ services, found.name.IsText := by
  have asked : (isService notes).Succeeds := succeeds_isAnnotated typed
  rcases asked with ⟨isService, equal⟩
  rcases made with ⟨found, result, isText⟩
  rw [serviceIfAsked, equal, ok_bind]
  cases isService with
  | false => exact ⟨[], rfl, by rintro other ⟨⟩⟩
  | true =>
      refine ⟨[found], by rw [if_pos rfl, result]; rfl, ?_⟩
      intro other member
      rw [List.mem_singleton.mp member]
      exact isText

theorem ServiceContract.exists_toService {contract : ServiceContract} (tableTyped : table.IsTyped)
    (typed : contract.IsTyped) :
    ∃ service, contract.toService table = .ok service ∧ service.name.IsText :=
  exists_serviceOf tableTyped typed.name typed.notes typed.methods

theorem Model.exists_receiverMethods (typed : model.IsTyped) (composite : Composite) :
    ∃ methods, model.receiverMethods composite = .ok methods ∧
      ∀ method ∈ methods, method.IsTyped := by
  have tested : ∀ function ∈ model.functions, (composite.receives function).Succeeds := by
    intro function member
    unfold Composite.receives
    split
    · exact succeeds_isAnnotated (typed.functions function member)
    · exact succeeds_ok false
  rcases succeeds_keepWhere tested with ⟨kept, equal⟩
  refine ⟨_, by rw [receiverMethods, equal, ok_bind, pure_eq_ok], ?_⟩
  intro method member
  rcases List.mem_map.mp member with ⟨function, chosen, rfl⟩
  exact typed.functions function (mem_of_mem_keepWhere equal chosen)

theorem Composite.exists_toService {composite : Composite} (modelTyped : model.IsTyped)
    (tableTyped : table.IsTyped) (typed : composite.IsTyped) :
    ∃ service, composite.toService model table = .ok service ∧ service.name.IsText := by
  rcases Model.exists_receiverMethods modelTyped composite with ⟨methods, equal, each⟩
  rw [toService, equal, ok_bind]
  exact exists_serviceOf tableTyped typed.name typed.notes each

end Services

/-- The services of typed declarations can be resolved, and their names are texts. -/
theorem SchemaContext.exists_services {context : SchemaContext} (typed : context.IsTyped)
    {contracts : List ServiceContract} {composites : List Composite}
    (contractsTyped : ∀ contract ∈ contracts, contract.IsTyped)
    (compositesTyped : ∀ composite ∈ composites, composite.IsTyped) :
    ∃ services, context.services contracts composites = .ok services ∧
      ∀ service ∈ services, service.name.IsText := by
  have ofContracts := exists_mapM fun contract member =>
    exists_serviceIfAsked (contractsTyped contract member).notes
      (ServiceContract.exists_toService typed.types (contractsTyped contract member))
  have ofComposites := exists_mapM fun composite member =>
    exists_serviceIfAsked (compositesTyped composite member).notes
      (Composite.exists_toService typed.model typed.types (compositesTyped composite member))
  rcases ofContracts with ⟨first, equal, firstText⟩
  rcases ofComposites with ⟨second, other, secondText⟩
  refine ⟨first.flatten ++ second.flatten, by
    rw [services, equal, ok_bind, other, ok_bind, pure_eq_ok], ?_⟩
  intro service member
  rcases List.mem_append.mp member with here | there
  · rcases List.mem_flatten.mp here with ⟨list, among, found⟩
    exact firstText list among service found
  · rcases List.mem_flatten.mp there with ⟨list, among, found⟩
    exact secondText list among service found

end WireSchema
