import WireSchema.Proofs.Schema.Outcome
import WireSchema.Proofs.Schema.References
import WireSchema.Schema.Service

namespace WireSchema

/-!
# What a run looks up

A table of types knows an alias by the notation of the instantiation that it stands for, and nothing
else of it.  A field has its type mapped when nothing states a schema type for it, and the key and
the value of a map are mapped by themselves; of a method it is the types of the first parameter and
the first result that carry data.  Two tables with other aliases therefore give the same schema
wherever they have the same alias for every instantiation that is looked up on the way.
-/

open Asked

/-! ## Types -/

namespace TypeTable

def withAliases (table : TypeTable) (aliases : List (String × Value)) : TypeTable :=
  { table with aliases }

mutual

/-- The instantiations that are looked up to map a type.  The arguments of one that has an alias are
not mapped. -/
def lookedUp (table : TypeTable) : TypeExpr → List TypeExpr
  | .named _ _ => []
  | .pointer elem => lookedUp table elem
  | .sequence elem => lookedUp table elem
  | .mapping key value => lookedUp table key ++ lookedUp table value
  | .generic name args =>
      .generic name args ::
        if (table.aliasFor? (.generic name args)).isSome then [] else lookedUpAll table args

def lookedUpAll (table : TypeTable) : List TypeExpr → List TypeExpr
  | [] => []
  | arg :: args => lookedUp table arg ++ lookedUpAll table args

end

/-- A list of aliases has the same one as a table for every instantiation that is looked up to map a
type. -/
def AgreesOn (table : TypeTable) (aliases : List (String × Value)) (type : TypeExpr) : Prop :=
  ∀ expr ∈ table.lookedUp type, lookupKey? expr.print aliases = lookupKey? expr.print table.aliases

variable {table : TypeTable} {aliases : List (String × Value)}

theorem AgreesOn.key {key value : TypeExpr} (agrees : table.AgreesOn aliases (.mapping key value)) :
    table.AgreesOn aliases key := by
  intro expr member
  apply agrees
  rw [lookedUp]
  exact List.mem_append_left _ member

theorem AgreesOn.value {key value : TypeExpr}
    (agrees : table.AgreesOn aliases (.mapping key value)) : table.AgreesOn aliases value := by
  intro expr member
  apply agrees
  rw [lookedUp]
  exact List.mem_append_right _ member

mutual

theorem schemaType_withAliases : ∀ type, table.AgreesOn aliases type →
    (table.withAliases aliases).schemaType type = table.schemaType type
  | .named name package, _ => by
      rw [schemaType, schemaType]
      rfl
  | .pointer elem, agrees => by
      have inner : table.AgreesOn aliases elem := by
        intro expr member
        exact agrees expr (by rwa [lookedUp])
      rw [schemaType, schemaType, schemaType_withAliases elem inner]
  | .sequence elem, agrees => by
      have inner : table.AgreesOn aliases elem := by
        intro expr member
        exact agrees expr (by rwa [lookedUp])
      rw [schemaType, schemaType, schemaType_withAliases elem inner]
  | .mapping key value, agrees => by
      rw [schemaType, schemaType, schemaType_withAliases key agrees.key,
        schemaType_withAliases value agrees.value]
  | .generic name args, agrees => by
      have own : (table.withAliases aliases).aliasFor? (.generic name args) =
          table.aliasFor? (.generic name args) := by
        have same := agrees (.generic name args) (by rw [lookedUp]; exact List.mem_cons_self)
        rw [aliasFor?, aliasFor?, withAliases, same]
      rw [schemaType, schemaType, own]
      cases found : table.aliasFor? (.generic name args) with
      | some aliasName => rfl
      | none =>
          have others : ∀ expr ∈ table.lookedUpAll args,
              lookupKey? expr.print aliases = lookupKey? expr.print table.aliases := by
            intro expr member
            apply agrees
            rw [lookedUp, found]
            exact List.mem_cons_of_mem _ member
          dsimp only
          rw [argumentNames_withAliases args others]

theorem argumentNames_withAliases : ∀ args, (∀ expr ∈ table.lookedUpAll args,
      lookupKey? expr.print aliases = lookupKey? expr.print table.aliases) →
    (table.withAliases aliases).argumentNames args = table.argumentNames args
  | [], _ => by rw [argumentNames, argumentNames]
  | arg :: args, agree => by
      have first : table.AgreesOn aliases arg := by
        intro expr member
        apply agree
        rw [lookedUpAll]
        exact List.mem_append_left _ member
      have others : ∀ expr ∈ table.lookedUpAll args,
          lookupKey? expr.print aliases = lookupKey? expr.print table.aliases := by
        intro expr member
        apply agree
        rw [lookedUpAll]
        exact List.mem_append_right _ member
      rw [argumentNames, argumentNames, schemaType_withAliases arg first,
        argumentNames_withAliases args others]

end

end TypeTable

/-! ## Fields -/

/-- The types that are mapped to resolve a field, as its message sees it: the key that decides the
shape of a map; the whole type of a field that is written, unless something states its schema type;
and the value of a map that is written. -/
inductive DeclaredField.Maps (context : SchemaContext) (inclusion : Inclusion)
    (field : DeclaredField) : TypeExpr → Prop where
  | key {key value : TypeExpr} (unstated : field.annotatedMap? = .ok none)
      (declared : field.type = .mapping key value) : Maps context inclusion field key
  | whole {shape : FieldShape} (kept : inclusion = .keep)
      (shaped : field.shape context.types = .ok shape) (supported : shape ≠ .unsupported)
      (silent : field.StatesNoType context.model) : Maps context inclusion field field.type
  | value {key value : TypeExpr} (kept : inclusion = .keep)
      (shaped : field.shape context.types = .ok .map) (unstated : field.annotatedMap? = .ok none)
      (declared : field.type = .mapping key value) : Maps context inclusion field value

/-- The types that are mapped to resolve a declared field in a message that does not drop it. -/
inductive DeclaredField.MapsIn (context : SchemaContext) (composite : Composite) (message : Value)
    (field : DeclaredField) (type : TypeExpr) : Prop where
  | seen {inclusion : Inclusion} {seen : DeclaredField}
      (included : field.inclusion context.model composite message = .ok inclusion)
      (takesPart : inclusion ≠ .drop) (view : field.forMessage message = .ok seen)
      (maps : seen.Maps context inclusion type) : MapsIn context composite message field type

theorem DeclaredField.MapsIn.eq_type {context : SchemaContext} {composite : Composite}
    {message : Value} {field : DeclaredField} {type : TypeExpr}
    (maps : field.MapsIn context composite message type)
    (single : ∀ key value, field.type ≠ .mapping key value) : type = field.type := by
  rcases maps with ⟨-, -, view, maps⟩
  rcases bind_eq_ok_iff.mp view with ⟨notes, -, seen⟩
  cases seen
  cases maps with
  | key _ declared => exact absurd declared (single _ _)
  | value _ _ _ declared => exact absurd declared (single _ _)
  | whole _ _ _ _ => rfl

namespace SchemaContext

def withAliases (context : SchemaContext) (aliases : List (String × Value)) : SchemaContext :=
  { context with types := context.types.withAliases aliases }

variable {context : SchemaContext} {aliases : List (String × Value)} {composite : Composite}
  {message : Value} {next : Int} {inclusion : Inclusion} {field : DeclaredField}

theorem shape_withAliases
    (agrees : ∀ type, field.Maps context inclusion type → context.types.AgreesOn aliases type) :
    field.shape (context.types.withAliases aliases) = field.shape context.types := by
  rw [DeclaredField.shape, DeclaredField.shape]
  cases stated : field.annotatedMap? with
  | error fault => rw [error_bind, error_bind]
  | ok types? =>
      cases types? with
      | some types => rfl
      | none =>
          rw [ok_bind, ok_bind, Option.isSome_none, if_neg Bool.false_ne_true,
            if_neg Bool.false_ne_true, DeclaredField.declaredShape, DeclaredField.declaredShape]
          split
          · rename_i key value declared
            rw [TypeTable.schemaType_withAliases key (agrees key (.key stated declared))]
          · rfl

theorem schemaType_withAliases
    (agrees : field.StatesNoType context.model → context.types.AgreesOn aliases field.type) :
    field.schemaType (context.withAliases aliases) = field.schemaType context := by
  rw [DeclaredField.schemaType, DeclaredField.schemaType]
  cases annotated : firstString? ["field"] "type" field.annotations with
  | error fault => rw [error_bind, error_bind]
  | ok type? =>
      cases type? with
      | some type => rfl
      | none =>
          change (context.model.tagOf field >>= fun tag => _) =
            (context.model.tagOf field >>= fun tag => _)
          cases read : context.model.tagOf field with
          | error fault => rw [error_bind, error_bind]
          | ok tag =>
              rw [ok_bind, ok_bind]
              cases tagged : nonempty? tag.type with
              | some type => rfl
              | none =>
                  exact TypeTable.schemaType_withAliases _ (agrees ⟨annotated, tag, read, tagged⟩)

theorem mapTypes_withAliases (agrees : field.annotatedMap? = .ok none →
      ∀ key value, field.type = .mapping key value →
        context.types.AgreesOn aliases key ∧ context.types.AgreesOn aliases value) :
    field.mapTypes (context.types.withAliases aliases) = field.mapTypes context.types := by
  rw [DeclaredField.mapTypes, DeclaredField.mapTypes]
  cases stated : field.annotatedMap? with
  | error fault => rw [error_bind, error_bind]
  | ok types? =>
      cases types? with
      | some types => rfl
      | none =>
          rw [ok_bind, ok_bind]
          dsimp only
          split
          · rename_i key value declared
            rcases agrees stated key value declared with ⟨keys, values⟩
            rw [TypeTable.schemaType_withAliases key keys,
              TypeTable.schemaType_withAliases value values]
          · rfl

theorem planField_withAliases {shape : FieldShape} {numbered : NumberedField}
    (shaped : numbered.field.shape context.types = .ok shape) (supported : shape ≠ .unsupported)
    (agrees : ∀ type, numbered.field.Maps context .keep type →
      context.types.AgreesOn aliases type) :
    (context.withAliases aliases).planField shape numbered = context.planField shape numbered := by
  have type := schemaType_withAliases fun silent =>
    agrees _ (.whole rfl shaped supported silent)
  rw [planField, planField, type]
  by_cases isMap : shape = .map
  · subst isMap
    have mapTypes : numbered.field.mapTypes (context.withAliases aliases).types =
        numbered.field.mapTypes context.types :=
      mapTypes_withAliases fun unstated _ _ declared =>
        ⟨agrees _ (.key unstated declared), agrees _ (.value rfl shaped unstated declared)⟩
    rw [mapTypes]
    rfl
  · have other : (shape == FieldShape.map) = false := beq_eq_false_iff_ne.mpr isMap
    simp only [other]
    rfl

theorem resolveDecided_withAliases
    (agrees : ∀ type, field.Maps context inclusion type → context.types.AgreesOn aliases type) :
    (context.withAliases aliases).resolveDecided next inclusion field =
      context.resolveDecided next inclusion field := by
  have shape : field.shape (context.withAliases aliases).types = field.shape context.types :=
    shape_withAliases agrees
  rw [resolveDecided, resolveDecided, shape]
  cases shaped : field.shape context.types with
  | error fault => rw [error_bind, error_bind]
  | ok shape =>
      rw [ok_bind, ok_bind]
      split
      · rfl
      · rename_i written
        change (context.numberField next field inclusion >>= fun numbered => _) =
          (context.numberField next field inclusion >>= fun numbered => _)
        cases numbering : context.numberField next field inclusion with
        | error fault => rw [error_bind, error_bind]
        | ok numbered =>
            rw [ok_bind, ok_bind]
            split
            · rename_i kept
              have kept : inclusion = .keep := beq_iff_eq.mp kept
              subst kept
              have supported : shape ≠ .unsupported := by
                rintro rfl
                exact written rfl
              have own : numbered.field = field := by
                rcases numberField_eq_ok_iff.mp numbering with ⟨own?, -, rfl⟩
                rfl
              subst own
              rw [planField_withAliases shaped supported agrees]
            · rfl

theorem resolveField_withAliases
    (agrees : ∀ type, field.MapsIn context composite message type →
      context.types.AgreesOn aliases type) :
    (context.withAliases aliases).resolveField composite message next field =
      context.resolveField composite message next field := by
  have same : field.inclusion (context.withAliases aliases).model composite message =
      field.inclusion context.model composite message := rfl
  rw [resolveField, resolveField, same]
  cases included : field.inclusion context.model composite message with
  | error fault => rw [error_bind, error_bind]
  | ok inclusion =>
      have decided : inclusion ≠ .drop →
          (field.forMessage message >>=
              (context.withAliases aliases).resolveDecided next inclusion) =
            (field.forMessage message >>= context.resolveDecided next inclusion) := by
        intro takesPart
        cases view : field.forMessage message with
        | error fault => rw [error_bind, error_bind]
        | ok seen =>
            exact resolveDecided_withAliases fun type maps =>
              agrees type (.seen included takesPart view maps)
      rw [ok_bind, ok_bind]
      cases inclusion with
      | drop => rfl
      | keep => exact decided (by rintro ⟨⟩)
      | dropAndReserve => exact decided (by rintro ⟨⟩)

theorem resolveFields_withAliases {fields : List DeclaredField}
    (agrees : ∀ field ∈ fields, ∀ type, field.MapsIn context composite message type →
      context.types.AgreesOn aliases type) :
    (context.withAliases aliases).resolveFields composite message next fields =
      context.resolveFields composite message next fields := by
  induction fields generalizing next with
  | nil => rfl
  | cons field fields ih =>
      have rest : ∀ next, (context.withAliases aliases).resolveFields composite message
          next fields =
          context.resolveFields composite message next fields :=
        fun _ => ih fun later member => agrees later (List.mem_cons_of_mem field member)
      simp only [resolveFields, resolveField_withAliases (agrees field List.mem_cons_self), rest]

end SchemaContext

/-! ## Methods and units -/

/-- The types that are mapped of a method: those of its first parameter and its first result that
carry data. -/
def Method.Maps (method : Method) (type : TypeExpr) : Prop :=
  ∃ parameters ∈ [method.dataParams, method.dataResults], ∃ first ∈ parameters.head?,
    first.type = type

theorem Method.toRpc_withAliases {table : TypeTable} {aliases : List (String × Value)}
    {method : Method} (agrees : ∀ type, method.Maps type → table.AgreesOn aliases type) :
    method.toRpc (table.withAliases aliases) = method.toRpc table := by
  have first : ∀ parameters ∈ [method.dataParams, method.dataResults],
      firstType (table.withAliases aliases) parameters = firstType table parameters := by
    intro parameters member
    cases parameters with
    | nil => rfl
    | cons first others =>
        exact TypeTable.schemaType_withAliases _ (agrees _ ⟨_, member, first, rfl, rfl⟩)
  rw [toRpc, toRpc, first _ List.mem_cons_self,
    first _ (List.mem_cons_of_mem _ List.mem_cons_self)]

theorem serviceOf_withAliases {table : TypeTable} {aliases : List (String × Value)}
    {methods : List Method}
    (agrees : ∀ method ∈ methods, ∀ type, method.Maps type → table.AgreesOn aliases type)
    (name : Value) (annotations : List Annotation) (doc : Value) (fromComposite : Bool) :
    serviceOf (table.withAliases aliases) name annotations methods doc fromComposite =
      serviceOf table name annotations methods doc fromComposite := by
  have rpcs : methods.mapM (·.toRpc (table.withAliases aliases)) = methods.mapM (·.toRpc table) :=
    mapM_eq_of_forall₂ (List.forall₂_same.mpr fun method member =>
      method.toRpc_withAliases (agrees method member))
  rw [serviceOf, serviceOf, rpcs]

theorem serviceIfAsked_eq {annotations : List Annotation} {service other : Asked Service}
    (same : isService annotations = .ok true → other = service) :
    serviceIfAsked annotations other = serviceIfAsked annotations service := by
  rw [serviceIfAsked, serviceIfAsked]
  cases served : isService annotations with
  | error fault => rw [error_bind, error_bind]
  | ok asked =>
      cases asked with
      | false => rfl
      | true => rw [same served]

theorem ServiceContract.serviceIfAsked_withAliases {table : TypeTable}
    {aliases : List (String × Value)} {contract : ServiceContract}
    (agrees : isService contract.annotations = .ok true → ∀ method ∈ contract.methods,
      ∀ type, method.Maps type → table.AgreesOn aliases type) :
    serviceIfAsked contract.annotations (contract.toService (table.withAliases aliases)) =
      serviceIfAsked contract.annotations (contract.toService table) :=
  serviceIfAsked_eq fun served => serviceOf_withAliases (agrees served) _ _ _ _

/-- The types that are mapped when a unit is validated and written: of every field in every message
of the unit, and of the methods of its services. -/
inductive SchemaUnit.Maps (context : SchemaContext) (schema : SchemaUnit) (type : TypeExpr) :
    Prop where
  | field {composite : Composite} {names : List Value} {message : Value}
      {fields : List DeclaredField} {field : DeclaredField}
      (member : composite ∈ schema.composites) (written : composite.isMessage = .ok true)
      (named : composite.messageNames = .ok names) (among : message ∈ names)
      (resolved : context.model.resolvedFields composite = .ok fields) (declared : field ∈ fields)
      (maps : field.MapsIn context composite message type) : Maps context schema type
  | contract {contract : ServiceContract} {method : Method} (member : contract ∈ schema.services)
      (served : isService contract.annotations = .ok true) (declared : method ∈ contract.methods)
      (maps : method.Maps type) : Maps context schema type
  | receiver {composite : Composite} {methods : List Method} {method : Method}
      (member : composite ∈ schema.composites) (served : isService composite.annotations = .ok true)
      (found : context.model.receiverMethods composite = .ok methods) (declared : method ∈ methods)
      (maps : method.Maps type) : Maps context schema type

/-- The instantiations that are looked up when a unit is validated and written.
Only these need an alias or a composed name; other generic types of the model
may be anything. -/
def SchemaUnit.LooksUp (context : SchemaContext) (schema : SchemaUnit) (expr : TypeExpr) : Prop :=
  ∃ type, schema.Maps context type ∧ expr ∈ context.types.lookedUp type

end WireSchema
