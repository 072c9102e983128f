import WireSchema.Proofs.Failure
import WireSchema.Proofs.Schema.Mapping
import WireSchema.ProtoText.File

namespace WireSchema

/-!
# Types that are replaced one by one

A unit is validated and written from the plans of its messages and from its services.  Of a
composite type itself only the name and the package are read besides.  So a composite type may be
replaced by another one that has the same messages with the same plans and the same service, and
neither the file nor what is found on the unit shows it.
-/

open Asked

/-- A plan that differs from another one at most in the composite type that it
notes.  Nothing of that type is written, so that the two have the same block. -/
def MessagePlan.SameContent (plan other : MessagePlan) : Prop :=
  ∃ composite, other = { plan with composite }

def SchemaContext.withTypes (context : SchemaContext) (composites : List Composite)
    (aliases : List (String × Value)) : SchemaContext :=
  (context.withAliases aliases).withComposites composites

/-- A unit with other composite types, in its model and of its own.  What the
unit declares otherwise, and where its types are found, does not change. -/
def SchemaUnit.withTypes (schema : SchemaUnit) (all own : List Composite) : SchemaUnit :=
  { schema with model := { schema.model with composites := all }, composites := own }

/-- A composite type that is read in one context as another one is in another
context.  The names decide where it is written and how often, and the plans what
is written. -/
structure Composite.StandsFor (context other : SchemaContext) (before after : Composite) :
    Prop where
  name : after.name = before.name
  package : after.package = before.package
  isMessage : after.isMessage = before.isMessage
  messageNames : after.messageNames = before.messageNames
  plan : before.isMessage = .ok true → ∀ names, before.messageNames = .ok names →
    ∀ message ∈ names, Related MessagePlan.SameContent (context.plan before message)
      (other.plan after message)
  service : serviceIfAsked after.annotations (after.toService other.model other.types) =
    serviceIfAsked before.annotations (before.toService context.model context.types)

variable {context : SchemaContext} {all own : List Composite} {aliases : List (String × Value)}
  {before after : Composite} {schema : SchemaUnit}

/-! ## Validation -/

namespace Validation

theorem planFindings_of_sameContent {plan other : MessagePlan} (same : plan.SameContent other)
    (options : Options) : planFindings options other = planFindings options plan := by
  rcases same with ⟨composite, rfl⟩
  rfl

theorem numerals_of_sameContent {plan other : MessagePlan} (same : plan.SameContent other)
    (options : Options) : numerals options other = numerals options plan := by
  rcases same with ⟨composite, rfl⟩
  rfl

theorem related_plan_of_writtenNames {other : SchemaContext} {names : List Value} {message : Value}
    (stands : before.StandsFor context other after) (written : writtenNames before = .ok names)
    (member : message ∈ names) :
    Related MessagePlan.SameContent (context.plan before message) (other.plan after message) := by
  rcases bind_eq_ok_iff.mp written with ⟨isMessage, asked, named⟩
  cases isMessage with
  | true => exact stands.plan asked names named message member
  | false =>
      cases named
      cases member

theorem messagesFindings_of_related {other : SchemaContext} {names : List Value}
    (options : other.options = context.options) (name : after.name = before.name)
    (plans : ∀ message ∈ names, Related MessagePlan.SameContent (context.plan before message)
      (other.plan after message))
    (seen : List Value) :
    messagesFindings other after seen names = messagesFindings context before seen names := by
  induction names generalizing seen with
  | nil => rfl
  | cons message messages ih =>
      have own : messageFindings other after seen message =
          messageFindings context before seen message := by
        apply Related.eq
        apply Related.bind (related_of_eq rfl)
        rintro taken _ rfl
        apply Related.bind (plans message List.mem_cons_self)
        intro plan further same
        rw [numerals_of_sameContent same, planFindings_of_sameContent same, options, name]
        exact related_of_eq rfl
      have rest := ih fun later member => plans later (List.mem_cons_of_mem message member)
      rw [messagesFindings, messagesFindings, own, rest]

theorem compositeFindings_of_standsFor {other : SchemaContext} {composites others : List Composite}
    (options : other.options = context.options)
    (stand : List.Forall₂ (Composite.StandsFor context other) composites others)
    (seen : List Value) :
    compositeFindings other seen others = compositeFindings context seen composites := by
  induction stand generalizing seen with
  | nil => rfl
  | @cons before after _ _ stands _ ih =>
      have names : writtenNames after = writtenNames before := by
        rw [writtenNames, writtenNames, stands.isMessage, stands.messageNames]
      rw [compositeFindings, compositeFindings, names]
      cases written : writtenNames before with
      | error fault => rw [error_bind, error_bind]
      | ok names =>
          have own := messagesFindings_of_related options stands.name
            (fun _ member => related_plan_of_writtenNames stands written member) seen
          rw [ok_bind, ok_bind, own, ih]

end Validation

/-! ## Plans and services -/

namespace SchemaContext

theorem messagePlans_of_standsFor {other : SchemaContext} {composites others : List Composite}
    (stand : List.Forall₂ (Composite.StandsFor context other) composites others) :
    Related (List.Forall₂ MessagePlan.SameContent) (context.messagePlans composites)
      (other.messagePlans others) := by
  have each : ∀ before after : Composite, before.StandsFor context other after →
      Related (List.Forall₂ MessagePlan.SameContent) (context.plansIfMessage before)
        (other.plansIfMessage after) := by
    intro before after stands
    rw [plansIfMessage, plansIfMessage, stands.isMessage]
    cases written : before.isMessage with
    | error fault => exact .error fault
    | ok isMessage =>
        cases isMessage with
        | false => exact .ok .nil
        | true =>
            rw [ok_bind, ok_bind, if_pos rfl, if_pos rfl, plans, plans, stands.messageNames]
            cases named : before.messageNames with
            | error fault => exact .error fault
            | ok names =>
                exact related_mapM (List.forall₂_same.mpr (stands.plan written names named))
  apply Related.bind (related_mapM (stand.imp each))
  intro plans further same
  exact .ok (List.rel_flatten same)

theorem services_of_standsFor {other : SchemaContext} {contracts : List ServiceContract}
    {composites others : List Composite}
    (stand : List.Forall₂ (Composite.StandsFor context other) composites others)
    (served : ∀ contract ∈ contracts,
      serviceIfAsked contract.annotations (contract.toService other.types) =
        serviceIfAsked contract.annotations (contract.toService context.types)) :
    other.services contracts others = context.services contracts composites := by
  rw [services, services, mapM_eq_of_forall₂ (List.forall₂_same.mpr served),
    mapM_eq_of_forall₂ (stand.imp fun _ _ stands => stands.service)]

end SchemaContext

/-! ## The file -/

namespace ProtoText

theorem references_of_sameContent {plans others : List MessagePlan} (services : List Service)
    (same : List.Forall₂ MessagePlan.SameContent plans others) :
    references others services = references plans services := by
  have fields : others.flatMap (fun plan => plan.fields.map fieldReference) =
      plans.flatMap fun plan => plan.fields.map fieldReference := by
    induction same with
    | nil => rfl
    | cons head _ ih =>
        rcases head with ⟨composite, rfl⟩
        rw [List.flatMap_cons, List.flatMap_cons, ih]
  rw [references, references, fields]

theorem declaredPackage_of_standsFor {other : SchemaContext} {composites others : List Composite}
    (stand : List.Forall₂ (Composite.StandsFor context other) composites others) :
    declaredPackage others = declaredPackage composites := by
  cases stand with
  | nil => rfl
  | cons stands _ => rw [declaredPackage, declaredPackage, stands.package]

theorem header_withTypes {plans others : List MessagePlan} (services : List Service)
    (package : declaredPackage own = declaredPackage schema.composites)
    (same : List.Forall₂ MessagePlan.SameContent plans others) :
    header (context.withTypes all aliases) (schema.withTypes all own) others services =
      header context schema plans services := by
  have named : packageName context.options (schema.withTypes all own) =
      packageName context.options schema := by
    change (if context.options.package.isTruthy then _ else _) = _
    rw [SchemaUnit.withTypes, package]
    rfl
  have imported :
      imports (context.withTypes all aliases) (schema.withTypes all own) others services =
        imports context schema plans services := by
    rw [imports, imports, references_of_sameContent services same]
    rfl
  change (packageName context.options (schema.withTypes all own) >>= fun package => _) = _
  rw [named, imported]
  rfl

theorem blocks_withTypes {plans others : List MessagePlan} (services : List Service)
    (same : List.Forall₂ MessagePlan.SameContent plans others) :
    blocks (context.withTypes all aliases) (schema.withTypes all own) others services =
      blocks context schema plans services := by
  have messages : others.mapM (messageBlock context.options) =
      plans.mapM (messageBlock context.options) := by
    apply mapM_eq_of_forall₂
    apply same.imp
    rintro plan _ ⟨composite, rfl⟩
    rfl
  change (others.mapM (messageBlock context.options) >>= fun messages => _) = _
  rw [messages]
  rfl

/-- A unit whose composite types are replaced one by one by others that stand for them has the same
file, or fails in the same way. -/
theorem generate_withTypes
    (stand : List.Forall₂ (Composite.StandsFor context (context.withTypes all aliases))
      schema.composites own)
    (served : ∀ contract ∈ schema.services,
      serviceIfAsked contract.annotations
          (contract.toService (context.withTypes all aliases).types) =
        serviceIfAsked contract.annotations (contract.toService context.types)) :
    generate (context.withTypes all aliases) (schema.withTypes all own) =
      generate context schema := by
  have services : (context.withTypes all aliases).services schema.services own =
      context.services schema.services schema.composites :=
    SchemaContext.services_of_standsFor stand served
  have found : Validation.findings (context.withTypes all aliases) (schema.withTypes all own) =
      Validation.findings context schema := by
    have options : (context.withTypes all aliases).options = context.options := rfl
    have messages : Validation.compositeFindings (context.withTypes all aliases) [] own =
        Validation.compositeFindings context [] schema.composites :=
      Validation.compositeFindings_of_standsFor options stand []
    change (Validation.compositeFindings (context.withTypes all aliases) [] own >>= fun _ =>
      Validation.enumsFindings [] schema.enums >>= fun _ =>
        (context.withTypes all aliases).services schema.services own >>= fun _ => _) = _
    rw [messages, services]
    rfl
  have written : write (context.withTypes all aliases) (schema.withTypes all own) =
      write context schema := by
    have chosen : writtenServices (context.withTypes all aliases) (schema.withTypes all own) =
        writtenServices context schema := by
      change (if context.options.writesServices then
        (context.withTypes all aliases).services schema.services own else _) = _
      rw [services]
      rfl
    apply Related.eq
    apply Related.bind (SchemaContext.messagePlans_of_standsFor stand)
    intro plans others same
    rw [chosen]
    apply related_of_eq
    have heads : ∀ services,
        header (context.withTypes all aliases) (schema.withTypes all own) others services =
          header context schema plans services :=
      fun services => header_withTypes services (declaredPackage_of_standsFor stand) same
    have bodies : ∀ services,
        blocks (context.withTypes all aliases) (schema.withTypes all own) others services =
          blocks context schema plans services :=
      fun services => blocks_withTypes services same
    simp only [heads, bodies]
  rw [generate, generate, Validation.check, Validation.check, found, written]

end ProtoText

end WireSchema
