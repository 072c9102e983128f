import WireSchema.Proofs.Document.Pointwise
import WireSchema.Proofs.ProtoText.Replacement
import WireSchema.Proofs.Schema.Retirement
import WireSchema.Proofs.Schema.Substitution

namespace WireSchema

/-!
# Aliases are written out

An alias of a generic template stands for an ordinary composite type: the one with its name, its
annotations and its documentation that declares the fields of the template with the arguments in the
places of the parameters.  Everything that a schema says of an alias is said of these fields, so the
one may take the place of the other.  There are only two ways to tell them apart.  An alias may
itself be the target of another alias, and it is the name of the instantiation that it stands for
wherever a type that is mapped mentions this instantiation.
-/

open Asked

/-- The ordinary composite type with the head of an alias and fields of its own.
It has no type parameters, no target and no arguments any more, and keeps the
annotations of the alias. -/
def Composite.writtenOut (aliased : Composite) (fields : List DeclaredField) : Composite where
  name := aliased.name
  package := aliased.package
  namespaceName := aliased.namespaceName
  sourceFile := aliased.sourceFile
  fields := fields
  annotations := aliased.annotations
  doc := aliased.doc

/-- A composite type that differs from another one at most in its fields and in what makes it a
template or an alias. -/
def Composite.SameHead (before after : Composite) : Prop :=
  after = { before with
    fields := after.fields
    typeParams := after.typeParams
    isAlias := after.isAlias
    aliasTarget := after.aliasTarget
    aliasArgs := after.aliasArgs }

theorem Composite.isMessage_writtenOut {aliased : Composite}
    (candidate : aliased.isMessage = .ok true) (fields : List DeclaredField) :
    (aliased.writtenOut fields).isMessage = aliased.isMessage := by
  rw [isMessage] at candidate ⊢
  split at candidate
  · cases candidate
  · rename_i plain
    rw [isMessage, if_neg plain]
    rfl

/-! ## What a replaced type changes -/

section Replaced

variable {model : Model} {old new : Composite} {composites all : List Composite}

theorem Model.composite?_of_replaced (sameName : new.name = old.name)
    (replaced : List.Forall₂ (fun before after => after = before ∨ before = old ∧ after = new)
      model.composites all) {name : Value} (other : (old.name == name) = false) :
    { model with composites := all }.composite? name = model.composite? name := by
  have found := find?_of_forall₂ (fun composite => composite.name == name)
    (by rintro before after (rfl | ⟨rfl, rfl⟩)
        · rfl
        · rw [sameName]) replaced
  have named : ∀ before, model.composites.find? (fun composite => composite.name == name) =
      some before → (before.name == name) = true := by
    intro before first
    have named := List.find?_some first
    exact named
  change all.find? (fun composite => composite.name == name) =
    model.composites.find? (fun composite => composite.name == name)
  generalize model.composites.find? (fun composite => composite.name == name) = before?
    at found named ⊢
  generalize all.find? (fun composite => composite.name == name) = after? at found ⊢
  cases found with
  | none => rfl
  | @some before after head =>
      rcases head with rfl | ⟨rfl, rfl⟩
      · rfl
      · exact absurd (other.symm.trans (named before rfl)) Bool.false_ne_true

/-- A composite type that is no alias of the replaced one keeps its fields. -/
theorem Model.resolvedFields_of_replaced (sameName : new.name = old.name)
    (replaced : List.Forall₂ (fun before after => after = before ∨ before = old ∧ after = new)
      model.composites all) {composite : Composite}
    (others : ∀ name, composite.target? = some name → (old.name == name) = false) :
    { model with composites := all }.resolvedFields composite = model.resolvedFields composite := by
  have binding : { model with composites := all }.aliasBinding? composite =
      model.aliasBinding? composite := by
    rw [aliasBinding?, aliasBinding?]
    cases target : composite.target? with
    | none => rfl
    | some name => simp only [composite?_of_replaced sameName replaced (others name target)]
  rw [resolvedFields, resolvedFields, binding]

theorem lookupKey?_cons_of_ne {key other : String} (value : Value) (pairs : List (String × Value))
    (different : other ≠ key) :
      lookupKey? key ((other, value) :: pairs) = lookupKey? key pairs := by
  have passed : ((other, value).1 == key) = false := beq_eq_false_iff_ne.mpr different
  rw [lookupKey?, lookupKey?, List.find?_cons, passed]

/-- Without one alias only the instantiation that it stood for is looked up in vain. -/
theorem TypeTable.lookupKey?_aliasesOf_of_replaced {target : Value}
    (isAlias : old.target? = some target) (ordinary : new.target? = none)
    (replaced : List.Forall₂ (fun before after => after = before ∨ before = old ∧ after = new)
      composites all) {text : String} (other : (old.instantiation target).print ≠ text) :
    lookupKey? text (aliasesOf all) = lookupKey? text (aliasesOf composites) := by
  induction replaced with
  | nil => rfl
  | @cons before after composites all head _ ih =>
      rcases head with rfl | ⟨rfl, rfl⟩
      · rw [aliasesOf, aliasesOf, List.filterMap_cons, List.filterMap_cons]
        cases after.target?.map fun target => ((after.instantiation target).print, after.name) with
        | none => exact ih
        | some entry =>
            change (List.find? _ (entry :: aliasesOf all)).map _ =
              (List.find? _ (entry :: aliasesOf composites)).map _
            rw [List.find?_cons, List.find?_cons]
            split
            · rfl
            · exact ih
      · rw [aliasesOf, aliasesOf, List.filterMap_cons, List.filterMap_cons, isAlias, ordinary]
        exact ih.trans (lookupKey?_cons_of_ne before.name (aliasesOf composites) other).symm

end Replaced

/-! ## The composite types of a unit -/

namespace Composite

variable {context : SchemaContext} {schema : SchemaUnit} {all : List Composite}
  {aliases : List (String × Value)} {before after : Composite}

theorem resolveFields_of_sameHead (head : before.SameHead after) (context : SchemaContext)
    (message : Value) (next : Int) (fields : List DeclaredField) :
    context.resolveFields after message next fields =
      context.resolveFields before message next fields := by
  induction fields generalizing next with
  | nil => rfl
  | cons field fields ih =>
      have own : context.resolveField after message next field =
          context.resolveField before message next field := by
        rw [head]
        rfl
      simp only [SchemaContext.resolveFields, own, ih]

theorem related_plan_of_sameHead (head : before.SameHead after)
    (resolved : (context.withTypes all aliases).model.resolvedFields after =
      context.model.resolvedFields before) {message : Value}
    (agrees : ∀ fields, context.model.resolvedFields before = .ok fields → ∀ field ∈ fields,
      ∀ type, field.MapsIn context before message type → context.types.AgreesOn aliases type) :
    Related MessagePlan.SameContent (context.plan before message)
      ((context.withTypes all aliases).plan after message) := by
  have statements : after.statements message = before.statements message := by
    rw [head]
    rfl
  apply Related.bind (related_of_eq statements)
  rintro ⟨numbers, names, description⟩ _ rfl
  rw [resolved]
  cases found : context.model.resolvedFields before with
  | error fault => exact .error fault
  | ok fields =>
      have outcomes : (context.withTypes all aliases).resolveFields after message
          (context.withTypes all aliases).options.startNumber fields =
            context.resolveFields before message context.options.startNumber fields := by
        rw [resolveFields_of_sameHead head]
        exact ((context.withAliases aliases).resolveFields_withComposites all before before.fields
          message _ fields).trans
            (SchemaContext.resolveFields_withAliases (agrees fields found))
      apply Related.bind (related_of_eq outcomes)
      rintro planned _ rfl
      exact .ok ⟨after, rfl⟩

theorem serviceIfAsked_of_sameHead (head : before.SameHead after)
    (agrees : isService before.annotations = .ok true →
      ∀ methods, context.model.receiverMethods before = .ok methods → ∀ method ∈ methods,
        ∀ type, method.Maps type → context.types.AgreesOn aliases type) :
    serviceIfAsked after.annotations
        (after.toService (context.withTypes all aliases).model
          (context.withTypes all aliases).types) =
      serviceIfAsked before.annotations (before.toService context.model context.types) := by
  have annotations : after.annotations = before.annotations := by rw [head]
  have methods : (context.withTypes all aliases).model.receiverMethods after =
      context.model.receiverMethods before := by
    rw [head]
    rfl
  have name : after.name = before.name := by rw [head]
  have doc : after.doc = before.doc := by rw [head]
  rw [annotations]
  apply serviceIfAsked_eq
  intro served
  rw [toService, toService, methods, annotations, name, doc]
  cases found : context.model.receiverMethods before with
  | error fault => rw [error_bind, error_bind]
  | ok methods => exact serviceOf_withAliases (agrees served methods found) _ _ _ _

/-- Among the composite types of a unit one may be replaced by another one of the same head that is
a message in the same cases and has the same resolved fields. -/
theorem standsFor_of_sameHead (head : before.SameHead after)
    (isMessage : after.isMessage = before.isMessage)
    (resolved : (context.withTypes all aliases).model.resolvedFields after =
      context.model.resolvedFields before) (member : before ∈ schema.composites)
    (agrees : ∀ type, schema.Maps context type → context.types.AgreesOn aliases type) :
    before.StandsFor context (context.withTypes all aliases) after where
  name := by rw [head]
  package := by rw [head]
  isMessage := isMessage
  messageNames := by
    rw [head]
    rfl
  plan written names named message among :=
    related_plan_of_sameHead head resolved fun fields found field declared type maps =>
      agrees type (.field member written named among found declared maps)
  service := serviceIfAsked_of_sameHead head fun served methods found method declared type maps =>
    agrees type (.receiver member served found declared maps)

end Composite

namespace ProtoText

/-- An alias may be written out.  Take an alias that is written as messages and whose template is
declared, with parameters that arguments can be bound to, and put in its place the ordinary
composite type of its name, its annotations and its documentation that has the fields of the alias,
or those of the template when the alias has none, with the arguments for the parameters.  Then every
unit has the same file, or the same findings, unless the alias is itself the target of an alias of
the unit, or an instantiation that is looked up is written like the one that the alias stands
for. -/
theorem generate_writtenOut (schema : SchemaUnit) (options : Options)
    {aliased template : Composite} {target : Value} {fields : List DeclaredField}
    {changed : Model} {own : List Composite}
    (candidate : aliased.isMessage = .ok true) (isAlias : aliased.target? = some target)
    (found : schema.model.composite? target = some template)
    (binds : (Model.bindArguments template aliased).Succeeds)
    (instantiated : List.Forall₂
      (DeclaredField.Instantiates (template.typeParams.zip aliased.aliasArgs))
      (if aliased.fields.isEmpty then template.fields else aliased.fields) fields)
    (noTarget : ∀ composite ∈ schema.composites, ∀ name, composite.target? = some name →
      (aliased.name == name) = false)
    (unmentioned : ∀ expr, schema.LooksUp (.of schema.model options) expr →
      (aliased.instantiation target).print ≠ expr.print)
    (inModel : schema.model.Redeclares aliased (aliased.writtenOut fields) changed)
    (inUnit : List.Forall₂ (fun before after => after = before ∨
      before = aliased ∧ after = aliased.writtenOut fields) schema.composites own) :
    generate (.of changed options) { schema with model := changed, composites := own } =
      generate (.of schema.model options) schema := by
  rcases inModel with ⟨replaced, others⟩
  generalize changed.composites = all at replaced others
  subst others
  -- Whatever is looked up in the unit has the same alias, or none, as before.
  have agrees : ∀ type, schema.Maps (.of schema.model options) type →
      (SchemaContext.of schema.model options).types.AgreesOn (TypeTable.aliasesOf all) type :=
    fun type maps expr member => TypeTable.lookupKey?_aliasesOf_of_replaced isAlias rfl replaced
      (unmentioned expr ⟨type, maps, member⟩)
  -- So each composite type stands for the one in its place, and for the alias it is the new one.
  have stand : List.Forall₂ (Composite.StandsFor (.of schema.model options)
      ((SchemaContext.of schema.model options).withTypes all (TypeTable.aliasesOf all)))
      schema.composites own := by
    have sameName : (aliased.writtenOut fields).name = aliased.name := rfl
    have members := (List.forall₂_and_left _ _).mpr ⟨fun _ member => member, inUnit⟩
    apply members.imp
    rintro before after ⟨member, rfl | ⟨rfl, rfl⟩⟩
    · exact Composite.standsFor_of_sameHead rfl rfl
        (Model.resolvedFields_of_replaced sameName replaced (noTarget after member)) member agrees
    · have ordinary : (before.writtenOut fields).target? = none := rfl
      have resolved := (Model.resolvedFields_of_target?_eq_none
        { schema.model with composites := all } ordinary).trans
          (Model.resolvedFields_alias isAlias found binds instantiated).symm
      exact Composite.standsFor_of_sameHead rfl (before.isMessage_writtenOut candidate fields)
        resolved member agrees
  have served : ∀ contract ∈ schema.services, serviceIfAsked contract.annotations
      (contract.toService ((SchemaContext.of schema.model options).types.withAliases
        (TypeTable.aliasesOf all))) =
      serviceIfAsked contract.annotations
        (contract.toService (SchemaContext.of schema.model options).types) :=
    fun contract member => contract.serviceIfAsked_withAliases fun asked _ declared type maps =>
      agrees type (.contract member asked declared maps)
  exact generate_withTypes stand served

/-- A generic template one of whose fields mentions a further one. -/
def pageTemplate : Composite where
  name := .text "Page"
  typeParams := [.text "T"]
  fields :=
    [{ name := .text "Items", type := .sequence (.named "T" "") },
      { name := .text "Next", type := .pointer (.generic "Cursor" [.named "T" ""]) }]

/-- An alias that is written as two messages.  Each of them has the fields of the
template with the argument put in. -/
def userPage : Composite where
  name := .text "UserPage"
  isAlias := .bool true
  aliasTarget := .text "Page"
  aliasArgs := [.named "User" ""]
  annotations :=
    [{ name := .text "message", params := [("name", .text "UserPage")] },
      { name := .text "message", params := [("name", .text "Users")] }]

def pagedModel : Model :=
  { composites := [pageTemplate, userPage] }

def userPageFields : List DeclaredField :=
  [{ name := .text "Items", type := .sequence (.named "User" "") },
    { name := .text "Next", type := .pointer (.generic "Cursor" [.named "User" ""]) }]

def writtenOutModel : Model :=
  { composites := [pageTemplate, userPage.writtenOut userPageFields] }

private theorem instantiates_userPage :
    List.Forall₂ (DeclaredField.Instantiates [(.text "T", .named "User" "")]) pageTemplate.fields
      userPageFields := by
  have argument : TypeExpr.Instantiates [(.text "T", .named "User" "")] (.named "T" "")
      (.named "User" "") := .parameter ⟨[], [], rfl, List.forall_mem_nil _⟩
  exact .cons ⟨_, .sequence argument, rfl⟩
    (.cons ⟨_, .pointer (.generic (.cons argument .nil)), rfl⟩ .nil)

private theorem composite?_pagedModel :
    pagedModel.composite? (.text "Page") = some pageTemplate := by
  cbv

private theorem succeeds_bindArguments_userPage :
    (Model.bindArguments pageTemplate userPage).Succeeds :=
  ⟨[(.text "T", .named "User" "")], by cbv⟩

private theorem resolvedFields_userPage : pagedModel.resolvedFields userPage = .ok userPageFields :=
  Model.resolvedFields_alias rfl composite?_pagedModel succeeds_bindArguments_userPage
    instantiates_userPage

/-- The only instantiation that is looked up is the one that the second field mentions. -/
private theorem eq_cursor_of_looksUp {expr : TypeExpr}
    (looked : pagedModel.wholeUnit.LooksUp (.of pagedModel {}) expr) :
    expr = .generic "Cursor" [.named "User" ""] := by
  rcases looked with ⟨type, maps, member⟩
  cases maps with
  | contract among => cases among
  | receiver _ _ found declared =>
      cases found
      cases declared
  | field among written _ _ resolved declared maps =>
      rcases List.mem_pair.mp among with rfl | rfl
      · have generic : pageTemplate.isMessage = .ok false := by cbv
        cases generic.symm.trans written
      · cases resolvedFields_userPage.symm.trans resolved
        rcases List.mem_pair.mp declared with rfl | rfl
        · cases maps.eq_type (by rintro key value ⟨⟩)
          cases member
        · cases maps.eq_type (by rintro key value ⟨⟩)
          simpa [TypeTable.lookedUp, TypeTable.lookedUpAll] using member

theorem generate_writtenOut_userPage :
    userPage.isMessage = .ok true ∧ userPage.target? = some (.text "Page") ∧
      (userPage.instantiation (.text "Page")).print = "Page[User]" ∧
      ((SchemaContext.of pagedModel {}).messagePlans pagedModel.composites).toOption.map
          (·.map fun plan => (plan.name, plan.fields.map (·.type))) =
        some [(.text "UserPage", [.text "User", .text "CursorUser"]),
          (.text "Users", [.text "User", .text "CursorUser"])] ∧
      generate (.of writtenOutModel {}) writtenOutModel.wholeUnit =
        generate (.of pagedModel {}) pagedModel.wholeUnit := by
  have candidate : userPage.isMessage = .ok true := by cbv
  have noTarget : ∀ composite ∈ pagedModel.composites, ∀ name, composite.target? = some name →
      (userPage.name == name) = false := by
    intro composite member name target
    rcases List.mem_pair.mp member with rfl | rfl
    · cases target
    · cases target
      decide +kernel
  have unmentioned : ∀ expr, pagedModel.wholeUnit.LooksUp (.of pagedModel {}) expr →
      (userPage.instantiation (.text "Page")).print ≠ expr.print := by
    rintro expr looked
    rw [eq_cursor_of_looksUp looked]
    decide +kernel
  have replaced : List.Forall₂ (fun before after => after = before ∨
      before = userPage ∧ after = userPage.writtenOut userPageFields) pagedModel.composites
        writtenOutModel.composites :=
    .cons (.inl rfl) (.cons (.inr ⟨rfl, rfl⟩) .nil)
  have same := generate_writtenOut pagedModel.wholeUnit {} candidate rfl composite?_pagedModel
    succeeds_bindArguments_userPage instantiates_userPage noTarget unmentioned ⟨replaced, rfl⟩
    replaced
  exact ⟨candidate, rfl, by decide +kernel, by cbv, same⟩

end ProtoText

end WireSchema
