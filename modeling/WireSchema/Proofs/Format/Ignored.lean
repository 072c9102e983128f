import WireSchema.Format.Emitter
import WireSchema.Proofs.ProtoText.Parts
import WireSchema.Stub.Data

namespace WireSchema

/-!
# What ignored declarations leave behind

A declaration that annotations leave out makes no message, no template and no enumeration.  The
tests stand in front of each of these, so the outputs of a unit are those of the unit without the
declarations that are left out.  Two ways lead around the tests: a declaration that is also
annotated as a service is one, and a template that a message is an alias of is defined for it.
-/

open Asked

/-! ## Steps that make nothing -/

namespace Asked

variable {α β γ : Type}

/-- What a step makes for each item, one after the other.  Items for which it
makes nothing can be dropped without changing the result, which is how ignored
declarations go. -/
def flatMapM (step : α → Asked (List β)) (items : List α) : Asked (List β) := do
  return (← items.mapM step).flatten

theorem flatMapM_cons (step : α → Asked (List β)) (item : α) (items : List α) :
    flatMapM step (item :: items) =
      step item >>= fun own => flatMapM step items >>= fun others => .ok (own ++ others) := by
  simp only [flatMapM, List.mapM_cons, bind_assoc, pure_eq_ok, ok_bind, List.flatten_cons]

/-- Items of which a step makes nothing may be left out. -/
theorem flatMapM_filter {step : α → Asked (List β)} {keep : α → Bool} {items : List α}
    (silent : ∀ item ∈ items, keep item = false → step item = .ok []) :
    flatMapM step (items.filter keep) = flatMapM step items := by
  induction items with
  | nil => rfl
  | cons item items ih =>
      have others := ih fun later member => silent later (List.mem_cons_of_mem item member)
      cases kept : keep item with
      | true => rw [List.filter_cons_of_pos kept, flatMapM_cons, flatMapM_cons, others]
      | false =>
          rw [List.filter_cons_of_neg (by simp [kept]), flatMapM_cons,
            silent item List.mem_cons_self kept, ok_bind, others]
          exact (bind_pure _).symm

/-- Results that are kept after a step has been taken for each item. -/
theorem flatMapM_singleton (step : α → Asked β) (kept : β → Bool) (items : List α) :
    flatMapM (fun item => step item >>= fun result => .ok ([result].filter kept)) items =
      items.mapM step >>= fun results => .ok (results.filter kept) := by
  induction items with
  | nil => rfl
  | cons item items ih =>
      rw [flatMapM_cons, ih, List.mapM_cons]
      simp only [bind_assoc, ok_bind, pure_eq_ok]
      refine bind_congr fun first => bind_congr fun others => ?_
      rw [← List.filter_append, List.singleton_append]

/-- Items that fall out of a selection may be left out before. -/
theorem keepWhere_filter {test : α → Asked Bool} {keep : α → Bool} {items : List α}
    (refused : ∀ item ∈ items, keep item = false → test item = .ok false) :
    keepWhere test (items.filter keep) = keepWhere test items := by
  induction items with
  | nil => rfl
  | cons item items ih =>
      have others := ih fun later member => refused later (List.mem_cons_of_mem item member)
      cases kept : keep item with
      | true => rw [List.filter_cons_of_pos kept, keepWhere, keepWhere, others]
      | false =>
          rw [List.filter_cons_of_neg (by simp [kept]), keepWhere,
            refused item List.mem_cons_self kept, ok_bind, others]
          exact (bind_pure _).symm

end Asked

/-! ## Ignored declarations -/

/-- Whether annotations leave a declaration out; not when that cannot be asked,
in which case no output is written at all. -/
def isIgnored (annotations : List Annotation) : Bool :=
  (isSkipped annotations).toOption.getD false

theorem isSkipped_of_isIgnored {annotations : List Annotation}
    (ignored : isIgnored annotations = true) : isSkipped annotations = .ok true := by
  unfold isIgnored at ignored
  cases asked : isSkipped annotations with
  | error fault =>
      rw [asked] at ignored
      cases ignored
  | ok skipped =>
      rw [asked] at ignored
      exact congrArg Except.ok ignored

/-- A unit without the declarations that annotations leave out.  The model of the
unit keeps them: types may still be looked up there. -/
def SchemaUnit.withoutIgnored (schema : SchemaUnit) : SchemaUnit :=
  { schema with
    composites := schema.composites.filter fun composite => !isIgnored composite.annotations
    enums := schema.enums.filter fun enum => !isIgnored enum.annotations
    services := schema.services.filter fun contract => !isIgnored contract.annotations }

/-- A unit of which no contract and no composite type that is left out is asked
to be a service.  Services are collected without a look at what is left out, so
that such a declaration is written nevertheless. -/
structure SchemaUnit.IgnoresNoService (schema : SchemaUnit) : Prop where
  contracts : ∀ contract ∈ schema.services, isIgnored contract.annotations = true →
    isService contract.annotations = .ok false
  composites : ∀ composite ∈ schema.composites, isIgnored composite.annotations = true →
    isService composite.annotations = .ok false

/-- A unit of which no message is an alias of a template that is left out.  The
further formats define the template of every alias, and would define such a one
with the others. -/
def SchemaUnit.IgnoresNoTarget (schema : SchemaUnit) (model : Model) : Prop :=
  ∀ composite ∈ schema.composites, composite.isAlias.isTruthy = true →
    ∀ template, model.composite? composite.aliasTarget = some template →
      isIgnored template.annotations = false

namespace Composite

variable {composite : Composite}

theorem isMessage_of_isIgnored (ignored : isIgnored composite.annotations = true) :
    composite.isMessage = .ok false := by
  rw [isMessage, isSkipped_of_isIgnored ignored]
  cases composite.isGeneric <;> rfl

theorem isOpenTemplate_of_isIgnored (ignored : isIgnored composite.annotations = true) :
    composite.isOpenTemplate = .ok false := by
  rw [isOpenTemplate, isSkipped_of_isIgnored ignored]
  cases composite.isGeneric <;> rfl

theorem isIgnored_of_isOpenTemplate (opened : composite.isOpenTemplate = .ok true) :
    isIgnored composite.annotations = false := by
  by_contra ignored
  rw [isOpenTemplate_of_isIgnored (Bool.not_eq_false _ ▸ ignored)] at opened
  cases opened

end Composite

theorem EnumType.isWritten_of_isIgnored {enum : EnumType}
    (ignored : isIgnored enum.annotations = true) : enum.isWritten = .ok false := by
  rw [isWritten, isSkipped_of_isIgnored ignored]
  rfl

/-! ## Declarations of a unit -/

section Unit

variable {context : SchemaContext} {schema : SchemaUnit}

/-- An item falls out of a filter by ignored annotations exactly when it is ignored. -/
theorem ignored_of_not {annotations : List Annotation}
    (dropped : (!isIgnored annotations) = false) :
    isIgnored annotations = true := by
  simpa using dropped

theorem plansIfMessage_of_isIgnored {composite : Composite}
    (ignored : isIgnored composite.annotations = true) :
    context.plansIfMessage composite = .ok [] := by
  rw [SchemaContext.plansIfMessage, Composite.isMessage_of_isIgnored ignored]
  rfl

theorem messagePlans_withoutIgnored :
    context.messagePlans schema.withoutIgnored.composites =
      context.messagePlans schema.composites :=
  flatMapM_filter fun _ _ dropped => plansIfMessage_of_isIgnored (ignored_of_not dropped)

theorem writtenEnums_withoutIgnored :
    writtenEnums schema.withoutIgnored.enums = writtenEnums schema.enums :=
  keepWhere_filter fun _ _ dropped => EnumType.isWritten_of_isIgnored (ignored_of_not dropped)

theorem openTemplates_withoutIgnored :
    keepWhere Composite.isOpenTemplate schema.withoutIgnored.composites =
      keepWhere Composite.isOpenTemplate schema.composites :=
  keepWhere_filter fun _ _ dropped => Composite.isOpenTemplate_of_isIgnored (ignored_of_not dropped)

theorem serviceIfAsked_of_isService {annotations : List Annotation} {service : Asked Service}
    (other : isService annotations = .ok false) : serviceIfAsked annotations service = .ok [] := by
  rw [serviceIfAsked, other]
  rfl

/-- Services of contracts and of composite types one after the other. -/
theorem services_eq (context : SchemaContext) (contracts : List ServiceContract)
    (composites : List Composite) :
    context.services contracts composites =
      flatMapM (fun contract => serviceIfAsked contract.annotations
          (contract.toService context.types)) contracts >>= fun ofContracts =>
        flatMapM (fun composite => serviceIfAsked composite.annotations
          (composite.toService context.model context.types)) composites >>= fun ofComposites =>
          .ok (ofContracts ++ ofComposites) := by
  simp only [SchemaContext.services, flatMapM, bind_assoc, pure_eq_ok, ok_bind]

theorem services_withoutIgnored (services : schema.IgnoresNoService) :
    context.services schema.withoutIgnored.services schema.withoutIgnored.composites =
      context.services schema.services schema.composites := by
  rw [services_eq, services_eq, SchemaUnit.withoutIgnored,
    flatMapM_filter fun contract member dropped =>
      serviceIfAsked_of_isService (services.contracts contract member (ignored_of_not dropped)),
    flatMapM_filter fun composite member dropped =>
      serviceIfAsked_of_isService (services.composites composite member (ignored_of_not dropped))]

theorem writtenServices_withoutIgnored
    (services : context.options.writesServices = true → schema.IgnoresNoService) :
    ProtoText.writtenServices context schema.withoutIgnored =
      ProtoText.writtenServices context schema := by
  unfold ProtoText.writtenServices
  split
  · rename_i written
    exact services_withoutIgnored (services written)
  · rfl

end Unit

/-! ## The schema text -/

namespace ProtoText

variable {context : SchemaContext} {schema : SchemaUnit}

/-- The block of an enumeration; none when it is left out. -/
def enumBlockIfWritten (enum : EnumType) : Asked (List String) := do
  return [← writtenEnumBlock enum].filter (· != "")

theorem enumBlockIfWritten_of_isIgnored {enum : EnumType}
    (ignored : isIgnored enum.annotations = true) : enumBlockIfWritten enum = .ok [] := by
  rw [enumBlockIfWritten, writtenEnumBlock, EnumType.isWritten_of_isIgnored ignored]
  rfl

theorem blocksOf_eq_bind (context : SchemaContext) (schema : SchemaUnit) :
    blocksOf context schema =
      context.messagePlans schema.composites >>= fun plans =>
      writtenServices context schema >>= fun services =>
      plans.mapM (messageBlock context.options) >>= fun messages =>
      flatMapM enumBlockIfWritten schema.enums >>= fun enums =>
        .ok { messages, enums, services := services.map serviceBlock } := by
  have enums := flatMapM_singleton writtenEnumBlock (· != "") schema.enums
  rw [blocksOf]
  refine bind_congr fun plans => bind_congr fun services => bind_congr fun messages => ?_
  rw [show enumBlockIfWritten = fun enum => writtenEnumBlock enum >>= fun block =>
    .ok ([block].filter (· != "")) from rfl, enums, bind_assoc]
  rfl

/-- The blocks of a unit are those of the unit without ignored declarations. -/
theorem blocksOf_withoutIgnored
    (services : context.options.writesServices = true → schema.IgnoresNoService) :
    blocksOf context schema.withoutIgnored = blocksOf context schema := by
  have enums : flatMapM enumBlockIfWritten schema.withoutIgnored.enums =
      flatMapM enumBlockIfWritten schema.enums :=
    flatMapM_filter fun _ _ dropped => enumBlockIfWritten_of_isIgnored (ignored_of_not dropped)
  rw [blocksOf_eq_bind, blocksOf_eq_bind, messagePlans_withoutIgnored,
    writtenServices_withoutIgnored services, enums]

end ProtoText

/-! ## Further formats -/

def FurtherFormat.render (format : FurtherFormat) (context : SchemaContext) (view : SchemaView) :
    Asked String := do
  match format with
  | jsonSchema =>
      let entries ← JsonSchema.entries view
      return (← Json.indented 0 (JsonSchema.document view.title entries)) ++ "\n"
  | markdown =>
      let lines ← Markdown.documentLines view
      return Text.endedOnce (String.intercalate "\n" (← lines.mapM (·.admitText)))
  | typeScript =>
      let enums ← view.enums.mapM TypeScript.enumText
      let templates ← view.templates.mapM (TypeScript.templateText view)
      let messages ← view.plans.mapM (TypeScript.messageText context)
      return Text.endedOnce (TypeScript.headText ++ String.join (enums ++ templates ++ messages))

theorem FurtherFormat.emit_eq (format : FurtherFormat) (context : SchemaContext)
    (schema : SchemaUnit) :
    format.emit context schema = SchemaView.of context schema >>= format.render context := by
  cases format <;> rfl

namespace SchemaView

variable {context : SchemaContext} {schema : SchemaUnit}

/-- The view of a unit without ignored declarations is that of the unit, but for the package. -/
theorem exists_withoutIgnored
    (services : context.options.writesServices = true → schema.IgnoresNoService)
    {view : SchemaView} (viewed : SchemaView.of context schema = .ok view) :
    ∃ package, SchemaView.of context schema.withoutIgnored = .ok { view with package } := by
  rcases bind_eq_ok_iff.mp viewed with ⟨own, named, rest⟩
  rcases bind_eq_ok_iff.mp rest with ⟨plans, planned, rest⟩
  rcases bind_eq_ok_iff.mp rest with ⟨templates, opened, rest⟩
  rcases bind_eq_ok_iff.mp rest with ⟨enums, kept, rest⟩
  rcases bind_eq_ok_iff.mp rest with ⟨written, resolved, final⟩
  cases final
  have package : ∃ package, ProtoText.packageName context.options schema.withoutIgnored =
      .ok package := by
    unfold ProtoText.packageName at named ⊢
    split at named
    · rename_i given
      exact ⟨_, if_pos given⟩
    · rename_i lacking
      rcases bind_eq_ok_iff.mp named with ⟨stated, asked, -⟩
      have same : firstString? ["package"] "name" schema.withoutIgnored.model.levelAnnotations =
          .ok stated := asked
      rw [if_neg lacking, same]
      cases stated with
      | none => exact ⟨_, rfl⟩
      | some name => exact ⟨_, rfl⟩
  rcases package with ⟨package, renamed⟩
  refine ⟨package, ?_⟩
  rw [SchemaView.of, renamed, ok_bind, messagePlans_withoutIgnored, planned, ok_bind,
    openTemplates_withoutIgnored, opened, ok_bind, writtenEnums_withoutIgnored, kept, ok_bind,
    writtenServices_withoutIgnored services, resolved, ok_bind, pure_eq_ok]

/-- A template that is defined for messages is the target of one. -/
theorem exists_plan_of_mem_foreignTemplates {view : SchemaView} {template : Composite}
    (member : template ∈ view.foreignTemplates) :
    ∃ plan ∈ view.plans, view.planTemplate? plan = some template := by
  have fold : ∀ targets known : List Composite, template ∈ targets.foldl
      (fun found template =>
        if view.templates.contains template || found.contains template then found
        else found ++ [template]) known → template ∈ known ∨ template ∈ targets := by
    intro targets
    induction targets with
    | nil => exact fun known inside => Or.inl inside
    | cons target targets ih =>
        intro known inside
        rcases ih _ inside with before | later
        · beta_reduce at before
          split at before
          · exact Or.inl before
          · rcases List.mem_append.mp before with old | new
            · exact Or.inl old
            · exact Or.inr (List.mem_singleton.mp new ▸ List.mem_cons_self)
        · exact Or.inr (List.mem_cons_of_mem target later)
  exact List.mem_filterMap.mp ((fold _ [] member).resolve_left List.not_mem_nil)

/-- No template of a view is left out when none is that a message is an alias of. -/
theorem isIgnored_of_mem_templates {view : SchemaView}
    (targets : schema.IgnoresNoTarget context.model)
    (viewed : SchemaView.of context schema = .ok view) :
    ∀ template ∈ view.templates ++ view.foreignTemplates,
      isIgnored template.annotations = false := by
  rcases bind_eq_ok_iff.mp viewed with ⟨package, -, rest⟩
  rcases bind_eq_ok_iff.mp rest with ⟨plans, planned, rest⟩
  rcases bind_eq_ok_iff.mp rest with ⟨templates, opened, rest⟩
  rcases bind_eq_ok_iff.mp rest with ⟨enums, -, rest⟩
  rcases bind_eq_ok_iff.mp rest with ⟨written, -, final⟩
  cases final
  intro template member
  rcases List.mem_append.mp member with own | foreign
  · exact Composite.isIgnored_of_isOpenTemplate (isTrue_of_mem_keepWhere opened own)
  · rcases exists_plan_of_mem_foreignTemplates foreign with ⟨plan, inPlans, target⟩
    rcases SchemaContext.exists_of_mem_messagePlans planned inPlans with
      ⟨composite, declared, -, -, message, -, made⟩
    rw [planTemplate?, SchemaContext.composite_of_plan made] at target
    split at target
    · rename_i isAlias
      exact targets composite declared isAlias template target
    · cases target

end SchemaView

/-! ## Stub data -/

namespace Stub

/-- The types of a unit that have conversions of their own.  For the unit of a
whole model they are those of the model. -/
def ConvertedTypes.ofUnit (schema : SchemaUnit) : Asked ConvertedTypes := do
  let messages ← flatMapM messageNamesOf schema.composites
  let enums ← flatMapM enumNamesOf schema.enums
  return { enums := setKeys enums, messages }

/-- The stub data of the declarations of a unit. -/
def StubData.ofUnit (context : SchemaContext) (schema : SchemaUnit) (stubs : StubOptions)
    (commandLine : String) : Asked StubData := do
  let converted ← ConvertedTypes.ofUnit schema
  let types ← flatMapM (messageInfos context converted) schema.composites
  let enums ← (← writtenEnums schema.enums).mapM enumInfo
  let written ← ProtoText.writtenServices context schema
  let services ← written.mapM (serviceInfo converted stubs.streamingSupport.isTruthy)
  let maps := mapsOf types
  return { modulePath := stubs.modulePath
           protobufPackage := stubs.protobufPackage
           protobufAlias := stubs.protobufAlias
           grpcPackage := stubs.grpcPackage
           grpcAlias := stubs.grpcAlias
           commandLine, enums, services, maps
           types := types.map (·.sharing maps)
           streamingSupport := stubs.streamingSupport
           usesEmpty := services.any fun service => service.methods.any (·.usesEmpty) }

/-- The stub data of a model is that of all its declarations. -/
theorem StubData.of_eq_ofUnit (context : SchemaContext) (stubs : StubOptions)
    (commandLine : String) :
    StubData.of context stubs commandLine =
      StubData.ofUnit context context.model.wholeUnit stubs commandLine := by
  simp only [StubData.of, StubData.ofUnit, ConvertedTypes.of, ConvertedTypes.ofUnit, flatMapM,
    bind_assoc, pure_eq_ok, ok_bind]
  rfl

variable {schema : SchemaUnit} {context : SchemaContext}

theorem ConvertedTypes.ofUnit_withoutIgnored :
    ConvertedTypes.ofUnit schema.withoutIgnored = ConvertedTypes.ofUnit schema := by
  have messages : flatMapM messageNamesOf schema.withoutIgnored.composites =
      flatMapM messageNamesOf schema.composites := by
    refine flatMapM_filter fun composite _ dropped => ?_
    rw [messageNamesOf, Composite.isMessage_of_isIgnored (ignored_of_not dropped)]
    rfl
  have enums : flatMapM enumNamesOf schema.withoutIgnored.enums =
      flatMapM enumNamesOf schema.enums := by
    refine flatMapM_filter fun enum _ dropped => ?_
    rw [enumNamesOf, EnumType.isWritten_of_isIgnored (ignored_of_not dropped)]
    rfl
  rw [ConvertedTypes.ofUnit, ConvertedTypes.ofUnit, messages, enums]

/-- The stub data of a unit is that of the unit without ignored declarations. -/
theorem StubData.ofUnit_withoutIgnored (stubs : StubOptions) (commandLine : String)
    (services : context.options.writesServices = true → schema.IgnoresNoService) :
    StubData.ofUnit context schema.withoutIgnored stubs commandLine =
      StubData.ofUnit context schema stubs commandLine := by
  have types : ∀ converted, flatMapM (messageInfos context converted)
      schema.withoutIgnored.composites =
        flatMapM (messageInfos context converted) schema.composites := by
    refine fun converted => flatMapM_filter fun composite _ dropped => ?_
    rw [messageInfos, plansIfMessage_of_isIgnored (ignored_of_not dropped)]
    rfl
  simp only [StubData.ofUnit, ConvertedTypes.ofUnit_withoutIgnored, types,
    writtenEnums_withoutIgnored, writtenServices_withoutIgnored services]

end Stub

/-! ## All outputs -/

/-- Where no declaration that is left out is asked to be a service or to be the template of a
message, every output of a unit declares what the unit declares without them: the schema text in its
blocks, each further format but for the package, and the stub modules of a model in their data. -/
theorem outputs_withoutIgnored (context : SchemaContext) (schema : SchemaUnit)
    (services : context.options.writesServices = true → schema.IgnoresNoService)
    (targets : schema.IgnoresNoTarget context.model) :
    (∀ text, ProtoText.generate context schema = .ok text →
      ∃ blocks, ProtoText.IsFileOf context schema blocks text ∧
        ProtoText.blocksOf context schema.withoutIgnored = .ok blocks) ∧
    (∀ (format : FurtherFormat) (text : String), format.emit context schema = .ok text →
      ∃ view package, SchemaView.of context schema.withoutIgnored = .ok { view with package } ∧
        format.render context view = .ok text ∧
        ∀ template ∈ view.templates ++ view.foreignTemplates,
          isIgnored template.annotations = false) ∧
    (schema = context.model.wholeUnit → ∀ stubs commandLine,
      Stub.StubData.of context stubs commandLine =
        Stub.StubData.ofUnit context schema.withoutIgnored stubs commandLine) := by
  refine ⟨fun text generated => ?_, fun format text written => ?_, ?_⟩
  · rcases ProtoText.exists_isFileOf (ProtoText.write_of_generate generated) with ⟨blocks, isFile⟩
    exact ⟨blocks, isFile, (ProtoText.blocksOf_withoutIgnored services).trans isFile.declared⟩
  · rw [FurtherFormat.emit_eq] at written
    rcases bind_eq_ok_iff.mp written with ⟨view, viewed, rendered⟩
    rcases SchemaView.exists_withoutIgnored services viewed with ⟨package, without⟩
    exact ⟨view, package, without, rendered, SchemaView.isIgnored_of_mem_templates targets viewed⟩
  · rintro rfl stubs commandLine
    rw [Stub.StubData.of_eq_ofUnit, Stub.StubData.ofUnit_withoutIgnored stubs commandLine services]

/-- An annotation that leaves a declaration out. -/
def ignoreNote : Annotation := { name := .text "ignore" }

/-- A message, and declarations of each kind that are left out. -/
def ledgerModel : Model :=
  { composites :=
      [{ name := .text "Account", fields := [{ name := .text "Id", type := .named "int64" "" }] },
       { name := .text "Draft", annotations := [ignoreNote]
         fields := [{ name := .text "Note", type := .named "string" "" }] },
       { name := .text "Page", typeParams := [.text "T"], annotations := [ignoreNote]
         fields := [{ name := .text "Items", type := .sequence (.named "T" "") }] }]
    enums :=
      [{ name := .text "Stage", annotations := [ignoreNote]
         values := [{ name := .text "Open", index := .int 0 }] }]
    services := [{ name := .text "Audit", annotations := [ignoreNote] }] }

def ledgerContext : SchemaContext := .of ledgerModel {}

private theorem ignoresNoService_ledgerModel : ledgerModel.wholeUnit.IgnoresNoService where
  contracts := by
    intro contract member _
    cases List.mem_singleton.mp member
    rfl
  composites := by
    have each : ledgerModel.composites.map (fun composite => isService composite.annotations) =
        [.ok false, .ok false, .ok false] := by
      rfl
    intro composite member _
    have inMap : isService composite.annotations ∈
        ledgerModel.composites.map (fun composite => isService composite.annotations) :=
      List.mem_map_of_mem member
    rw [each] at inMap
    simpa using inMap

private theorem ignoresNoTarget_ledgerModel :
    ledgerModel.wholeUnit.IgnoresNoTarget ledgerModel := by
  intro composite member isAlias
  have each : ledgerModel.composites.all (fun composite => !composite.isAlias.isTruthy) = true := by
    decide +kernel
  have plain := List.all_eq_true.mp each composite member
  rw [isAlias] at plain
  cases plain

theorem outputs_withoutIgnored_ledgerModel :
    ∃ text blocks, ledgerModel.wholeUnit.IgnoresNoService ∧
      ledgerModel.wholeUnit.IgnoresNoTarget ledgerModel ∧
      ProtoText.generate ledgerContext ledgerModel.wholeUnit = .ok text ∧
      ProtoText.blocksOf ledgerContext ledgerModel.wholeUnit.withoutIgnored = .ok blocks ∧
      blocks.all = ["message Account \x7b\n  int64 id = 1;\n\x7d\n\n"] := by
  have generated : (ProtoText.generate ledgerContext ledgerModel.wholeUnit).toOption.isSome =
      true := by
    decide +kernel
  rcases exists_of_isSome_toOption generated with ⟨text, written⟩
  have outputs := outputs_withoutIgnored ledgerContext ledgerModel.wholeUnit
    (fun _ => ignoresNoService_ledgerModel) ignoresNoTarget_ledgerModel
  rcases outputs.1 text written with ⟨blocks, -, declared⟩
  have shown : (ProtoText.blocksOf ledgerContext ledgerModel.wholeUnit.withoutIgnored).toOption.map
      ProtoText.Blocks.all = some ["message Account \x7b\n  int64 id = 1;\n\x7d\n\n"] := by
    decide +kernel
  rcases exists_of_toOption_map shown with ⟨others, again, all⟩
  cases declared.symm.trans again
  exact ⟨text, blocks, ignoresNoService_ledgerModel, ignoresNoTarget_ledgerModel, written, declared,
    all⟩

/-- A contract and a template that are left out, the one asked to be a service, the other the
template of a message. -/
def leakModel : Model :=
  { composites :=
      [{ name := .text "Page", typeParams := [.text "T"], annotations := [ignoreNote]
         fields := [{ name := .text "Items", type := .sequence (.named "T" "") }] },
       { name := .text "User", fields := [{ name := .text "Id", type := .named "int64" "" }] },
       { name := .text "UserPage", isAlias := .bool true, aliasTarget := .text "Page"
         aliasArgs := [.named "User" ""] }]
    services :=
      [{ name := .text "Admin", annotations := [{ name := .text "service" }, ignoreNote]
         methods := [{ name := .text "Lock", params := [{ type := .named "User" "" }] }] }] }

def leakContext : SchemaContext := .of leakModel {}

/-- The contract is written as a service, and the template is defined in the document. -/
theorem outputs_withoutIgnored_leakModel :
    (∃ blocks, ProtoText.blocksOf leakContext leakModel.wholeUnit = .ok blocks ∧
      blocks.services =
        ["service Admin \x7b\n  rpc Lock(User) returns (google.protobuf.Empty);\n\x7d\n\n"]) ∧
    (∃ view entries, SchemaView.of leakContext leakModel.wholeUnit = .ok view ∧
      JsonSchema.entries view = .ok entries ∧
      entries.map (·.name.display) = ["Page", "User", "UserPage"]) ∧
    leakModel.wholeUnit.withoutIgnored.services.map (·.name.display) = [] ∧
    leakModel.wholeUnit.withoutIgnored.composites.map (·.name.display) = ["User", "UserPage"] := by
  have blocks : (ProtoText.blocksOf leakContext leakModel.wholeUnit).toOption.map (·.services) =
      some ["service Admin \x7b\n  rpc Lock(User) returns (google.protobuf.Empty);\n\x7d\n\n"] := by
    decide +kernel
  have defined : (SchemaView.of leakContext leakModel.wholeUnit).toOption.map (fun view =>
      (JsonSchema.entries view).toOption.map fun entries => entries.map (·.name.display)) =
        some (some ["Page", "User", "UserPage"]) := by
    decide +kernel
  rcases exists_of_toOption_map blocks with ⟨own, declared, services⟩
  rcases exists_of_toOption_map defined with ⟨view, viewed, rest⟩
  rcases exists_of_toOption_map rest with ⟨entries, found, names⟩
  exact ⟨⟨own, declared, services⟩, ⟨view, entries, viewed, found, names⟩, by decide +kernel,
    by decide +kernel⟩

end WireSchema
