import WireSchema.Proofs.Failure
import WireSchema.Proofs.Schema.Documentation
import WireSchema.ProtoText.File

namespace WireSchema

/-!
# Documentation is inert

Take away all documentation of a unit whose descriptions are of one line each: the file that is
written of it changes in its comments only, and the run fails in the same cases and in the same way.
A description of several lines is another matter, since only its first line stands behind the mark
of a comment.
-/

open Asked

namespace ProtoText

/-! ## The head of a file -/

theorem levelAnnotations_undocumented (model : Model) :
    model.undocumented.levelAnnotations = undescribed model.levelAnnotations := by
  have level : ∀ level : LevelAnnotations,
      Model.inOrder level.undescribed = undescribed (Model.inOrder level) := by
    intro level
    have sorted := List.map_mergeSort (f := fun entry : String × List Annotation =>
      (entry.1, undescribed entry.2)) (l := level)
      (r := fun first second => decide (first.1 ≤ second.1))
      (s := fun first second => decide (first.1 ≤ second.1)) (fun _ _ _ _ => rfl)
    rw [Model.inOrder, Model.inOrder, LevelAnnotations.undescribed, ← sorted, undescribed,
      List.flatMap_map, List.map_flatMap]
    rfl
  rw [Model.levelAnnotations, Model.levelAnnotations, ← undescribed_append, ← level, ← level]
  rfl

variable {context : SchemaContext} {schema : SchemaUnit}

theorem packageName_undocumented (options : Options) (schema : SchemaUnit) :
    packageName options schema.undocumented = packageName options schema := by
  have declared : declaredPackage schema.undocumented.composites =
      declaredPackage schema.composites := by
    have composites : schema.undocumented.composites =
      schema.composites.map Composite.undocumented := rfl
    rw [composites]
    cases schema.composites <;> rfl
  have notes : schema.undocumented.model.levelAnnotations =
    undescribed schema.model.levelAnnotations := levelAnnotations_undocumented schema.model
  simp [packageName, notes, declared]

theorem annotationOptions_undescribed (note : Annotation) :
    annotationOptions note.undescribed = annotationOptions note := by
  have ofPackage : packageOptions note.undescribed = packageOptions note := by
    simp only [packageOptions, Annotation.undescribed, List.filterMap_filter]
    refine List.filterMap_congr fun param _ => ?_
    by_cases described : param.1 = "description"
    · have foreign : "description" ∉ packageOptionKeys := by decide
      simp [described, foreign]
    · have value := note.string_undescribed described
      unfold Annotation.undescribed at value
      simp [described, value]
  simp [annotationOptions, ofPackage, statedOption]

theorem fileOptions_undocumented (options : Options) (model : Model) :
    fileOptions options model.undocumented = fileOptions options model := by
  have each : (undescribed model.levelAnnotations).mapM annotationOptions =
      model.levelAnnotations.mapM annotationOptions := by
    refine mapM_eq_of_forall₂ (List.forall₂_map_right_iff.mpr (List.forall₂_same.mpr ?_))
    exact fun note _ => annotationOptions_undescribed note
  simp only [fileOptions, allOptions, optionSettings, levelAnnotations_undocumented, each]

theorem fieldReference_of_redescribed {planned other : PlannedField}
    (same : planned.Redescribed other) : fieldReference other = fieldReference planned := by
  rcases same with ⟨-, description, -, rfl⟩
  rfl

theorem references_of_redescribed {plans otherPlans : List MessagePlan}
    {services otherServices : List Service}
    (samePlans : List.Forall₂ MessagePlan.Redescribed plans otherPlans)
    (sameServices : List.Forall₂ Service.Redescribed services otherServices) :
    references otherPlans otherServices = references plans services := by
  have ofPlans : otherPlans.flatMap (fun plan => plan.fields.map fieldReference) =
      plans.flatMap fun plan => plan.fields.map fieldReference :=
    flatMap_of_forall₂ _ (fun same => map_of_forall₂ _ fieldReference_of_redescribed same.fields)
      samePlans
  have ofRpc : ∀ {rpc other : Rpc}, rpc.Redescribed other →
      ([{ type := other.inputType }, { type := other.outputType }] : List Reference) =
        [{ type := rpc.inputType }, { type := rpc.outputType }] := by
    rintro rpc _ ⟨-, description, -, rfl⟩
    rfl
  have ofServices : serviceReferences otherServices = serviceReferences services :=
    flatMap_of_forall₂ _ (fun same => flatMap_of_forall₂ _ ofRpc same.rpcs) sameServices
  rw [references, references, ofPlans, ofServices]

/-- The head of a file does not depend on documentation. -/
theorem header_undocumented {plans otherPlans : List MessagePlan}
    {services otherServices : List Service}
    (samePlans : List.Forall₂ MessagePlan.Redescribed plans otherPlans)
    (sameServices : List.Forall₂ Service.Redescribed services otherServices) :
    header context.undocumented schema.undocumented otherPlans otherServices =
      header context schema plans services := by
  have package : packageName context.undocumented.options schema.undocumented =
      packageName context.options schema := packageName_undocumented context.options schema
  have settings : fileOptions context.undocumented.options schema.undocumented.model =
      fileOptions context.options schema.model :=
        fileOptions_undocumented context.options schema.model
  have annotated : annotatedImports schema.undocumented.model = annotatedImports schema.model := by
    have notes : schema.undocumented.model.levelAnnotations =
      undescribed schema.model.levelAnnotations := levelAnnotations_undocumented schema.model
    simp [annotatedImports, notes]
  have imported : imports context.undocumented schema.undocumented otherPlans otherServices =
      imports context schema plans services := by
    rw [imports, imports, references_of_redescribed samePlans sameServices, annotated]
    rfl
  rw [header, header, package, settings, imported]
  rfl

/-- A text whose last line is at its end.  What is written behind it begins a new
line, so lines of both can be taken one after the other. -/
def EndsLine (text : String) : Prop :=
  ∃ front, text = front ++ "\n"

theorem endsLine_append {text rest : String} (ends : EndsLine text)
    (further : rest = "" ∨ EndsLine rest) : EndsLine (text ++ rest) := by
  rcases further with rfl | ⟨front, rfl⟩
  · rwa [String.append_empty]
  · exact ⟨text ++ front, by rw [String.append_assoc]⟩

theorem paragraph_ends (text : String) : paragraph text = "" ∨ EndsLine (paragraph text) := by
  unfold paragraph
  split
  · exact Or.inl rfl
  · exact Or.inr ⟨text, rfl⟩

/-- The blocks of a file begin on a line of their own. -/
theorem endsLine_header {plans : List MessagePlan} {services : List Service} {head : String}
    (headed : header context schema plans services = .ok head) : EndsLine head := by
  rcases bind_eq_ok_iff.mp headed with ⟨package, -, rest⟩
  rcases bind_eq_ok_iff.mp rest with ⟨⟨goal, settings⟩, -, rest⟩
  rcases bind_eq_ok_iff.mp rest with ⟨optionPart, listed, rest⟩
  rcases bind_eq_ok_iff.mp rest with ⟨paths, -, final⟩
  cases final
  have edition : EndsLine (editionLine context.options.edition) :=
    ⟨"syntax = \"" ++ context.options.edition.display ++ "\";\n", by
      simp [editionLine, ← String.toList_inj, String.toList_append]⟩
  have packaged : packageLine package = "" ∨ EndsLine (packageLine package) := by
    unfold packageLine
    split
    · exact Or.inr ⟨"package " ++ package.display ++ ";\n", by
        simp [← String.toList_inj, String.toList_append]⟩
    · exact Or.inl rfl
  have options : optionPart = "" ∨ EndsLine optionPart := by
    rcases bind_eq_ok_iff.mp listed with ⟨names, -, final⟩
    cases final
    exact paragraph_ends _
  exact endsLine_append (endsLine_append (endsLine_append edition packaged) options)
    (paragraph_ends _)

/-! ## Blocks -/

/-- Two lists of lines that declare the same.  They may differ in comments and in
nothing else, so the lines that declare stand in the same order. -/
def DeclareSame (items others : List String) : Prop :=
  others.flatMap declarationLines = items.flatMap declarationLines

/-- Two texts that declare the same, whatever is declared behind them.  A text
that ends within a line would run into the next one, and two such texts need not
be interchangeable. -/
def Interchangeable (text other : String) : Prop :=
  ∀ rest further, declarationLines further = declarationLines rest →
    declarationLines (other ++ further) = declarationLines (text ++ rest)

theorem DeclareSame.append {items others more further : List String}
    (first : DeclareSame items others)
    (second : DeclareSame more further) : DeclareSame (items ++ more) (others ++ further) := by
  rw [DeclareSame, List.flatMap_append, List.flatMap_append, first, second]

theorem declareSame_flatten {lists others : List (List String)}
    (same : List.Forall₂ DeclareSame lists others) : DeclareSame lists.flatten others.flatten := by
  induction same with
  | nil => rfl
  | cons head _ ih => exact head.append ih

/-- Comments of one line each declare nothing. -/
theorem declareSame_commentLines (margin : String) {description further : Value}
    (blank : margin.toList.all (· == ' ') = true) (single : AreInLine description further) :
    DeclareSame (commentLines margin description) (commentLines margin further) := by
  rw [DeclareSame, flatMap_commentLines margin blank single.1,
    flatMap_commentLines margin blank single.2]

theorem interchangeable_blockText {items others : List String} (given : items ≠ [])
    (givenOthers : others ≠ []) (same : DeclareSame items others) :
    Interchangeable (blockText items) (blockText others) := by
  intro rest further behind
  rw [declarationLines_blockText_append given, declarationLines_blockText_append givenOthers, same,
    behind]

theorem interchangeable_empty : Interchangeable "" "" := by
  intro rest further behind
  rwa [String.empty_append, String.empty_append]

theorem declarationLines_join {texts others : List String}
    (same : List.Forall₂ Interchangeable texts others) :
    declarationLines (String.join others) = declarationLines (String.join texts) := by
  induction same with
  | nil => rfl
  | cons head _ ih =>
      rw [String.join_cons, String.join_cons]
      exact head _ _ ih

section

variable {options : Options}

theorem related_fieldLines {planned other : PlannedField} (same : planned.Redescribed other) :
    Related DeclareSame (fieldLines options planned) (fieldLines options other) := by
  rcases same with ⟨single, description, singleAgain, rfl⟩
  apply Related.bind_same rfl
  intro line _
  exact .ok ((declareSame_commentLines "  " rfl ⟨single, singleAgain⟩).append rfl)

/-- A reserved number is written in the same way, since a retired field keeps its number and whether
the number is explicit. -/
theorem writtenReserved_of_redescribed {plan other : MessagePlan} (same : plan.Redescribed other) :
    other.writtenReserved options = plan.writtenReserved options := by
  funext number
  have retired : other.retired.find? (·.number == number) =
      (plan.retired.find? (·.number == number)).map NumberedField.undocumented := by
    rw [same.retired, List.find?_map]
    rfl
  rw [MessagePlan.writtenReserved, MessagePlan.writtenReserved, same.declaredNumbers, retired]
  cases plan.retired.find? (·.number == number) <;> rfl

theorem reservedNumberLines_of_redescribed {plan other : MessagePlan}
    (same : plan.Redescribed other) :
    reservedNumberLines options other = reservedNumberLines options plan := by
  rw [reservedNumberLines, reservedNumberLines, MessagePlan.reservedRanges,
    MessagePlan.reservedRanges, same.reservedNumbers, writtenReserved_of_redescribed same]

theorem related_messageBlock {plan other : MessagePlan} (same : plan.Redescribed other) :
    Related Interchangeable (messageBlock options plan) (messageBlock options other) := by
  have names : reservedNameLines other = reservedNameLines plan := by
    rw [reservedNameLines, reservedNameLines, same.reservedNames]
  have lines : Related (fun items others => items ≠ [] ∧ others ≠ [] ∧ DeclareSame items others)
      (messageLines options plan) (messageLines options other) := by
    apply Related.bind (related_mapM (same.fields.imp fun _ _ => related_fieldLines))
    intro fields otherFields agree
    rw [reservedNumberLines_of_redescribed same, names, same.name]
    apply Related.bind_same rfl
    intro reserved _
    refine .ok ⟨by simp, by simp, ?_⟩
    have comment := declareSame_commentLines "" rfl same.description
    have own := declareSame_flatten agree
    exact ((((comment.append rfl).append own).append rfl).append rfl).append rfl
  apply Related.bind lines
  rintro items others ⟨given, givenOthers, agree⟩
  exact .ok (interchangeable_blockText given givenOthers agree)

/-! ### Enumerations -/

/-- Steps that begin with a description are related when they are on descriptions of one line, and
when both fail for want of the names of annotations. -/
theorem related_bind_descriptionOf {α β : Type} {related : α → β → Prop} {notes : List Annotation}
    {doc : Value} {next : Value → Asked α} {further : Value → Asked β}
    (inLine : IsDescribedInLine notes doc)
    (described : notes.all Annotation.hasTextName = true → ∀ before after, AreInLine before after →
      Related related (next before) (further after))
    (unnamed : notes.all Annotation.hasTextName = false →
      (∀ value, next value = .error .noOperation) ∧ ∀ value, further value = .error .noOperation) :
    Related related (descriptionOf notes doc >>= next)
      (descriptionOf (undescribed notes) (.text "") >>= further) := by
  cases named : notes.all Annotation.hasTextName with
  | true => exact (related_descriptionOf named inLine).bind (described named)
  | false =>
      have failing : ∀ {γ : Type} (notes : List Annotation) (doc : Value) (step : Value → Asked γ),
          (∀ value, step value = .error .noOperation) →
            (descriptionOf notes doc >>= step) = .error .noOperation := by
        intro γ notes doc step fails
        rcases descriptionOf_eq_ok_or notes doc with ⟨value, found⟩ | failed
        · rw [found, ok_bind, fails]
        · rw [failed, error_bind]
      rw [failing _ _ _ (unnamed named).1, failing _ _ _ (unnamed named).2]
      exact .error _

theorem firstString?_eq_error {names : List String} {param : String} {notes : List Annotation}
    (unnamed : notes.all Annotation.hasTextName = false) :
    firstString? names param notes = .error .noOperation := by
  rw [firstString?, annotationsNamed_eq, unnamed]
  rfl

theorem related_enumValueLines {value : EnumValue}
    (inLine : IsDescribedInLine value.annotations value.doc) :
    Related DeclareSame (enumValueLines value) (enumValueLines value.undocumented) := by
  apply related_bind_descriptionOf inLine
  · intro _ before after single
    apply Related.bind_same value.schemaName_undocumented
    intro name _
    apply Related.bind_same value.number_undocumented
    intro number _
    apply Related.bind_same rfl
    intro numeral _
    exact .ok ((declareSame_commentLines "  " rfl single).append rfl)
  · intro unnamed
    have failed : value.schemaName = .error .noOperation := by
      rw [EnumValue.schemaName, firstString?_eq_error unnamed, error_bind]
    have failedAgain : value.undocumented.schemaName = .error .noOperation := by
      rw [value.schemaName_undocumented, failed]
    exact ⟨fun _ => by rw [failed, error_bind], fun _ => by rw [failedAgain, error_bind]⟩

theorem related_enumBlock {enum : EnumType} (inLine : enum.IsInLine) :
    Related Interchangeable (enumBlock enum) (enumBlock enum.undocumented) := by
  have lines : Related (fun items others => items ≠ [] ∧ others ≠ [] ∧ DeclareSame items others)
      (enumLines enum) (enumLines enum.undocumented) := by
    apply related_bind_descriptionOf inLine.own
    · intro _ before after single
      apply Related.bind_same enum.schemaName_undocumented
      intro name _
      apply Related.bind_same enum.allowsAlias_undocumented
      intro allowed _
      apply Related.bind (related_mapM (List.forall₂_map_right_iff.mpr (List.forall₂_same.mpr
        fun value member => related_enumValueLines (inLine.values value member))))
      intro values others agree
      refine .ok ⟨by simp, by simp, ?_⟩
      have comment := declareSame_commentLines "" rfl single
      exact ((((comment.append rfl).append rfl).append (declareSame_flatten agree)).append rfl)
    · intro unnamed
      have failed : enum.schemaName = .error .noOperation := by
        rw [EnumType.schemaName, renamed, firstString?_eq_error unnamed, error_bind]
      have failedAgain : enum.undocumented.schemaName = .error .noOperation := by
        rw [enum.schemaName_undocumented, failed]
      exact ⟨fun _ => by rw [failed, error_bind], fun _ => by rw [failedAgain, error_bind]⟩
  apply Related.bind lines
  rintro items others ⟨given, givenOthers, agree⟩
  exact .ok (interchangeable_blockText given givenOthers agree)

theorem related_writtenEnumBlock {enum : EnumType} (inLine : enum.IsInLine) :
    Related Interchangeable (writtenEnumBlock enum) (writtenEnumBlock enum.undocumented) := by
  apply Related.bind_same enum.isWritten_undocumented
  intro written _
  cases written with
  | true => exact related_enumBlock inLine
  | false => exact .ok interchangeable_empty

/-! ### Services -/

theorem interchangeable_serviceBlock {service other : Service} (same : service.Redescribed other) :
    Interchangeable (serviceBlock service) (serviceBlock other) := by
  have rpc : ∀ {rpc other : Rpc}, rpc.Redescribed other →
      DeclareSame (rpcLines rpc) (rpcLines other) := by
    rintro rpc _ ⟨single, description, singleAgain, rfl⟩
    exact (declareSame_commentLines "  " rfl ⟨single, singleAgain⟩).append rfl
  have rpcs : DeclareSame (service.rpcs.flatMap rpcLines) (other.rpcs.flatMap rpcLines) := by
    rw [List.flatMap_def, List.flatMap_def]
    exact declareSame_flatten (List.forall₂_map_left_iff.mpr
      (List.forall₂_map_right_iff.mpr (same.rpcs.imp fun _ _ => rpc)))
  have comment := declareSame_commentLines "" rfl same.description
  refine interchangeable_blockText (by simp [serviceLines]) (by simp [serviceLines]) ?_
  rw [serviceLines, serviceLines, same.name]
  exact ((comment.append rfl).append rpcs).append rfl

end

/-! ## The whole file -/

theorem related_write (model : schema.model = context.model) (inLine : schema.IsInLine) :
    Related (fun text other => declarationLines other = declarationLines text)
      (write context schema) (write context.undocumented schema.undocumented) := by
  have templates : ∀ other ∈ context.model.composites, other.IsInLine := model ▸ inLine.templates
  apply Related.bind (SchemaContext.related_messagePlans templates inLine.composites)
  intro plans otherPlans samePlans
  have services : Related (List.Forall₂ Service.Redescribed) (writtenServices context schema)
      (writtenServices context.undocumented schema.undocumented) := by
    rw [writtenServices, writtenServices]
    have options : context.undocumented.options = context.options := rfl
    rw [options]
    split
    · exact SchemaContext.related_services (model ▸ inLine.functions) inLine.services
        inLine.composites
    · exact .ok .nil
  apply Related.bind services
  intro services otherServices sameServices
  apply Related.bind_same (header_undocumented samePlans sameServices)
  intro head headed
  rcases endsLine_header headed with ⟨front, rfl⟩
  have bodies : Related (fun body other => declarationLines other = declarationLines body)
      (blocks context schema plans services)
      (blocks context.undocumented schema.undocumented otherPlans otherServices) := by
    apply Related.bind (related_mapM (samePlans.imp fun _ _ => related_messageBlock))
    intro messages otherMessages sameMessages
    apply Related.bind (related_mapM (List.forall₂_map_right_iff.mpr (List.forall₂_same.mpr
      fun enum member => related_writtenEnumBlock (inLine.enums enum member))))
    intro enums otherEnums sameEnums
    have sameBlocks : List.Forall₂ Interchangeable (services.map serviceBlock)
        (otherServices.map serviceBlock) :=
      List.forall₂_map_left_iff.mpr (List.forall₂_map_right_iff.mpr
        (sameServices.imp fun _ _ => interchangeable_serviceBlock))
    exact .ok (declarationLines_join
      (List.rel_append (List.rel_append sameMessages sameEnums) sameBlocks))
  apply Related.bind bodies
  intro body other same
  exact .ok (by rw [declarationLines_append, declarationLines_append, same])

/-- Documentation is inert.  A unit whose descriptions are of one line each has, without its
documentation, the same file but for comments, or fails in the same way. -/
theorem declarationLines_undocumented (options : Options) (schema : SchemaUnit)
    (inLine : schema.IsInLine) :
    (generate (.of schema.undocumented.model options) schema.undocumented).map declarationLines =
      (generate (.of schema.model options) schema).map declarationLines := by
  have context : SchemaContext.of schema.undocumented.model options =
      (SchemaContext.of schema.model options).undocumented :=
    SchemaContext.of_undocumented schema.model options
  have model : schema.model = (SchemaContext.of schema.model options).model := rfl
  have found := Validation.findings_undocumented model inLine
  have written := (related_write model inLine).map_eq
  have lifted : ∀ step : Asked String, (Failure.liftShape step).map declarationLines =
      Failure.liftShape (step.map declarationLines) := by
    intro step
    cases step <;> rfl
  rw [context, generate, generate, Validation.check, Validation.check, found]
  cases Failure.liftShape (Validation.findings (.of schema.model options) schema) with
  | error failure => rfl
  | ok found =>
      rw [Failure.ok_bind]
      split
      · rfl
      · exact (lifted _).trans ((congrArg Failure.liftShape written).trans (lifted _).symm)

/-- A unit of one type, with a documentation of its own and a description of its field. -/
def describedUnit (doc : String) : SchemaUnit :=
  Model.wholeUnit
    { composites :=
        [{ name := .text "User"
           doc := .text doc
           fields :=
             [{ name := .text "Id", type := .named "int64" ""
                annotations :=
                  [{ name := .text "field", params := [("description", .text doc)] }] }] }] }

theorem isInLine_describedUnit : (describedUnit "A user.").IsInLine := by
  have notes : ∀ note ∈ ([] : List Annotation), note.DescribesInLine := by simp
  have field : (⟨.text "field", [("description", .text "A user.")]⟩ : Annotation).DescribesInLine :=
    ⟨by decide, fun named => absurd named (by decide +kernel)⟩
  have user : ∀ composite ∈ (describedUnit "A user.").composites, composite.IsInLine := by
    intro composite member
    rw [List.mem_singleton.mp member]
    refine ⟨⟨notes, by simp [Value.IsOneLine]⟩, fun declared among => ?_⟩
    rw [List.mem_singleton.mp among]
    exact ⟨by simpa using field, by simp [Value.IsOneLine]⟩
  exact ⟨user, user, List.forall_mem_nil _, List.forall_mem_nil _, List.forall_mem_nil _⟩

theorem declarationLines_undocumented_describedUnit :
    (generate (.of (describedUnit "A user.").model {}) (describedUnit "A user.")).toOption.isSome ∧
      (generate (.of (describedUnit "A user.").undocumented.model {})
          (describedUnit "A user.").undocumented).map declarationLines =
        (generate (.of (describedUnit "A user.").model {}) (describedUnit "A user.")).map
          declarationLines :=
  ⟨by decide +kernel, declarationLines_undocumented {} _ isInLine_describedUnit⟩

/-- A documentation of two lines is felt: its second line stands outside of any comment. -/
theorem declarationLines_of_two_lines :
    (generate (.of (describedUnit "A user.\nWith a number.").undocumented.model {})
        (describedUnit "A user.\nWith a number.").undocumented).map declarationLines ≠
      (generate (.of (describedUnit "A user.\nWith a number.").model {})
        (describedUnit "A user.\nWith a number.")).map declarationLines := by
  intro same
  have lines := congrArg (fun run => run.toOption.map List.length) same
  revert lines
  decide +kernel

end ProtoText

end WireSchema
