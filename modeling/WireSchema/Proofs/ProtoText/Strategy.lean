import WireSchema.Proofs.Document.Asked
import WireSchema.ProtoText.File

namespace WireSchema

/-!
# The strategy has no part in a file

How declarations are divided is decided before any file is written.  Nothing that reads the options
for a file reads the strategy, so a unit has the same file under every one.  Most readers are the
same by definition; the scans over lists are compared item by item.
-/

def Options.withStrategy (options : Options) (strategy : Strategy) : Options :=
  { options with strategy := .read strategy }

namespace SchemaContext

def withStrategy (context : SchemaContext) (strategy : Strategy) : SchemaContext :=
  { context with options := context.options.withStrategy strategy }

variable (context : SchemaContext) (strategy : Strategy)

theorem of_withStrategy (model : Model) (options : Options) (strategy : Strategy) :
    of model (options.withStrategy strategy) = (of model options).withStrategy strategy := rfl

theorem resolveFields_withStrategy (composite : Composite) (message : Value) (next : Int)
    (fields : List DeclaredField) :
    (context.withStrategy strategy).resolveFields composite message next fields =
      context.resolveFields composite message next fields := by
  induction fields generalizing next with
  | nil => rfl
  | cons field fields ih =>
      have own : (context.withStrategy strategy).resolveField composite message next field =
          context.resolveField composite message next field := rfl
      simp only [resolveFields, own, ih]

theorem plan_withStrategy (composite : Composite) (message : Value) :
    (context.withStrategy strategy).plan composite message = context.plan composite message := by
  have start : (context.withStrategy strategy).options.startNumber = context.options.startNumber :=
    rfl
  have model : (context.withStrategy strategy).model = context.model := rfl
  simp only [plan, resolveFields_withStrategy, start, model]

theorem messagePlans_withStrategy (composites : List Composite) :
    (context.withStrategy strategy).messagePlans composites = context.messagePlans composites := by
  have same : (context.withStrategy strategy).plansIfMessage = context.plansIfMessage := by
    funext composite
    have plans : (context.withStrategy strategy).plan composite = context.plan composite :=
      funext (context.plan_withStrategy strategy composite)
    rw [plansIfMessage, plansIfMessage, SchemaContext.plans, SchemaContext.plans, plans]
  rw [messagePlans, messagePlans, same]

end SchemaContext

namespace Validation

variable (context : SchemaContext) (strategy : Strategy)

theorem fieldFindings_withStrategy (options : Options) (strategy : Strategy) (message : String)
    (reserved : List Int) (owners : List (Int × String)) (fields : List PlannedField) :
    fieldFindings (options.withStrategy strategy) message reserved owners fields =
      fieldFindings options message reserved owners fields := by
  induction fields generalizing owners with
  | nil => rfl
  | cons planned others ih =>
      have own : numberFindings (options.withStrategy strategy) message reserved owners planned =
          numberFindings options message reserved owners planned := rfl
      rw [fieldFindings, fieldFindings, own, ih]

theorem planFindings_withStrategy (options : Options) (strategy : Strategy) (plan : MessagePlan) :
    planFindings (options.withStrategy strategy) plan = planFindings options plan := by
  simp only [planFindings, fieldFindings_withStrategy]

theorem messagesFindings_withStrategy (composite : Composite) (seen names : List Value) :
    messagesFindings (context.withStrategy strategy) composite seen names =
      messagesFindings context composite seen names := by
  induction names generalizing seen with
  | nil => rfl
  | cons message messages ih =>
      have findings : planFindings (context.withStrategy strategy).options =
          planFindings context.options :=
        funext (planFindings_withStrategy context.options strategy)
      have written : numerals (context.withStrategy strategy).options =
          numerals context.options := rfl
      simp only [messagesFindings, messageFindings, context.plan_withStrategy, written,
        findings, ih]

theorem compositeFindings_withStrategy (composites : List Composite) (seen : List Value) :
    compositeFindings (context.withStrategy strategy) seen composites =
      compositeFindings context seen composites := by
  induction composites generalizing seen with
  | nil => rfl
  | cons composite composites ih =>
      simp only [compositeFindings, messagesFindings_withStrategy, ih]

theorem check_withStrategy (schema : SchemaUnit) :
    check (context.withStrategy strategy) schema = check context schema := by
  have services : (context.withStrategy strategy).services schema.services schema.composites =
      context.services schema.services schema.composites := rfl
  rw [check, check, findings, findings, compositeFindings_withStrategy, services]

end Validation

namespace ProtoText

theorem generate_withStrategy (context : SchemaContext) (strategy : Strategy)
    (schema : SchemaUnit) :
    generate (context.withStrategy strategy) schema = generate context schema := by
  have services : writtenServices (context.withStrategy strategy) schema =
      writtenServices context schema := rfl
  have heads : header (context.withStrategy strategy) schema = header context schema := rfl
  have bodies : blocks (context.withStrategy strategy) schema = blocks context schema := rfl
  rw [generate, generate, Validation.check_withStrategy, write, write,
    context.messagePlans_withStrategy, services, heads, bodies]

end ProtoText

end WireSchema
