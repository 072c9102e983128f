import WireSchema.Proofs.Failure
import WireSchema.Proofs.Validation.Refusal

namespace WireSchema

/-!
# The plans of a unit that is accepted

The scan over messages plans each of them.  So the messages of a unit that passes the validation all
have plans, which stand in the order of the names that are scanned, and no two of them have one
name.
-/

open Asked

namespace Validation

variable {context : SchemaContext}

theorem exists_plans_of_messagesFindings {composite : Composite} {seen names : List Value}
    {found : List Finding} (result : messagesFindings context composite seen names = .ok found) :
    ∃ plans, names.mapM (context.plan composite) = .ok plans ∧ plans.map (·.name) = names := by
  induction names generalizing seen found with
  | nil => exact ⟨[], rfl, rfl⟩
  | cons name names ih =>
      rcases bind_eq_ok_iff.mp result with ⟨own, first, rest⟩
      rcases bind_eq_ok_iff.mp rest with ⟨further, others, -⟩
      rcases messageFindings_eq_ok_iff.mp first with ⟨-, plan, planned, -, -⟩
      rcases ih others with ⟨plans, each, named⟩
      refine ⟨plan :: plans, mapM_cons_eq_ok planned each, ?_⟩
      rw [List.map_cons, named, SchemaContext.name_of_plan planned]

theorem exists_plansIfMessage {composite : Composite} {seen names : List Value}
    {found : List Finding} (written : writtenNames composite = .ok names)
    (result : messagesFindings context composite seen names = .ok found) :
    ∃ plans, context.plansIfMessage composite = .ok plans ∧ plans.map (·.name) = names := by
  rcases bind_eq_ok_iff.mp written with ⟨isMessage, asked, named⟩
  rw [SchemaContext.plansIfMessage, asked, ok_bind]
  cases isMessage with
  | false =>
      cases named
      exact ⟨[], rfl, rfl⟩
  | true =>
      rcases exists_plans_of_messagesFindings result with ⟨plans, each, same⟩
      refine ⟨plans, ?_, same⟩
      rw [if_pos rfl, SchemaContext.plans, (if_pos rfl).symm.trans named]
      exact each

theorem exists_messagePlans_of_compositeFindings {seen : List Value} {composites : List Composite}
    {found : List Finding} (result : compositeFindings context seen composites = .ok found) :
    ∃ plans lists, context.messagePlans composites = .ok plans ∧
      composites.mapM writtenNames = .ok lists ∧ plans.map (·.name) = lists.flatten := by
  induction composites generalizing seen found with
  | nil => exact ⟨[], [], rfl, rfl, rfl⟩
  | cons composite composites ih =>
      rcases bind_eq_ok_iff.mp result with ⟨names, written, rest⟩
      rcases bind_eq_ok_iff.mp rest with ⟨own, first, rest⟩
      rcases bind_eq_ok_iff.mp rest with ⟨further, others, -⟩
      rcases exists_plansIfMessage written first with ⟨plans, planned, named⟩
      rcases ih others with ⟨morePlans, lists, morePlanned, moreWritten, moreNamed⟩
      rcases bind_eq_ok_iff.mp morePlanned with ⟨groups, each, final⟩
      cases final
      refine ⟨plans ++ groups.flatten, names :: lists, ?_, mapM_cons_eq_ok written moreWritten, ?_⟩
      · rw [SchemaContext.messagePlans, mapM_cons_eq_ok planned each, ok_bind]
        rfl
      · rw [List.map_append, named, moreNamed, List.flatten_cons]

/-- A unit that is accepted has plans for its messages, no two of which have one name. -/
theorem exists_messagePlans_of_check {schema : SchemaUnit} {found : List Finding}
    (accepted : check context schema = .ok found) :
    ∃ plans, context.messagePlans schema.composites = .ok plans ∧
      Value.Distinct (plans.map (·.name)) := by
  rcases bind_eq_ok_iff.mp accepted with ⟨findings, scanned, -⟩
  rcases bind_eq_ok_iff.mp (Failure.liftShape_eq_ok_iff.mp scanned) with ⟨ofMessages, first, -⟩
  rcases exists_messagePlans_of_compositeFindings first with ⟨plans, lists, planned, written, named⟩
  refine ⟨plans, planned, ?_⟩
  rw [named]
  exact not_not.mp fun repeated => not_defect_of_check accepted (.messageName written repeated)

end Validation

end WireSchema
