import Mathlib.Data.List.Flatten
import WireSchema.Proofs.Validation.Scan

namespace WireSchema

/-!
# Parts of a valid unit

A part of a unit declares some of what the unit declares, in the same order, and belongs to the same
model.  The scans of the validation look at one declaration after the other and compare names with
the ones that came before.  In a part fewer names come before, and the plans are the same, so the
validation accepts a part of every unit that it accepts.
-/

open Asked

/-- A unit that declares some of what another one does.  Both have the same
model, since names and templates are looked up in all of it. -/
structure SchemaUnit.IsPart (part whole : SchemaUnit) : Prop where
  model : part.model = whole.model
  composites : part.composites.Sublist whole.composites
  enums : part.enums.Sublist whole.enums
  services : part.services.Sublist whole.services

namespace Asked

variable {α β : Type} {step : α → Asked β} {items all : List α} {results : List β}

/-- A step for each of some items has some of the results, in order. -/
theorem exists_mapM_sublist (some : items.Sublist all) (each : all.mapM step = .ok results) :
    ∃ kept, items.mapM step = .ok kept ∧ kept.Sublist results := by
  induction some generalizing results with
  | slnil =>
      cases each
      exact ⟨[], rfl, List.Sublist.slnil⟩
  | @cons items all item _ ih =>
      rw [List.mapM_cons] at each
      rcases bind_eq_ok_iff.mp each with ⟨head, -, rest⟩
      rcases bind_eq_ok_iff.mp rest with ⟨tail, others, final⟩
      cases final
      rcases ih others with ⟨kept, found, fewer⟩
      exact ⟨kept, found, fewer.cons head⟩
  | @cons_cons items all item _ ih =>
      rw [List.mapM_cons] at each
      rcases bind_eq_ok_iff.mp each with ⟨head, own, rest⟩
      rcases bind_eq_ok_iff.mp rest with ⟨tail, others, final⟩
      cases final
      rcases ih others with ⟨kept, found, fewer⟩
      exact ⟨head :: kept, mapM_cons_eq_ok own found, fewer.cons_cons head⟩

end Asked

/-- The services of a part are some of those of the whole. -/
theorem SchemaContext.exists_services_part {context : SchemaContext} {part whole : SchemaUnit}
    (some : part.IsPart whole) {services : List Service}
    (resolved : context.services whole.services whole.composites = .ok services) :
    ∃ kept, context.services part.services part.composites = .ok kept ∧ kept.Sublist services := by
  rcases bind_eq_ok_iff.mp resolved with ⟨ofContracts, contracts, rest⟩
  rcases bind_eq_ok_iff.mp rest with ⟨ofComposites, composites, final⟩
  cases final
  rcases exists_mapM_sublist some.services contracts with ⟨first, contractsKept, fewerContracts⟩
  rcases exists_mapM_sublist some.composites composites with ⟨second, compositesKept, fewer⟩
  refine ⟨first.flatten ++ second.flatten, ?_, fewerContracts.flatten.append fewer.flatten⟩
  rw [services, contractsKept, ok_bind, compositesKept, ok_bind, pure_eq_ok]

namespace Validation

/-- A scan comes to its end and finds nothing that forbids writing.  Warnings may
be among what it finds. -/
def Passes (scan : Asked (List Finding)) : Prop :=
  ∃ found, scan = .ok found ∧ Finding.Harmless found

theorem passes_nil : Passes (.ok []) :=
  ⟨[], rfl, Finding.harmless_nil⟩

theorem passes_both_iff {first second : Asked (List Finding)} :
    Passes (do
      let found ← first
      let further ← second
      return found ++ further) ↔ Passes first ∧ Passes second := by
  constructor
  · rintro ⟨both, result, harmless⟩
    rcases bind_eq_ok_iff.mp result with ⟨found, own, rest⟩
    rcases bind_eq_ok_iff.mp rest with ⟨further, others, final⟩
    cases final
    rcases Finding.harmless_append_iff.mp harmless with ⟨ofFirst, ofSecond⟩
    exact ⟨⟨found, own, ofFirst⟩, further, others, ofSecond⟩
  · rintro ⟨⟨found, rfl, ofFirst⟩, further, rfl, ofSecond⟩
    exact ⟨found ++ further, rfl, Finding.harmless_append_iff.mpr ⟨ofFirst, ofSecond⟩⟩

variable {context : SchemaContext} {composite : Composite} {seen fewer : List Value}

theorem contains_of_subset (subset : fewer ⊆ seen) {name : Value}
    (unseen : seen.contains name = false) : fewer.contains name = false := by
  rw [List.contains_eq_any_beq, List.any_eq_false] at unseen ⊢
  exact fun earlier before => unseen earlier (subset before)

theorem append_subset (subset : fewer ⊆ seen) (names : List Value) :
    fewer ++ names ⊆ seen ++ names :=
  List.append_subset.mpr
    ⟨List.Subset.trans subset (List.subset_append_left _ _), List.subset_append_right _ _⟩

theorem isTaken_of_key {name : Value} (isKey : name.isKey = true) :
    isTaken fewer name = .ok (fewer.contains name) :=
  isTaken_eq_ok_iff.mpr ⟨isKey, rfl⟩

/-! ## Scans that have seen fewer names -/

theorem messageFindings_passes {message : Value} (subset : fewer ⊆ seen)
    (passes : Passes (messageFindings context composite seen message)) :
    Passes (messageFindings context composite fewer message) := by
  rcases passes with ⟨found, result, harmless⟩
  rcases (messageFindings_harmless_iff result).mp harmless with ⟨unseen, sound⟩
  rcases messageFindings_eq_ok_iff.mp result with ⟨isKey, plan, planned, short, -⟩
  have again : messageFindings context composite fewer message = .ok _ :=
    messageFindings_eq_ok_iff.mpr ⟨isKey, plan, planned, short, rfl⟩
  refine ⟨_, again, (messageFindings_harmless_iff again).mpr ⟨?_, sound⟩⟩
  exact contains_of_subset subset unseen

theorem messagesFindings_passes {names : List Value} (subset : fewer ⊆ seen)
    (passes : Passes (messagesFindings context composite seen names)) :
    Passes (messagesFindings context composite fewer names) := by
  induction names generalizing seen fewer with
  | nil => exact passes_nil
  | cons message messages ih =>
      rw [messagesFindings, passes_both_iff] at passes ⊢
      exact ⟨messageFindings_passes subset passes.1, ih (append_subset subset _) passes.2⟩

/-- The induction is on the choice of composite types: one that is left out only adds to the names
that the whole scan has seen. -/
theorem compositeFindings_passes {composites all : List Composite}
    (some : composites.Sublist all) (subset : fewer ⊆ seen)
    (passes : Passes (compositeFindings context seen all)) :
    Passes (compositeFindings context fewer composites) := by
  induction some generalizing seen fewer with
  | slnil => exact passes_nil
  | @cons composites all composite _ ih =>
      rcases passes with ⟨found, result, harmless⟩
      rcases bind_eq_ok_iff.mp result with ⟨names, -, rest⟩
      exact ih (List.Subset.trans subset (List.subset_append_left seen names))
        (passes_both_iff.mp ⟨found, rest, harmless⟩).2
  | @cons_cons composites all composite _ ih =>
      rcases passes with ⟨found, result, harmless⟩
      rcases bind_eq_ok_iff.mp result with ⟨names, written, rest⟩
      rcases passes_both_iff.mp ⟨found, rest, harmless⟩ with ⟨own, others⟩
      rw [compositeFindings, written, ok_bind, passes_both_iff]
      exact ⟨messagesFindings_passes subset own, ih (append_subset subset names) others⟩

theorem enumFindings_passes {enum : EnumType} {found : List Finding} {name : Value}
    (subset : fewer ⊆ seen) (result : enumFindings seen enum = .ok (found, name))
    (harmless : Finding.Harmless found) :
    ∃ again, enumFindings fewer enum = .ok (again, name) ∧ Finding.Harmless again := by
  rcases enumFindings_harmless_iff result with ⟨named, meaning⟩
  rcases meaning.mp harmless with ⟨unseen, sound⟩
  rw [enumFindings, named, ok_bind] at result
  rcases bind_eq_ok_iff.mp result with ⟨taken, asked, rest⟩
  rcases bind_eq_ok_iff.mp rest with ⟨allowed, permission, rest⟩
  rcases bind_eq_ok_iff.mp rest with ⟨repeated, scanned, -⟩
  have again : ∃ again, enumFindings fewer enum = .ok (again, name) := by
    rw [enumFindings, named, ok_bind, isTaken_of_key (isTaken_eq_ok_iff.mp asked).1, ok_bind,
      permission, ok_bind, scanned, ok_bind]
    exact ⟨_, rfl⟩
  rcases again with ⟨other, again⟩
  refine ⟨other, again, (enumFindings_harmless_iff again).2.mpr ⟨?_, sound⟩⟩
  exact contains_of_subset subset unseen

theorem enumsFindings_passes {enums all : List EnumType} (some : enums.Sublist all)
    (subset : fewer ⊆ seen) (passes : Passes (enumsFindings seen all)) :
    Passes (enumsFindings fewer enums) := by
  induction some generalizing seen fewer with
  | slnil => exact passes_nil
  | @cons enums all enum _ ih =>
      rcases passes with ⟨found, result, harmless⟩
      rcases bind_eq_ok_iff.mp result with ⟨isWritten, -, rest⟩
      cases isWritten with
      | false => exact ih subset ⟨found, rest, harmless⟩
      | true =>
          rcases bind_eq_ok_iff.mp rest with ⟨⟨own, name⟩, -, rest⟩
          rcases bind_eq_ok_iff.mp rest with ⟨further, others, final⟩
          cases final
          exact ih (List.Subset.trans subset (List.subset_append_left seen [name]))
            ⟨further, others, (Finding.harmless_append_iff.mp harmless).2⟩
  | @cons_cons enums all enum _ ih =>
      rcases passes with ⟨found, result, harmless⟩
      rcases bind_eq_ok_iff.mp result with ⟨isWritten, asked, rest⟩
      rw [enumsFindings, asked, ok_bind]
      cases isWritten with
      | false => exact ih subset ⟨found, rest, harmless⟩
      | true =>
          rcases bind_eq_ok_iff.mp rest with ⟨⟨own, name⟩, first, rest⟩
          rcases bind_eq_ok_iff.mp rest with ⟨further, others, final⟩
          cases final
          rcases Finding.harmless_append_iff.mp harmless with ⟨ofFirst, ofOthers⟩
          rcases enumFindings_passes subset first ofFirst with ⟨ownAgain, again, harmlessOwn⟩
          rcases ih (append_subset subset [name]) ⟨further, others, ofOthers⟩ with
            ⟨furtherAgain, othersAgain, harmlessOthers⟩
          rw [if_pos rfl, again, ok_bind]
          refine ⟨ownAgain ++ furtherAgain, ?_, ?_⟩
          · simp only [othersAgain]
            rfl
          · exact Finding.harmless_append_iff.mpr ⟨harmlessOwn, harmlessOthers⟩

theorem exists_serviceFindings {services : List Service} (seen : List Value)
    (keys : ∀ service ∈ services, service.name.isKey = true) :
    (serviceFindings seen services).Succeeds := by
  induction services generalizing seen with
  | nil => exact succeeds_ok []
  | cons service services ih =>
      rcases List.forall_mem_cons.mp keys with ⟨own, others⟩
      rw [serviceFindings, isTaken_of_key own, ok_bind]
      exact (ih (seen ++ [service.name]) others).bind fun _ _ => succeeds_ok _

theorem isKey_of_serviceFindings {services : List Service} {found : List Finding}
    (result : serviceFindings seen services = .ok found) :
    ∀ service ∈ services, service.name.isKey = true := by
  induction services generalizing seen found with
  | nil => exact List.forall_mem_nil _
  | cons service services ih =>
      rcases bind_eq_ok_iff.mp result with ⟨taken, asked, rest⟩
      rcases bind_eq_ok_iff.mp rest with ⟨further, others, -⟩
      exact List.forall_mem_cons.mpr ⟨(isTaken_eq_ok_iff.mp asked).1, ih others⟩

theorem serviceFindings_passes {services all : List Service} (some : services.Sublist all)
    (passes : Passes (serviceFindings [] all)) : Passes (serviceFindings [] services) := by
  rcases passes with ⟨found, result, harmless⟩
  have keys := isKey_of_serviceFindings result
  have distinct := (Value.new_empty_iff.mp ((serviceFindings_harmless_iff result).mp harmless))
  rcases exists_serviceFindings [] fun service member => keys service (some.subset member) with
    ⟨again, resultAgain⟩
  refine ⟨again, resultAgain, (serviceFindings_harmless_iff resultAgain).mpr ?_⟩
  exact Value.new_empty_iff.mpr (distinct.sublist (some.map _))

/-- The validation passes a part of every unit that it passes. -/
theorem findings_passes {part whole : SchemaUnit} (some : part.IsPart whole)
    (passes : Passes (findings context whole)) : Passes (findings context part) := by
  rcases passes with ⟨found, result, harmless⟩
  rcases bind_eq_ok_iff.mp result with ⟨ofMessages, messages, rest⟩
  rcases bind_eq_ok_iff.mp rest with ⟨ofEnums, enums, rest⟩
  rcases bind_eq_ok_iff.mp rest with ⟨services, resolved, rest⟩
  rcases bind_eq_ok_iff.mp rest with ⟨ofServices, scanned, final⟩
  cases final
  rcases Finding.harmless_append_iff.mp harmless with ⟨harmlessFirst, harmlessServices⟩
  rcases Finding.harmless_append_iff.mp harmlessFirst with ⟨harmlessMessages, harmlessEnums⟩
  rcases context.exists_services_part some resolved with ⟨kept, resolvedKept, fewer⟩
  have subset : ([] : List Value) ⊆ [] := List.Subset.refl []
  rcases compositeFindings_passes some.composites subset ⟨ofMessages, messages, harmlessMessages⟩
    with ⟨first, firstScan, firstHarmless⟩
  rcases enumsFindings_passes some.enums subset ⟨ofEnums, enums, harmlessEnums⟩
    with ⟨second, secondScan, secondHarmless⟩
  rcases serviceFindings_passes fewer ⟨ofServices, scanned, harmlessServices⟩
    with ⟨third, thirdScan, thirdHarmless⟩
  refine ⟨first ++ second ++ third, ?_, ?_⟩
  · rw [findings, firstScan, ok_bind, secondScan, ok_bind, resolvedKept, ok_bind, thirdScan,
      ok_bind, pure_eq_ok]
  · rw [Finding.harmless_append_iff, Finding.harmless_append_iff]
    exact ⟨⟨firstHarmless, secondHarmless⟩, thirdHarmless⟩

end Validation

end WireSchema
