import WireSchema.Failure

namespace WireSchema

/-!
# Steps of a run

A run goes on with a step of its own or with one that asks something of values; the latter fails
like the former, by the shape of a value.  A run over items is described from its last item, as a
step goes on from what all earlier ones left, and one that fails by the first item that it cannot go
on with.  Findings on a unit are the failure of validation only: other steps fail in other ways.
-/

namespace Failure

variable {α β : Type}

/-- A step that fails in other words has the same results. -/
theorem mapError_eq_ok_iff {ε δ α : Type} {step : Except ε α} {rename : ε → δ} {value : α} :
    step.mapError rename = .ok value ↔ step = .ok value := by
  cases step with
  | ok result =>
      constructor
      · rintro ⟨rfl⟩
        rfl
      · rintro ⟨rfl⟩
        rfl
  | error fault => exact iff_of_false (by rintro ⟨⟩) (by rintro ⟨⟩)

@[simp] theorem liftShape_ok (value : α) : liftShape (.ok value : Asked α) = .ok value := rfl

theorem liftShape_eq_ok_iff {step : Asked α} {value : α} :
    liftShape step = .ok value ↔ step = .ok value := by
  cases step with
  | ok result => rw [liftShape_ok, Except.ok.injEq, Except.ok.injEq]
  | error fault => exact ⟨nofun, nofun⟩

@[simp] theorem ok_bind (value : α) (next : α → Outcome β) :
    ((Except.ok value : Outcome α) >>= next) = next value := rfl

@[simp] theorem error_bind (failure : Failure) (next : α → Outcome β) :
    ((Except.error failure : Outcome α) >>= next) = .error failure := rfl

/-- A run over items and one more is the run over the items and then the step of the last one. -/
theorem foldlM_concat (step : β → α → Outcome β) (start : β) (items : List α) (item : α) :
    (items ++ [item]).foldlM step start = items.foldlM step start >>= fun state =>
      step state item := by
  rw [List.foldlM_append]
  cases items.foldlM step start with
  | error failure => rfl
  | ok state =>
      change [item].foldlM step state = step state item
      rw [List.foldlM_cons]
      cases step state item with
      | error failure => rfl
      | ok result => rfl

/-- A run over items fails exactly when it gets to an item whose step fails. -/
theorem foldlM_eq_error_iff {step : β → α → Outcome β} {start : β} {items : List α}
    {failure : Failure} :
    items.foldlM step start = .error failure ↔ ∃ before item after state,
      items = before ++ item :: after ∧ before.foldlM step start = .ok state ∧
        step state item = .error failure := by
  constructor
  · intro failed
    induction items generalizing start with
    | nil => cases failed
    | cons item items ih =>
        rw [List.foldlM_cons] at failed
        cases first : step start item with
        | error cause =>
            rw [first, error_bind] at failed
            cases failed
            exact ⟨[], item, items, start, rfl, rfl, first⟩
        | ok state =>
            rw [first, ok_bind] at failed
            rcases ih failed with ⟨before, other, after, reached, rfl, run, stopped⟩
            refine ⟨item :: before, other, after, reached, rfl, ?_, stopped⟩
            rw [List.foldlM_cons, first, ok_bind, run]
  · rintro ⟨before, item, after, state, rfl, run, stopped⟩
    rw [List.foldlM_append, run, ok_bind, List.foldlM_cons, stopped, error_bind]

/-! ## Steps that refuse no unit -/

/-- A step that does not fail with findings.  It may fail otherwise; only the
refusal of a unit has to be traced back to the scan, so that refusals are
excluded for every other step. -/
def RefusesNone (step : Outcome α) : Prop :=
  ∀ found, step ≠ .error (.invalid found)

theorem refusesNone_ok (value : α) : RefusesNone (.ok value) := nofun

theorem refusesNone_liftShape (step : Asked α) : RefusesNone (liftShape step) := by
  cases step with
  | ok value => exact refusesNone_ok value
  | error fault => exact nofun

theorem RefusesNone.bind {step : Outcome α} {next : α → Outcome β} (first : RefusesNone step)
    (second : ∀ value, RefusesNone (next value)) : RefusesNone (step >>= next) := by
  intro found failed
  cases step with
  | ok value => exact second value found failed
  | error cause =>
      rw [error_bind, Except.error.injEq] at failed
      exact first found (congrArg Except.error failed)

/-- A unit that later steps do not refuse is refused by the first one. -/
theorem bind_eq_invalid_iff {step : Outcome α} {next : α → Outcome β} {found : List Finding}
    (rest : ∀ value, RefusesNone (next value)) :
    (step >>= next) = .error (.invalid found) ↔ step = .error (.invalid found) := by
  cases step with
  | ok value => exact ⟨fun refused => absurd refused (rest value found), nofun⟩
  | error cause => rw [error_bind, Except.error.injEq, Except.error.injEq]

/-- A unit that the first step does not refuse is refused by later ones. -/
theorem RefusesNone.bind_eq_invalid_iff {step : Outcome α} {next : α → Outcome β}
    {found : List Finding} (first : RefusesNone step) :
    (step >>= next) = .error (.invalid found) ↔
      ∃ value, step = .ok value ∧ next value = .error (.invalid found) := by
  cases step with
  | ok value =>
      rw [ok_bind]
      exact ⟨fun refused => ⟨value, rfl, refused⟩, fun ⟨_, same, refused⟩ =>
        Except.ok.inj same ▸ refused⟩
  | error cause =>
      rw [error_bind, Except.error.injEq]
      exact ⟨fun same => absurd (congrArg Except.error same) (first found), nofun⟩

theorem refusesNone_mapM {step : α → Outcome β} {items : List α}
    (each : ∀ item, RefusesNone (step item)) : RefusesNone (items.mapM step) := by
  induction items with
  | nil => exact refusesNone_ok []
  | cons item items ih =>
      rw [List.mapM_cons]
      exact (each item).bind fun _ => ih.bind fun _ => refusesNone_ok _

end Failure

end WireSchema
