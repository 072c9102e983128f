import Mathlib.Data.List.Forall2
import WireSchema.Schema.Names

namespace WireSchema

/-!
# Steps that ask something of values

A step either has a result or fails by the shape of a value.  The lemmas here open sequences of
steps one step at a time, and say of the operations on whole lists what each item contributes.
`Succeeds` is the statement that a step has a result at all; it is proved apart from what the
result is, so that a law about results is never a law about failures in disguise.
-/

namespace Asked

variable {α β : Type}

@[simp] theorem ok_bind (value : α) (next : α → Asked β) :
    ((Except.ok value : Asked α) >>= next) = next value := rfl

@[simp] theorem error_bind (fault : ShapeFault) (next : α → Asked β) :
    ((Except.error fault : Asked α) >>= next) = .error fault := rfl

@[simp] theorem pure_eq_ok (value : α) : (pure value : Asked α) = .ok value := rfl

/-- Two steps in a row have a result exactly when the first one has one with which the second one
goes on to it.  What steps fail with does not matter. -/
theorem bind_eq_ok_iff {ε : Type} {step : Except ε α} {next : α → Except ε β} {result : β} :
    (step >>= next) = .ok result ↔ ∃ value, step = .ok value ∧ next value = .ok result := by
  cases step with
  | error fault =>
      constructor
      · intro impossible
        cases impossible
      · rintro ⟨value, impossible, _⟩
        cases impossible
  | ok value =>
      constructor
      · intro rest
        exact ⟨value, rfl, rest⟩
      · rintro ⟨other, same, rest⟩
        cases same
        exact rest

/-- What holds of every result of a step holds of the one it has. -/
theorem forall_eq_ok_iff {step : Asked α} {value : α} {holds : α → Prop}
    (found : step = .ok value) :
    (∀ result, step = .ok result → holds result) ↔ holds value := by
  rw [found]
  constructor
  · exact fun all => all value rfl
  · rintro here _ ⟨rfl⟩
    exact here

/-! ## Having a result -/

/-- A step has a result.  What the result is remains open; where it matters, the
step is resolved by an equation instead. -/
def Succeeds (step : Asked α) : Prop :=
  ∃ result, step = .ok result

theorem succeeds_ok (value : α) : Succeeds (.ok value : Asked α) :=
  ⟨value, rfl⟩

theorem Succeeds.bind {step : Asked α} {next : α → Asked β} (first : Succeeds step)
    (second : ∀ value, step = .ok value → Succeeds (next value)) : Succeeds (step >>= next) := by
  rcases first with ⟨value, found⟩
  rw [found]
  exact second value found

/-- Two steps that each add to a list have a result when both of them have one. -/
theorem succeeds_append_iff {step other : Asked (List α)} :
    Succeeds (do
      let first ← step
      let second ← other
      return first ++ second) ↔ Succeeds step ∧ Succeeds other := by
  constructor
  · rintro ⟨both, result⟩
    rcases bind_eq_ok_iff.mp result with ⟨first, own, rest⟩
    rcases bind_eq_ok_iff.mp rest with ⟨second, others, -⟩
    exact ⟨⟨first, own⟩, second, others⟩
  · rintro ⟨⟨first, own⟩, second, others⟩
    rw [own, ok_bind, others, ok_bind]
    exact succeeds_ok _

/-- A step of which something is seen of its result has one. -/
theorem exists_of_toOption_map {ε : Type} {step : Except ε α} {view : α → β} {seen : β}
    (shown : step.toOption.map view = some seen) :
      ∃ value, step = .ok value ∧ view value = seen := by
  cases step with
  | error fault => cases shown
  | ok value => exact ⟨value, rfl, Option.some.inj shown⟩

theorem exists_of_isSome_toOption {ε : Type} {step : Except ε α}
    (given : step.toOption.isSome = true) : ∃ value, step = .ok value := by
  cases step with
  | error fault => cases given
  | ok value => exact ⟨value, rfl⟩

/-! ## Two runs -/

/-- Two steps fail in the same way or have related results.  Claims on two runs
are stated with it, for then neither run can fail where the other one
succeeds. -/
inductive Related (related : α → β → Prop) : Asked α → Asked β → Prop where
  | ok {value : α} {other : β} (values : related value other) :
    Related related (.ok value) (.ok other)
  | error (fault : ShapeFault) : Related related (.error fault) (.error fault)

theorem related_of_eq {step other : Asked α} (same : other = step) :
    Related (fun before after => after = before) step other := by
  rw [same]
  cases step with
  | error fault => exact .error fault
  | ok value => exact .ok rfl

theorem related_of_succeeds {step : Asked α} {other : Asked β} (first : step.Succeeds)
    (second : other.Succeeds) : Related (fun _ _ => True) step other := by
  rcases first with ⟨value, rfl⟩
  rcases second with ⟨result, rfl⟩
  exact .ok trivial

theorem Related.succeeds {related : α → β → Prop} {step : Asked α} {other : Asked β}
    (steps : Related related step other) (first : step.Succeeds) : other.Succeeds := by
  cases steps with
  | error fault =>
      rcases first with ⟨value, found⟩
      cases found
  | ok values => exact succeeds_ok _

theorem Related.imp {first second : α → β → Prop} {step : Asked α} {other : Asked β}
    (steps : Related first step other)
    (weaker : ∀ value result, first value result → second value result) :
    Related second step other := by
  cases steps with
  | error fault => exact .error fault
  | ok values => exact .ok (weaker _ _ values)

theorem Related.eq {step other : Asked α}
    (steps : Related (fun before after => after = before) step other) : other = step := by
  cases steps with
  | error fault => rfl
  | ok values => exact congrArg Except.ok values

/-- One of two runs gives what is viewed of the results of the other one. -/
theorem Related.eq_map {view : α → β} {step : Asked α} {other : Asked β}
    (steps : Related (fun before after => after = view before) step other) :
    other = step.map view := by
  cases steps with
  | error fault => rfl
  | ok values => exact congrArg Except.ok values

/-- Two runs of two steps in a row are related when the first steps are, and the second ones on
related values. -/
theorem Related.bind {γ δ : Type} {first : α → β → Prop} {second : γ → δ → Prop} {step : Asked α}
    {other : Asked β} {next : α → Asked γ} {otherNext : β → Asked δ}
    (steps : Related first step other)
    (rest : ∀ value result, first value result →
      Related second (next value) (otherNext result)) :
    Related second (step >>= next) (other >>= otherNext) := by
  cases steps with
  | error fault => exact .error fault
  | ok values => exact rest _ _ values

theorem Related.map_eq {view : α → β} {step other : Asked α}
    (steps : Related (fun before after => view after = view before) step other) :
    other.map view = step.map view := by
  cases steps with
  | error fault => rfl
  | ok values => exact congrArg Except.ok values

/-! ## Lists of steps -/

/-- A step for each of some items is the same as another step for each of others when the items
correspond one by one to others on which it is. -/
theorem mapM_eq_of_forall₂ {γ ε : Type} {step : α → Except ε γ} {further : β → Except ε γ}
    {items : List α} {others : List β}
    (same : List.Forall₂ (fun item other => further other = step item) items others) :
    others.mapM further = items.mapM step := by
  induction same with
  | nil => rfl
  | cons head _ ih => rw [List.mapM_cons, List.mapM_cons, head, ih]

theorem related_mapM {γ δ : Type} {related : γ → δ → Prop} {step : α → Asked γ}
    {further : β → Asked δ} {items : List α} {others : List β}
    (each : List.Forall₂ (fun item other => Related related (step item) (further other))
      items others) :
    Related (List.Forall₂ related) (items.mapM step) (others.mapM further) := by
  induction each with
  | nil => exact .ok .nil
  | cons head _ ih =>
      rw [List.mapM_cons, List.mapM_cons]
      apply Related.bind head
      intro value other values
      apply Related.bind ih
      intro rest further behind
      exact .ok (.cons values behind)

/-- A step for each item has results exactly when each item has its own, in order. -/
theorem mapM_eq_ok_iff {ε : Type} {step : α → Except ε β} {items : List α} {results : List β} :
    items.mapM step = .ok results ↔
      List.Forall₂ (fun item result => step item = .ok result) items results := by
  induction items generalizing results with
  | nil =>
      rw [List.mapM_nil, List.forall₂_nil_left_iff]
      constructor
      · intro same
        cases same
        rfl
      · intro same
        rw [same]
        rfl
  | cons item items ih =>
      simp only [List.mapM_cons, bind_eq_ok_iff, List.forall₂_cons_left_iff, ih, pure, Except.pure,
        Except.ok.injEq]
      constructor
      · rintro ⟨head, found, tail, rest, rfl⟩
        exact ⟨head, tail, found, rest, rfl⟩
      · rintro ⟨head, tail, found, rest, rfl⟩
        exact ⟨head, found, tail, rest, rfl⟩

theorem mapM_cons_eq_ok {ε : Type} {step : α → Except ε β} {item : α} {items : List α} {result : β}
    {results : List β} (first : step item = .ok result) (others : items.mapM step = .ok results) :
    (item :: items).mapM step = .ok (result :: results) :=
  mapM_eq_ok_iff.mpr (.cons first (mapM_eq_ok_iff.mp others))

/-- Each result of a step for each item is that of some item. -/
theorem exists_of_mem_mapM {step : α → Asked β} {items : List α} {results : List β} {result : β}
    (each : items.mapM step = .ok results) (member : result ∈ results) :
    ∃ item ∈ items, step item = .ok result := by
  have related := mapM_eq_ok_iff.mp each
  clear each
  induction related with
  | nil => cases member
  | @cons item found items results own _ ih =>
      rcases List.mem_cons.mp member with rfl | later
      · exact ⟨item, List.mem_cons_self, own⟩
      · rcases ih later with ⟨other, declared, same⟩
        exact ⟨other, List.mem_cons_of_mem item declared, same⟩

/-- Each item of a step for each has its result among the results. -/
theorem exists_mem_of_mapM {step : α → Asked β} {items : List α} {results : List β} {item : α}
    (each : items.mapM step = .ok results) (member : item ∈ items) :
    ∃ result ∈ results, step item = .ok result := by
  have related := mapM_eq_ok_iff.mp each
  clear each
  induction related with
  | nil => cases member
  | @cons head found items results own _ ih =>
      rcases List.mem_cons.mp member with rfl | later
      · exact ⟨found, List.mem_cons_self, own⟩
      · rcases ih later with ⟨result, present, same⟩
        exact ⟨result, List.mem_cons_of_mem found present, same⟩

/-- The results of a step for each item are those of the items. -/
theorem mem_mapM_iff {step : α → Asked β} {items : List α} {results : List β} {result : β}
    (each : items.mapM step = .ok results) :
    result ∈ results ↔ ∃ item ∈ items, step item = .ok result := by
  refine ⟨exists_of_mem_mapM each, ?_⟩
  rintro ⟨item, member, own⟩
  rcases exists_mem_of_mapM each member with ⟨other, among, again⟩
  cases own.symm.trans again
  exact among

theorem succeeds_mapM {step : α → Asked β} {items : List α}
    (each : ∀ item ∈ items, Succeeds (step item)) : Succeeds (items.mapM step) := by
  induction items with
  | nil => exact succeeds_ok []
  | cons item items ih =>
      rw [List.mapM_cons]
      apply Succeeds.bind (each item List.mem_cons_self)
      intro head _
      apply Succeeds.bind (ih fun later member => each later (List.mem_cons_of_mem item member))
      intro tail _
      exact succeeds_ok (head :: tail)

theorem succeeds_mapM_iff {step : α → Asked β} {items : List α} :
    Succeeds (items.mapM step) ↔ ∀ item ∈ items, Succeeds (step item) := by
  refine ⟨fun ⟨results, each⟩ item member => ?_, succeeds_mapM⟩
  rcases exists_mem_of_mapM each member with ⟨result, -, own⟩
  exact ⟨result, own⟩

/-- A step for each item fails in the only way in which the step for an item can fail. -/
theorem mapM_eq_error {step : α → Asked β} {items : List α} {fault : ShapeFault}
    (each : ∀ item ∈ items, Succeeds (step item) ∨ step item = .error fault)
    (fails : ¬∀ item ∈ items, Succeeds (step item)) : items.mapM step = .error fault := by
  induction items with
  | nil => exact absurd (List.forall_mem_nil _) fails
  | cons item items ih =>
      rcases List.forall_mem_cons.mp each with ⟨own | own, others⟩
      · have later : ¬∀ item ∈ items, Succeeds (step item) :=
          fun all => fails (List.forall_mem_cons.mpr ⟨own, all⟩)
        rcases own with ⟨head, found⟩
        rw [List.mapM_cons, found, ok_bind, ih others later, error_bind]
      · rw [List.mapM_cons, own, error_bind]

/-- If each step has a result of some kind, then so has the step for each item. -/
theorem exists_mapM {step : α → Asked β} {items : List α} {kind : β → Prop}
    (each : ∀ item ∈ items, ∃ result, step item = .ok result ∧ kind result) :
    ∃ results, items.mapM step = .ok results ∧ ∀ result ∈ results, kind result := by
  have steps : ∀ item ∈ items, Succeeds (step item) := by
    intro item member
    rcases each item member with ⟨result, found, _⟩
    exact ⟨result, found⟩
  rcases succeeds_mapM steps with ⟨results, found⟩
  refine ⟨results, found, ?_⟩
  intro result member
  rcases exists_of_mem_mapM found member with ⟨item, declared, same⟩
  rcases each item declared with ⟨other, result', holds⟩
  cases same.symm.trans result'
  exact holds

/-- A selection in which every test either fails in one way or answers is the selection by the
answers, and fails in that way as soon as one test does. -/
theorem keepWhere_eq {test : α → Asked Bool} {admitted answer : α → Bool} {fault : ShapeFault}
    (tested : ∀ item, test item = if admitted item then .ok (answer item) else .error fault)
    (items : List α) :
    keepWhere test items =
      if items.all admitted then .ok (items.filter answer) else .error fault := by
  induction items with
  | nil => rfl
  | cons item items ih =>
      simp only [keepWhere, tested item, ih, List.all_cons]
      by_cases first : admitted item = true
      · by_cases others : items.all admitted = true
        · cases kept : answer item <;> simp [first, others, kept]
        · simp [first, others]
      · simp [first]

theorem keepWhere_cons {test : α → Asked Bool} {item : α} {items kept : List α} {answer : Bool}
    (asked : test item = .ok answer) (selected : keepWhere test items = .ok kept) :
    keepWhere test (item :: items) = .ok (if answer then item :: kept else kept) := by
  rw [keepWhere, asked, ok_bind, selected, ok_bind, pure_eq_ok]

theorem succeeds_keepWhere {test : α → Asked Bool} {items : List α}
    (each : ∀ item ∈ items, Succeeds (test item)) : Succeeds (keepWhere test items) := by
  induction items with
  | nil => exact succeeds_ok []
  | cons item items ih =>
      apply Succeeds.bind (each item List.mem_cons_self)
      intro kept _
      apply Succeeds.bind (ih fun later member => each later (List.mem_cons_of_mem item member))
      intro others _
      exact succeeds_ok _

/-- A selection keeps every item that passes the test. -/
theorem mem_keepWhere {test : α → Asked Bool} {items kept : List α} {item : α}
    (selected : keepWhere test items = .ok kept) (member : item ∈ items)
    (passes : test item = .ok true) : item ∈ kept := by
  induction items generalizing kept with
  | nil => cases member
  | cons head items ih =>
      rcases bind_eq_ok_iff.mp selected with ⟨answer, answered, rest⟩
      rcases bind_eq_ok_iff.mp rest with ⟨others, further, final⟩
      cases final
      rcases List.mem_cons.mp member with rfl | later
      · rw [passes] at answered
        cases answered
        exact List.mem_cons_self
      · split
        · exact List.mem_cons_of_mem head (ih further later)
        · exact ih further later

theorem mem_of_mem_keepWhere {test : α → Asked Bool} {items kept : List α} {item : α}
    (selected : keepWhere test items = .ok kept) (member : item ∈ kept) : item ∈ items := by
  induction items generalizing kept with
  | nil =>
      cases selected
      cases member
  | cons head items ih =>
      rcases bind_eq_ok_iff.mp selected with ⟨answer, _, rest⟩
      rcases bind_eq_ok_iff.mp rest with ⟨others, further, final⟩
      cases final
      split at member
      · rcases List.mem_cons.mp member with rfl | later
        · exact List.mem_cons_self
        · exact List.mem_cons_of_mem head (ih further later)
      · exact List.mem_cons_of_mem head (ih further member)

/-- Every item of a selection passes the test. -/
theorem isTrue_of_mem_keepWhere {test : α → Asked Bool} {items kept : List α} {item : α}
    (selected : keepWhere test items = .ok kept) (member : item ∈ kept) : test item = .ok true := by
  induction items generalizing kept with
  | nil =>
      cases selected
      cases member
  | cons head items ih =>
      rcases bind_eq_ok_iff.mp selected with ⟨answer, answered, rest⟩
      rcases bind_eq_ok_iff.mp rest with ⟨others, further, final⟩
      cases final
      cases answer with
      | false => exact ih further member
      | true =>
          rcases List.mem_cons.mp member with rfl | later
          · exact answered
          · exact ih further later

end Asked

end WireSchema
