import WireSchema.Proofs.Document.Asked
import WireSchema.Proofs.Document.Distinct
import WireSchema.Proofs.Schema.NumberText
import WireSchema.Validation.Check

namespace WireSchema

/-!
# What the scans of the validation report

Each scan goes through declarations once and carries what it has seen: names, or numbers with the
names of their owners.  For each of them it is stated here when none of its findings forbids
writing, as a condition on the declarations alone.  The inductions are over the declarations, for
everything that may have been seen before; what is seen first is only put in at the end.
-/

open Asked

/-- Findings none of which forbids writing.  Warnings and hints may be among
them, and they are the result when a unit is accepted. -/
def Finding.Harmless (found : List Finding) : Prop :=
  ∀ finding ∈ found, finding.isError = false

theorem Finding.harmless_append_iff {found further : List Finding} :
    Harmless (found ++ further) ↔ Harmless found ∧ Harmless further :=
  List.forall_mem_append

theorem Finding.harmless_nil : Harmless [] := by
  rintro finding ⟨⟩

/-- A finding that is reported on a condition. -/
theorem Finding.harmless_if_iff {condition : Prop} [Decidable condition] {finding : Finding}
    (isError : finding.isError = true) :
    Harmless (if condition then [finding] else []) ↔ ¬condition := by
  by_cases holds : condition
  · simp [Harmless, holds, isError]
  · simp [Harmless, holds]

/-! ## Numbers of a message -/

theorem isFieldNumber_iff {number : Int} :
    isFieldNumber number = true ↔ 1 ≤ number ∧ number ≤ 536870911 := by
  rw [isFieldNumber, Bool.and_eq_true, decide_eq_true_eq, decide_eq_true_eq]
  rfl

theorem isBandNumber_iff {number : Int} :
    isBandNumber number = true ↔ 19000 ≤ number ∧ number ≤ 19999 := by
  rw [isBandNumber, Bool.and_eq_true, decide_eq_true_eq, decide_eq_true_eq]
  omega

/-- A field number that a message may use: not reserved, in the range of admitted numbers and
outside the band of the wire format. -/
structure IsUsable (reserved : List Int) (number : Int) : Prop where
  unreserved : number ∉ reserved
  inRange : 1 ≤ number ∧ number ≤ 536870911
  outsideBand : ¬(19000 ≤ number ∧ number ≤ 19999)

/-- A message whose fields have usable numbers, no two of them the same.  A
usable number is in the range of field numbers, outside the reserved band, and
not reserved by the message. -/
structure MessagePlan.IsSound (plan : MessagePlan) : Prop where
  distinct : (plan.fields.map (·.number)).Nodup
  usable : ∀ field ∈ plan.fields, IsUsable plan.reservedNumbers field.number

/-- A number that two values of an enumeration share can be written.  The numbers of other values do
not matter here, since only shared ones are found. -/
def EnumType.HasSharedNumerals (enum : EnumType) : Prop :=
  ∀ numbers, enum.values.mapM EnumValue.number = .ok numbers →
    numbers.Pairwise fun earlier later => (earlier == later) = true → later.HasNumeral

namespace Validation

/-- A number is reported when one of the owners has it. -/
theorem ownerFinding_harmless_iff {κ : Type} [BEq κ] {number : κ} {owners : List (κ × String)}
    {report : κ × String → Finding} (isError : ∀ owner, (report owner).isError = true) :
    Finding.Harmless ((owners.find? (·.1 == number)).map report).toList ↔
      ∀ owner ∈ owners.map (·.1), (owner == number) = false := by
  cases found : owners.find? (·.1 == number) with
  | none =>
      have none := List.find?_eq_none.mp found
      simpa [Finding.Harmless] using none
  | some owner =>
      have held := List.find?_some found
      have member := List.mem_of_find?_eq_some found
      constructor
      · intro harmless
        have error := harmless (report owner) (by simp)
        rw [isError owner] at error
        cases error
      · intro all
        exact absurd held (Bool.eq_false_iff.mp (all owner.1 (List.mem_map_of_mem member)))

theorem numberFindings_harmless_iff {options : Options} {message : String} {reserved : List Int}
    {owners : List (Int × String)} {planned : PlannedField} :
    Finding.Harmless (numberFindings options message reserved owners planned) ↔
      planned.number ∉ owners.map (·.1) ∧ IsUsable reserved planned.number := by
  have range : Finding.Harmless (if isFieldNumber planned.number then [] else
      [.numberOutOfRange message planned.field.name.display
        (planned.writtenNumber options).display]) ↔
      1 ≤ planned.number ∧ planned.number ≤ 536870911 := by
    rw [← ite_not, Finding.harmless_if_iff rfl, not_not, isFieldNumber_iff]
  have owner : (∀ number ∈ owners.map (·.1), (number == planned.number) = false) ↔
      planned.number ∉ owners.map (·.1) := by
    simp only [beq_eq_false_iff_ne]
    exact ⟨fun all member => all _ member rfl, fun absent number member same =>
      absent (same ▸ member)⟩
  simp only [numberFindings, Finding.harmless_append_iff]
  rw [ownerFinding_harmless_iff fun _ => rfl, owner, Finding.harmless_if_iff rfl, range,
    Finding.harmless_if_iff rfl, isBandNumber_iff, List.contains_iff_mem]
  constructor
  · rintro ⟨⟨⟨new, unreserved⟩, inRange⟩, outsideBand⟩
    exact ⟨new, unreserved, inRange, outsideBand⟩
  · rintro ⟨new, unreserved, inRange, outsideBand⟩
    exact ⟨⟨⟨new, unreserved⟩, inRange⟩, outsideBand⟩

/-- The scan over the fields of a message. -/
theorem fieldFindings_harmless_iff {options : Options} {message : String} {reserved : List Int}
    {owners : List (Int × String)} {fields : List PlannedField} :
    Finding.Harmless (fieldFindings options message reserved owners fields) ↔
      (∀ field ∈ fields, field.number ∉ owners.map (·.1)) ∧ (fields.map (·.number)).Nodup ∧
        ∀ field ∈ fields, IsUsable reserved field.number := by
  induction fields generalizing owners with
  | nil => simp [fieldFindings, Finding.harmless_nil]
  | cons planned others ih =>
      rw [fieldFindings, Finding.harmless_append_iff, numberFindings_harmless_iff, ih]
      simp only [List.map_append, List.map_cons, List.map_nil, List.mem_append,
        List.mem_singleton, not_or, List.forall_mem_cons, List.nodup_cons, List.mem_map, forall_and]
      constructor
      · rintro ⟨⟨new, usable⟩, ⟨later, other⟩, distinct, further⟩
        refine ⟨⟨new, later⟩, ⟨?_, distinct⟩, usable, further⟩
        rintro ⟨field, member, same⟩
        exact other field member same
      · rintro ⟨⟨new, later⟩, ⟨single, distinct⟩, usable, further⟩
        exact ⟨⟨new, usable⟩, ⟨later, fun field member same => single ⟨field, member, same⟩⟩,
          distinct, further⟩

/-- What forbids a message by itself is that its numbers are not sound. -/
theorem planFindings_harmless_iff {options : Options} {plan : MessagePlan} :
    Finding.Harmless (planFindings options plan) ↔ plan.IsSound := by
  have unsupported : Finding.Harmless (plan.unsupported.map fun field =>
      .unsupportedKey plan.name.display field.name.display (keyTypeText field.type)) := by
    intro finding member
    rcases List.mem_map.mp member with ⟨field, _, rfl⟩
    rfl
  have empty : Finding.Harmless
      (if plan.fields.isEmpty then [.noFields plan.name.display] else []) := by
    intro finding member
    split at member
    · rw [List.mem_singleton.mp member]
      rfl
    · cases member
  simp only [planFindings, Finding.harmless_append_iff, fieldFindings_harmless_iff, unsupported,
    empty, true_and, and_true, List.map_nil, List.not_mem_nil, not_false_eq_true, implies_true]
  constructor
  · rintro ⟨distinct, usable⟩
    exact ⟨distinct, usable⟩
  · rintro ⟨distinct, usable⟩
    exact ⟨distinct, usable⟩

/-! ## Names of messages -/

theorem askKey_eq_ok_iff {value key : Value} :
    value.askKey = .ok key ↔ value.isKey = true ∧ value = key := by
  unfold Value.askKey
  cases value.isKey with
  | true => simp
  | false => simp

theorem isTaken_eq_ok_iff {seen : List Value} {name : Value} {taken : Bool} :
    isTaken seen name = .ok taken ↔ name.isKey = true ∧ seen.contains name = taken := by
  simp only [isTaken, bind_eq_ok_iff, askKey_eq_ok_iff, pure_eq_ok, Except.ok.injEq]
  constructor
  · rintro ⟨key, ⟨isKey, rfl⟩, same⟩
    exact ⟨isKey, same⟩
  · rintro ⟨isKey, same⟩
    exact ⟨name, ⟨isKey, rfl⟩, same⟩

theorem succeeds_numerals_iff {options : Options} {plan : MessagePlan} :
    (numerals options plan).Succeeds ↔ plan.HasNumerals options := by
  rw [numerals, succeeds_mapM_iff]
  exact forall₂_congr fun planned _ => Value.succeeds_askNumeral_iff

theorem hasNumeral_of_isFieldNumber {options : Options} {planned : PlannedField}
    (inRange : isFieldNumber planned.number = true) :
    (planned.writtenNumber options).HasNumeral := by
  have short : planned.number.natAbs < 10 ^ Text.maxDigits := by
    have bounds := isFieldNumber_iff.mp inRange
    have tenDigits : planned.number.natAbs < 10 ^ 10 := by omega
    exact lt_of_lt_of_le tenDigits (Nat.pow_le_pow_right (by decide) (by decide))
  intro number same
  rw [PlannedField.writtenNumber, Options.writtenNumber] at same
  split at same
  · rename_i first
    have start : planned.number = options.startNumber := by
      simpa using (Bool.and_eq_true_iff.mp first).2
    rw [start, Options.startNumber, same] at short
    exact short
  · cases same
    exact short

/-- Sound numbers can be written.  So there would be a finding on each number that cannot. -/
theorem hasNumerals_of_isSound {plan : MessagePlan} (sound : plan.IsSound) (options : Options) :
    plan.HasNumerals options :=
  fun field member =>
    hasNumeral_of_isFieldNumber (isFieldNumber_iff.mpr (sound.usable field member).inRange)

variable {context : SchemaContext} {composite : Composite}

/-- There are findings on a message when it has a plan, the name can be compared, and all numbers
can be written; then they are that the name is taken, if it is, and those on the plan. -/
theorem messageFindings_eq_ok_iff {seen : List Value} {message : Value} {found : List Finding} :
    messageFindings context composite seen message = .ok found ↔
      message.isKey = true ∧ ∃ plan, context.plan composite message = .ok plan ∧
        plan.HasNumerals context.options ∧
        found = (if seen.contains message then
            [.duplicateMessage composite.name.display message.display] else [])
          ++ planFindings context.options plan := by
  constructor
  · intro result
    rcases bind_eq_ok_iff.mp result with ⟨taken, asked, rest⟩
    rcases bind_eq_ok_iff.mp rest with ⟨plan, planned, rest⟩
    rcases bind_eq_ok_iff.mp rest with ⟨written, numbers, final⟩
    cases final
    rcases isTaken_eq_ok_iff.mp asked with ⟨isKey, rfl⟩
    exact ⟨isKey, plan, planned, succeeds_numerals_iff.mp ⟨written, numbers⟩, rfl⟩
  · rintro ⟨isKey, plan, planned, short, rfl⟩
    rcases succeeds_numerals_iff.mpr short with ⟨written, numbers⟩
    rw [messageFindings, isTaken_eq_ok_iff.mpr ⟨isKey, rfl⟩, ok_bind, planned, ok_bind, numbers,
      ok_bind, pure_eq_ok]

/-- A message with a plan one of whose numbers is too long makes the validation fail. -/
theorem messageFindings_eq_error {seen : List Value} {message : Value} {plan : MessagePlan}
    (isKey : message.isKey = true) (planned : context.plan composite message = .ok plan)
    (long : ¬plan.HasNumerals context.options) :
    messageFindings context composite seen message = .error .badContent := by
  have numbers : numerals context.options plan = .error .badContent := by
    refine mapM_eq_error (fun planned _ => ?_) fun all => ?_
    · exact (em (planned.writtenNumber context.options).HasNumeral).imp
        Value.succeeds_askNumeral_iff.mpr Value.askNumeral_eq_error
    · exact long fun planned member => Value.succeeds_askNumeral_iff.mp (all planned member)
  rw [messageFindings, isTaken_eq_ok_iff.mpr ⟨isKey, rfl⟩, ok_bind, planned, ok_bind, numbers,
    error_bind]

/-- A type with two fields, neither of which has a number of its own. -/
def pairType : Composite where
  name := .text "User"
  fields :=
    [{ name := .text "Id", type := .named "int64" "" },
      { name := .text "Mail", type := .named "string" "" }]

/-- The greatest number that can be written. -/
def longestNumber : Int := ((10 ^ Text.maxDigits : Nat) : Int) - 1

/-- The context of the type when its first field gets the greatest number that can be written. -/
def pairContext : SchemaContext :=
  .of { composites := [pairType] } { startFieldNumber := .int longestNumber }

/-- The second field of the type gets a number that cannot be written. -/
theorem exists_plan_pairType :
    ∃ plan, pairContext.plan pairType (.text "User") = .ok plan ∧
      plan.fields.map (·.number) = [longestNumber, longestNumber + 1] ∧
      ¬plan.HasNumerals pairContext.options := by
  have numbers : (pairContext.plan pairType (.text "User")).toOption.map
      (·.fields.map fun planned => (planned.number, planned.isExplicit)) =
        some [(longestNumber, false), (longestNumber + 1, false)] := by
    decide +kernel
  rcases exists_of_toOption_map numbers with ⟨plan, planned, shown⟩
  refine ⟨plan, planned, ?_, fun short => ?_⟩
  · have numbers := congrArg (List.map Prod.fst) shown
    rw [List.map_map] at numbers
    exact numbers
  · have last : (longestNumber + 1, false) ∈
        plan.fields.map fun planned => (planned.number, planned.isExplicit) := by
      rw [shown]
      exact List.mem_cons_of_mem _ List.mem_cons_self
    rcases List.mem_map.mp last with ⟨field, member, own⟩
    rcases Prod.mk.inj own with ⟨number, isExplicit⟩
    have start : pairContext.options.startNumber = longestNumber := rfl
    have written : field.writtenNumber pairContext.options = .int (longestNumber + 1) := by
      rw [PlannedField.writtenNumber, Options.writtenNumber, number, isExplicit, start, if_neg]
      simp
    have bound := short field member _ written
    rw [longestNumber, Int.sub_add_cancel, Int.natAbs_natCast] at bound
    exact absurd bound (Nat.lt_irrefl _)

theorem messageFindings_harmless_iff {seen : List Value} {message : Value} {found : List Finding}
    (result : messageFindings context composite seen message = .ok found) :
    Finding.Harmless found ↔ seen.contains message = false ∧
      ∀ plan, context.plan composite message = .ok plan → plan.IsSound := by
  rcases messageFindings_eq_ok_iff.mp result with ⟨-, plan, planned, -, rfl⟩
  rw [Finding.harmless_append_iff, Finding.harmless_if_iff rfl, planFindings_harmless_iff,
    Bool.not_eq_true, forall_eq_ok_iff planned]

/-- The scan over the messages of one composite type. -/
theorem messagesFindings_harmless_iff {seen names : List Value} {found : List Finding}
    (result : messagesFindings context composite seen names = .ok found) :
    Finding.Harmless found ↔ Value.New seen names ∧
      ∀ message ∈ names, ∀ plan, context.plan composite message = .ok plan → plan.IsSound := by
  induction names generalizing seen found with
  | nil =>
      cases result
      simp [Finding.harmless_nil, Value.new_nil]
  | cons message messages ih =>
      rcases bind_eq_ok_iff.mp result with ⟨own, first, rest⟩
      rcases bind_eq_ok_iff.mp rest with ⟨further, others, final⟩
      cases final
      rw [Finding.harmless_append_iff, messageFindings_harmless_iff first, ih others,
        Value.new_cons_iff, List.forall_mem_cons]
      exact and_and_and_comm

/-- The scan over all composite types. -/
theorem compositeFindings_harmless_iff {seen : List Value} {composites : List Composite}
    {found : List Finding} (result : compositeFindings context seen composites = .ok found) :
    ∃ lists, composites.mapM writtenNames = .ok lists ∧
      (Finding.Harmless found ↔ Value.New seen lists.flatten ∧
        ∀ composite ∈ composites, ∀ names, writtenNames composite = .ok names →
          ∀ message ∈ names, ∀ plan, context.plan composite message = .ok plan → plan.IsSound) := by
  induction composites generalizing seen found with
  | nil =>
      cases result
      exact ⟨[], rfl, by simp [Finding.harmless_nil, Value.new_nil]⟩
  | cons composite composites ih =>
      rcases bind_eq_ok_iff.mp result with ⟨names, written, rest⟩
      rcases bind_eq_ok_iff.mp rest with ⟨own, first, rest⟩
      rcases bind_eq_ok_iff.mp rest with ⟨further, others, final⟩
      cases final
      rcases ih others with ⟨lists, named, harmless⟩
      refine ⟨names :: lists, mapM_cons_eq_ok written named, ?_⟩
      rw [Finding.harmless_append_iff, messagesFindings_harmless_iff first, harmless,
        List.flatten_cons, Value.new_append_iff, List.forall_mem_cons, forall_eq_ok_iff written]
      exact and_and_and_comm

/-! ## Enumerations and services -/

/-- What is found on a value: that it shares its number with the first of the owners that have it.
The number must be one that can be written then. -/
theorem sharedValueFindings_eq_ok_iff {allowed : Bool} {enum name : String}
    {owners : List (Value × String)} {number : Value} {found : List Finding} :
    sharedValueFindings allowed enum owners number name = .ok found ↔
      (∀ owner ∈ owners.map (·.1), (owner == number) = true → number.HasNumeral) ∧
        found = ((owners.find? (·.1 == number)).map fun owner =>
          Finding.duplicateValue allowed enum name number.display owner.2).toList := by
  rw [sharedValueFindings]
  cases first : owners.find? (·.1 == number) with
  | none =>
      have apart : ∀ owner ∈ owners.map (·.1), ¬(owner == number) = true :=
        List.forall_mem_map.mpr (List.find?_eq_none.mp first)
      simp only [Option.map_none, Option.toList_none, Except.ok.injEq]
      exact ⟨fun same => ⟨fun owner member same => absurd same (apart owner member), same.symm⟩,
        fun both => both.2.symm⟩
  | some owner =>
      have shared := List.find?_some first
      have member := List.mem_map_of_mem (f := (·.1)) (List.mem_of_find?_eq_some first)
      constructor
      · intro result
        rcases bind_eq_ok_iff.mp result with ⟨numeral, written, final⟩
        cases final
        rcases Value.askNumeral_eq_ok_iff.mp written with ⟨short, rfl⟩
        exact ⟨fun _ _ _ => short, rfl⟩
      · rintro ⟨short, rfl⟩
        have written := Value.askNumeral_eq_ok_iff.mpr ⟨short _ member shared, rfl⟩
        simp only [written, ok_bind]
        rfl

/-- One step of the scan over the values of an enumeration. -/
theorem exists_of_valueFindings_cons {allowed : Bool} {enum : String}
    {owners : List (Value × String)} {value : EnumValue} {values : List EnumValue}
    {found : List Finding}
    (result : valueFindings allowed enum owners (value :: values) = .ok found) :
    ∃ number name further, value.number = .ok number ∧ number.isKey = true ∧
      valueFindings allowed enum (owners ++ [(number, name)]) values = .ok further ∧
      found = ((owners.find? (·.1 == number)).map fun owner =>
        Finding.duplicateValue allowed enum name number.display owner.2).toList ++ further := by
  rcases bind_eq_ok_iff.mp result with ⟨number, numbered, rest⟩
  rcases bind_eq_ok_iff.mp rest with ⟨key, asked, rest⟩
  rcases bind_eq_ok_iff.mp rest with ⟨name, named, rest⟩
  rcases bind_eq_ok_iff.mp rest with ⟨own, shared, rest⟩
  rcases bind_eq_ok_iff.mp rest with ⟨further, others, final⟩
  cases final
  rcases askKey_eq_ok_iff.mp asked with ⟨isKey, rfl⟩
  rcases sharedValueFindings_eq_ok_iff.mp shared with ⟨-, rfl⟩
  exact ⟨number, name, further, numbered, isKey, others, rfl⟩

/-- Values of an enumeration that may repeat numbers are never refused. -/
theorem valueFindings_harmless_of_allowed {enum : String} {owners : List (Value × String)}
    {values : List EnumValue} {found : List Finding}
    (result : valueFindings true enum owners values = .ok found) : Finding.Harmless found := by
  induction values generalizing owners found with
  | nil =>
      cases result
      exact Finding.harmless_nil
  | cons value values ih =>
      rcases exists_of_valueFindings_cons result with ⟨number, name, further, _, _, others, rfl⟩
      refine Finding.harmless_append_iff.mpr ⟨?_, ih others⟩
      intro finding member
      rcases Option.map_eq_some_iff.mp (Option.mem_toList.mp member) with ⟨owner, _, rfl⟩
      rfl

/-- The scan over the values of an enumeration that may not. -/
theorem valueFindings_harmless_iff {enum : String} {owners : List (Value × String)}
    {values : List EnumValue} {found : List Finding}
    (result : valueFindings false enum owners values = .ok found) :
    ∃ numbers, values.mapM EnumValue.number = .ok numbers ∧
      (Finding.Harmless found ↔ Value.New (owners.map (·.1)) numbers) := by
  induction values generalizing owners found with
  | nil =>
      cases result
      exact ⟨[], rfl, by simp [Finding.harmless_nil, Value.new_nil]⟩
  | cons value values ih =>
      rcases exists_of_valueFindings_cons result with
        ⟨number, name, further, numbered, isKey, others, rfl⟩
      rcases ih others with ⟨numbers, rest, harmless⟩
      refine ⟨number :: numbers, mapM_cons_eq_ok numbered rest, ?_⟩
      -- Owners are compared the other way round than names, which keys do not notice.
      have unseen : (∀ owner ∈ owners.map (·.1), (owner == number) = false) ↔
          (owners.map (·.1)).contains number = false := by
        simp only [List.contains_eq_any_beq, List.any_eq_false, Bool.not_eq_true,
          Value.beq_comm_of_isKey isKey]
      rw [Finding.harmless_append_iff, ownerFinding_harmless_iff fun _ => rfl, unseen, harmless,
        Value.new_cons_iff, List.map_append, List.map_cons, List.map_nil]

theorem enumFindings_harmless_iff {seen : List Value} {enum : EnumType} {found : List Finding}
    {name : Value} (result : enumFindings seen enum = .ok (found, name)) :
    enum.schemaName = .ok name ∧
      (Finding.Harmless found ↔ seen.contains name = false ∧ (enum.allowsAlias = .ok false →
        ∀ numbers, enum.values.mapM EnumValue.number = .ok numbers → Value.Distinct numbers)) := by
  rcases bind_eq_ok_iff.mp result with ⟨found, named, rest⟩
  rcases bind_eq_ok_iff.mp rest with ⟨taken, asked, rest⟩
  rcases bind_eq_ok_iff.mp rest with ⟨allowed, permission, rest⟩
  rcases bind_eq_ok_iff.mp rest with ⟨repeated, scanned, final⟩
  cases final
  rcases isTaken_eq_ok_iff.mp asked with ⟨_, rfl⟩
  refine ⟨named, ?_⟩
  rw [Finding.harmless_append_iff, Finding.harmless_if_iff rfl, Bool.not_eq_true, permission]
  apply and_congr_right
  intro _
  cases allowed with
  | true => simp [valueFindings_harmless_of_allowed scanned]
  | false =>
      rcases valueFindings_harmless_iff scanned with ⟨numbers, numbered, harmless⟩
      rw [harmless, List.map_nil, Value.new_empty_iff, forall_eq_ok_iff numbered]
      simp

/-- The scan over enumerations. -/
theorem enumsFindings_harmless_iff {seen : List Value} {enums : List EnumType}
    {found : List Finding} (result : enumsFindings seen enums = .ok found) :
    ∃ written names, writtenEnums enums = .ok written ∧
      written.mapM EnumType.schemaName = .ok names ∧
      (Finding.Harmless found ↔ Value.New seen names ∧
        ∀ enum ∈ written, enum.allowsAlias = .ok false →
          ∀ numbers, enum.values.mapM EnumValue.number = .ok numbers → Value.Distinct numbers) := by
  induction enums generalizing seen found with
  | nil =>
      cases result
      exact ⟨[], [], rfl, rfl, by simp [Finding.harmless_nil, Value.new_nil]⟩
  | cons enum enums ih =>
      rcases bind_eq_ok_iff.mp result with ⟨kept, isWritten, rest⟩
      cases kept with
      | false =>
          rcases ih rest with ⟨written, names, selected, named, harmless⟩
          exact ⟨written, names, keepWhere_cons isWritten selected, named, harmless⟩
      | true =>
          rcases bind_eq_ok_iff.mp rest with ⟨⟨own, name⟩, first, rest⟩
          rcases bind_eq_ok_iff.mp rest with ⟨further, others, final⟩
          cases final
          rcases ih others with ⟨written, names, selected, named, harmless⟩
          rcases enumFindings_harmless_iff first with ⟨head, ownHarmless⟩
          refine ⟨enum :: written, name :: names, keepWhere_cons isWritten selected,
            mapM_cons_eq_ok head named, ?_⟩
          rw [Finding.harmless_append_iff, ownHarmless, harmless, Value.new_cons_iff,
            List.forall_mem_cons]
          exact and_and_and_comm

/-- The scan over services. -/
theorem serviceFindings_harmless_iff {seen : List Value} {services : List Service}
    {found : List Finding} (result : serviceFindings seen services = .ok found) :
    Finding.Harmless found ↔ Value.New seen (services.map (·.name)) := by
  induction services generalizing seen found with
  | nil =>
      cases result
      simp [Finding.harmless_nil, Value.new_nil]
  | cons service services ih =>
      rcases bind_eq_ok_iff.mp result with ⟨taken, asked, rest⟩
      rcases bind_eq_ok_iff.mp rest with ⟨further, others, final⟩
      cases final
      rcases isTaken_eq_ok_iff.mp asked with ⟨_, rfl⟩
      rw [Finding.harmless_append_iff, Finding.harmless_if_iff rfl, ih others, List.map_cons,
        Value.new_cons_iff, Bool.not_eq_true]

end Validation

end WireSchema
