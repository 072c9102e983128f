import WireSchema.Proofs.ProtoText.Blocks
import WireSchema.Proofs.Schema.Naming
import WireSchema.Proofs.Schema.Numbering
import WireSchema.Proofs.Validation.Scan
import WireSchema.ProtoText.File

namespace WireSchema

/-!
# What a unit is refused for

The validation of a unit goes through its declarations in several scans.  `Defect` says without them
what is wrong with a unit: a name of messages, enumerations or services occurs twice, a message has
numbers that are not sound, or an enumeration repeats a number without leave.  A unit is refused
exactly when it has a defect, and whatever is written passes through the validation first; so the
numbers of every message in a file are sound.
-/

open Asked

/-! ## The plans of a unit -/

namespace SchemaContext

variable {context : SchemaContext}

/-- A plan among those of a unit is that of a message that a composite type is written as. -/
theorem exists_of_mem_messagePlans {composites : List Composite} {plans : List MessagePlan}
    {plan : MessagePlan} (planned : context.messagePlans composites = .ok plans)
    (member : plan ∈ plans) :
    ∃ composite ∈ composites, ∃ names, Validation.writtenNames composite = .ok names ∧
      ∃ message ∈ names, context.plan composite message = .ok plan := by
  rcases bind_eq_ok_iff.mp planned with ⟨lists, each, final⟩
  cases final
  rcases List.mem_flatten.mp member with ⟨list, among, found⟩
  rcases exists_of_mem_mapM each among with ⟨composite, declared, own⟩
  rcases bind_eq_ok_iff.mp own with ⟨isMessage, asked, rest⟩
  cases isMessage with
  | false =>
      cases rest
      cases found
  | true =>
      rcases bind_eq_ok_iff.mp rest with ⟨names, named, plansOfNames⟩
      rcases exists_of_mem_mapM plansOfNames found with ⟨message, inNames, result⟩
      refine ⟨composite, declared, names, ?_, message, inNames, result⟩
      rw [Validation.writtenNames, asked, ok_bind]
      exact named

/-- Every message of a composite type has a plan among those of all messages. -/
theorem exists_mem_messagePlans {composites : List Composite} {plans : List MessagePlan}
    {composite : Composite} {names : List Value} {message : Value}
    (planned : context.messagePlans composites = .ok plans) (declared : composite ∈ composites)
    (isMessage : composite.isMessage = .ok true) (named : composite.messageNames = .ok names)
    (member : message ∈ names) : ∃ plan ∈ plans, context.plan composite message = .ok plan := by
  rcases bind_eq_ok_iff.mp planned with ⟨lists, each, final⟩
  cases final
  rcases exists_mem_of_mapM each declared with ⟨own, among, found⟩
  rw [plansIfMessage, isMessage, ok_bind, if_pos rfl, SchemaContext.plans, named, ok_bind] at found
  rcases exists_mem_of_mapM found member with ⟨plan, inOwn, made⟩
  exact ⟨plan, List.mem_flatten.mpr ⟨own, among, inOwn⟩, made⟩

theorem succeeds_messagePlans {composites : List Composite}
    (typed : context.IsTyped) (each : ∀ composite ∈ composites, composite.IsTyped) :
    (context.messagePlans composites).Succeeds := by
  refine (succeeds_mapM fun composite member => ?_).bind fun _ _ => succeeds_ok _
  have own := each composite member
  rcases Composite.succeeds_isMessage own with ⟨isMessage, asked⟩
  rw [plansIfMessage, asked, ok_bind]
  cases isMessage with
  | false => exact succeeds_ok []
  | true =>
      rcases Composite.exists_messageNames own with ⟨names, named, -⟩
      rw [if_pos rfl, SchemaContext.plans, named, ok_bind]
      exact succeeds_mapM fun message _ => context.succeeds_plan typed own message

/-- What holds of all plans of a unit holds of the plan of every message of a composite type. -/
theorem forall_mem_messagePlans_iff {composites : List Composite} {plans : List MessagePlan}
    {holds : MessagePlan → Prop} (planned : context.messagePlans composites = .ok plans) :
    (∀ plan ∈ plans, holds plan) ↔
      ∀ composite ∈ composites, ∀ names, Validation.writtenNames composite = .ok names →
        ∀ message ∈ names, ∀ plan, context.plan composite message = .ok plan → holds plan := by
  constructor
  · intro all composite declared names written message member plan own
    rcases bind_eq_ok_iff.mp written with ⟨isMessage, asked, named⟩
    cases isMessage with
    | false =>
        cases named
        cases member
    | true =>
        rcases exists_mem_messagePlans planned declared asked named member with
          ⟨other, among, again⟩
        cases own.symm.trans again
        exact all plan among
  · intro each plan member
    rcases exists_of_mem_messagePlans planned member with
      ⟨composite, declared, names, written, message, named, own⟩
    exact each composite declared names written message named plan own

end SchemaContext

namespace Validation

/-! ## How far typed units are scanned -/

theorem succeeds_isTaken {name : Value} (isText : name.IsText) (seen : List Value) :
    (isTaken seen name).Succeeds :=
  isText.succeeds_askKey.bind fun _ _ => succeeds_ok _

variable {context : SchemaContext}

/-- There are findings on a message of a typed composite type when its numbers can be written. -/
theorem succeeds_messageFindings_iff {composite : Composite} (contextTyped : context.IsTyped)
    (typed : composite.IsTyped) {name : Value} (isText : name.IsText) (seen : List Value) :
    (messageFindings context composite seen name).Succeeds ↔
      ∀ plan, context.plan composite name = .ok plan → plan.HasNumerals context.options := by
  rcases context.succeeds_plan contextTyped typed name with ⟨plan, planned⟩
  rcases isText with ⟨content, rfl⟩
  rw [forall_eq_ok_iff planned]
  constructor
  · rintro ⟨found, result⟩
    rcases messageFindings_eq_ok_iff.mp result with ⟨-, other, again, short, -⟩
    cases planned.symm.trans again
    exact short
  · exact fun short =>
      ⟨_, messageFindings_eq_ok_iff.mpr ⟨rfl, plan, planned, short, rfl⟩⟩

theorem succeeds_messagesFindings_iff {composite : Composite} (contextTyped : context.IsTyped)
    (typed : composite.IsTyped) {names : List Value} (each : ∀ name ∈ names, name.IsText)
    (seen : List Value) : (messagesFindings context composite seen names).Succeeds ↔
      ∀ name ∈ names, ∀ plan, context.plan composite name = .ok plan →
        plan.HasNumerals context.options := by
  induction names generalizing seen with
  | nil => exact iff_of_true (succeeds_ok []) (List.forall_mem_nil _)
  | cons name names ih =>
      rcases List.forall_mem_cons.mp each with ⟨own, others⟩
      rw [messagesFindings, succeeds_append_iff, List.forall_mem_cons, ih others,
        succeeds_messageFindings_iff contextTyped typed own]

theorem succeeds_compositeFindings_iff (contextTyped : context.IsTyped)
    {composites : List Composite} (typed : ∀ composite ∈ composites, composite.IsTyped)
    (seen : List Value) : (compositeFindings context seen composites).Succeeds ↔
      ∀ composite ∈ composites, ∀ names, writtenNames composite = .ok names →
        ∀ message ∈ names, ∀ plan, context.plan composite message = .ok plan →
          plan.HasNumerals context.options := by
  induction composites generalizing seen with
  | nil => exact iff_of_true (succeeds_ok []) (List.forall_mem_nil _)
  | cons composite composites ih =>
      rcases List.forall_mem_cons.mp typed with ⟨head, others⟩
      rcases Composite.exists_writtenNames head with ⟨names, written, texts⟩
      rw [compositeFindings, written, ok_bind, succeeds_append_iff, List.forall_mem_cons,
        forall_eq_ok_iff written, ih others,
        succeeds_messagesFindings_iff contextTyped head texts]

/-- The values of a typed enumeration are scanned to their end when each number that is shared with
an earlier value can be written. -/
theorem succeeds_valueFindings_iff {values : List EnumValue}
    (typed : ∀ value ∈ values, value.IsTyped) (allowed : Bool) (enum : String)
    (owners : List (Value × String)) :
    ∃ numbers, values.mapM EnumValue.number = .ok numbers ∧
      ((valueFindings allowed enum owners values).Succeeds ↔
        (∀ owner ∈ owners.map (·.1), ∀ number ∈ numbers, (owner == number) = true →
          number.HasNumeral) ∧
        numbers.Pairwise fun earlier later => (earlier == later) = true → later.HasNumeral) := by
  induction values generalizing owners with
  | nil => exact ⟨[], rfl, iff_of_true (succeeds_ok []) (by simp)⟩
  | cons value values ih =>
      rcases List.forall_mem_cons.mp typed with ⟨head, others⟩
      rcases EnumValue.exists_number head with ⟨number, numbered⟩
      rcases EnumValue.succeeds_schemaName head with ⟨name, named⟩
      rcases ih others (owners ++ [(.int number, name)]) with ⟨numbers, rest, scanned⟩
      have key : (Value.int number).askKey = .ok (.int number) := rfl
      have own : (sharedValueFindings allowed enum owners (.int number) name).Succeeds ↔
          ∀ owner ∈ owners.map (·.1), (owner == .int number) = true →
            (Value.int number).HasNumeral :=
        ⟨fun ⟨_, found⟩ => (sharedValueFindings_eq_ok_iff.mp found).1,
          fun short => ⟨_, sharedValueFindings_eq_ok_iff.mpr ⟨short, rfl⟩⟩⟩
      refine ⟨.int number :: numbers, mapM_cons_eq_ok numbered rest, ?_⟩
      rw [valueFindings, numbered, ok_bind, key, ok_bind, named, ok_bind, succeeds_append_iff, own,
        scanned, List.pairwise_cons, List.map_append, List.map_cons, List.map_nil]
      simp only [List.forall_mem_append, List.forall_mem_singleton, List.forall_mem_cons,
        forall_and]
      tauto

theorem succeeds_enumFindings_iff {enum : EnumType} (typed : enum.IsTyped) (seen : List Value) :
    (enumFindings seen enum).Succeeds ↔ enum.HasSharedNumerals := by
  rcases EnumType.exists_schemaName typed with ⟨name, named, isText⟩
  rcases succeeds_isTaken isText seen with ⟨taken, asked⟩
  rcases EnumType.succeeds_allowsAlias typed with ⟨allowed, permission⟩
  rcases succeeds_valueFindings_iff typed.values allowed name.display [] with
    ⟨numbers, numbered, scanned⟩
  rw [EnumType.HasSharedNumerals, forall_eq_ok_iff numbered]
  rw [List.map_nil, and_iff_right (List.forall_mem_nil _)] at scanned
  rw [← scanned, enumFindings, named, ok_bind, asked, ok_bind, permission, ok_bind]
  constructor
  · rintro ⟨found, result⟩
    rcases bind_eq_ok_iff.mp result with ⟨repeated, own, -⟩
    exact ⟨repeated, own⟩
  · exact fun own => own.bind fun _ _ => succeeds_ok _

theorem succeeds_enumsFindings_iff {enums : List EnumType} (typed : ∀ enum ∈ enums, enum.IsTyped)
    (seen : List Value) : ∃ written, writtenEnums enums = .ok written ∧
      ((enumsFindings seen enums).Succeeds ↔ ∀ enum ∈ written, enum.HasSharedNumerals) := by
  induction enums generalizing seen with
  | nil => exact ⟨[], rfl, iff_of_true (succeeds_ok []) (List.forall_mem_nil _)⟩
  | cons enum enums ih =>
      rcases List.forall_mem_cons.mp typed with ⟨head, others⟩
      rcases EnumType.succeeds_isWritten head with ⟨kept, isWritten⟩
      cases kept with
      | false =>
          rcases ih others seen with ⟨written, selected, scanned⟩
          refine ⟨written, keepWhere_cons isWritten selected, ?_⟩
          rw [enumsFindings, isWritten, ok_bind]
          exact scanned
      | true =>
          rcases EnumType.exists_schemaName head with ⟨name, named, -⟩
          rcases ih others (seen ++ [name]) with ⟨written, selected, scanned⟩
          refine ⟨enum :: written, keepWhere_cons isWritten selected, ?_⟩
          rw [enumsFindings, isWritten, ok_bind, if_pos rfl, List.forall_mem_cons, ← scanned,
            ← succeeds_enumFindings_iff head seen]
          -- The scan goes on with the name that the findings come with, which is the enumeration's.
          constructor
          · rintro ⟨found, result⟩
            rcases bind_eq_ok_iff.mp result with ⟨⟨own, other⟩, first, rest⟩
            rcases bind_eq_ok_iff.mp rest with ⟨further, rest, -⟩
            cases named.symm.trans (enumFindings_harmless_iff first).1
            exact ⟨⟨_, first⟩, further, rest⟩
          · rintro ⟨⟨⟨own, other⟩, first⟩, further, rest⟩
            cases named.symm.trans (enumFindings_harmless_iff first).1
            rw [first, ok_bind]
            exact Succeeds.bind ⟨further, rest⟩ fun _ _ => succeeds_ok _

theorem succeeds_serviceFindings {services : List Service}
    (each : ∀ service ∈ services, service.name.IsText) (seen : List Value) :
    (serviceFindings seen services).Succeeds := by
  induction services generalizing seen with
  | nil => exact succeeds_ok []
  | cons service services ih =>
      apply (succeeds_isTaken (each service List.mem_cons_self) seen).bind
      intro taken _
      have others := fun other member => each other (List.mem_cons_of_mem service member)
      exact (ih others (seen ++ [service.name])).bind fun _ _ => succeeds_ok _

/-- A typed unit has plans, and it is scanned to its end when their numbers can be written, and the
numbers that values of an enumeration share. -/
theorem exists_plans_succeeds_findings_iff {schema : SchemaUnit} (contextTyped : context.IsTyped)
    (typed : schema.IsTyped) : ∃ plans enums, context.messagePlans schema.composites = .ok plans ∧
      writtenEnums schema.enums = .ok enums ∧
      ((findings context schema).Succeeds ↔
        (∀ plan ∈ plans, plan.HasNumerals context.options) ∧
          ∀ enum ∈ enums, enum.HasSharedNumerals) := by
  rcases context.succeeds_messagePlans contextTyped typed.composites with ⟨plans, planned⟩
  rcases succeeds_enumsFindings_iff typed.enums [] with ⟨enums, written, scanned⟩
  refine ⟨plans, enums, planned, written, ?_⟩
  rw [SchemaContext.forall_mem_messagePlans_iff planned, ← scanned,
    ← succeeds_compositeFindings_iff contextTyped typed.composites []]
  constructor
  · rintro ⟨found, result⟩
    rcases bind_eq_ok_iff.mp result with ⟨ofMessages, messages, rest⟩
    rcases bind_eq_ok_iff.mp rest with ⟨ofEnums, values, -⟩
    exact ⟨⟨ofMessages, messages⟩, ofEnums, values⟩
  · rintro ⟨ofMessages, ofEnums⟩
    apply ofMessages.bind
    intro _ _
    apply ofEnums.bind
    intro _ _
    rcases context.exists_services contextTyped typed.services typed.composites with
      ⟨services, resolved, texts⟩
    simp only [resolved, ok_bind]
    exact (succeeds_serviceFindings texts []).bind fun _ _ => succeeds_ok _

/-! ## Defects -/

/-- What is wrong with a unit that is refused.  Each case speaks of declarations
and plans only, without the scans that look for it, and one defect is enough. -/
inductive Defect (context : SchemaContext) (schema : SchemaUnit) : Prop where
  /-- Two messages that are written have one name. -/
  | messageName {lists : List (List Value)}
      (written : schema.composites.mapM writtenNames = .ok lists)
      (repeated : ¬Value.Distinct lists.flatten)
  /-- A message that is written has a number twice, or one that it may not use. -/
  | fieldNumber {composite : Composite} {names : List Value} {message : Value} {plan : MessagePlan}
      (declared : composite ∈ schema.composites) (written : writtenNames composite = .ok names)
      (named : message ∈ names) (planned : context.plan composite message = .ok plan)
      (unsound : ¬plan.IsSound)
  /-- Two enumerations that are written have one name. -/
  | enumName {enums : List EnumType} {names : List Value}
      (written : writtenEnums schema.enums = .ok enums)
      (named : enums.mapM EnumType.schemaName = .ok names) (repeated : ¬Value.Distinct names)
  /-- Two values of an enumeration that is written have one number without leave. -/
  | enumNumber {enums : List EnumType} {enum : EnumType} {numbers : List Value}
      (written : writtenEnums schema.enums = .ok enums) (declared : enum ∈ enums)
      (strict : enum.allowsAlias = .ok false)
      (numbered : enum.values.mapM EnumValue.number = .ok numbers)
      (repeated : ¬Value.Distinct numbers)
  /-- Two services have one name. -/
  | serviceName {services : List Service}
      (resolved : context.services schema.services schema.composites = .ok services)
      (repeated : ¬Value.Distinct (services.map (·.name)))

/-- The scans together: a finding that forbids writing is made exactly when there is a defect. -/
theorem harmless_findings_iff {schema : SchemaUnit} {found : List Finding}
    (result : findings context schema = .ok found) :
    Finding.Harmless found ↔ ¬Defect context schema := by
  rcases bind_eq_ok_iff.mp result with ⟨ofMessages, messages, rest⟩
  rcases bind_eq_ok_iff.mp rest with ⟨ofEnums, enums, rest⟩
  rcases bind_eq_ok_iff.mp rest with ⟨services, resolved, rest⟩
  rcases bind_eq_ok_iff.mp rest with ⟨ofServices, scanned, final⟩
  cases final
  rcases compositeFindings_harmless_iff messages with ⟨lists, written, harmlessMessages⟩
  rcases enumsFindings_harmless_iff enums with ⟨kept, names, selected, named, harmlessEnums⟩
  rw [Finding.harmless_append_iff, Finding.harmless_append_iff, harmlessMessages, harmlessEnums,
    serviceFindings_harmless_iff scanned, Value.new_empty_iff, Value.new_empty_iff,
    Value.new_empty_iff]
  constructor
  · rintro ⟨⟨⟨distinct, sound⟩, distinctEnums, strict⟩, distinctServices⟩ defect
    -- A step has one result: what the defect speaks of is what the scan came to.
    cases defect with
    | messageName again repeated =>
        cases written.symm.trans again
        exact repeated distinct
    | fieldNumber declared own member planned unsound =>
        exact unsound (sound _ declared _ own _ member _ planned)
    | enumName again own repeated =>
        cases selected.symm.trans again
        cases named.symm.trans own
        exact repeated distinctEnums
    | enumNumber again declared forbidden numbered repeated =>
        cases selected.symm.trans again
        exact repeated (strict _ declared forbidden _ numbered)
    | serviceName again repeated =>
        cases resolved.symm.trans again
        exact repeated distinctServices
  · intro none
    refine ⟨⟨⟨?_, ?_⟩, ?_, ?_⟩, ?_⟩
    · exact not_not.mp fun repeated => none (.messageName written repeated)
    · intro composite declared own equal message member plan planned
      exact not_not.mp fun unsound => none (.fieldNumber declared equal member planned unsound)
    · exact not_not.mp fun repeated => none (.enumName selected named repeated)
    · intro enum declared forbidden numbers numbered
      exact not_not.mp fun repeated =>
        none (.enumNumber selected declared forbidden numbered repeated)
    · exact not_not.mp fun repeated => none (.serviceName resolved repeated)

theorem any_isError_eq_true_iff {found : List Finding} :
    found.any (·.isError) = true ↔ ¬Finding.Harmless found := by
  rw [List.any_eq_true, Finding.Harmless]
  simp

/-- The validation refuses a unit exactly when it comes to the end of its scans and the unit has a
defect. -/
theorem exists_invalid_iff {schema : SchemaUnit} :
    (∃ found, check context schema = .error (.invalid found)) ↔
      (findings context schema).Succeeds ∧ Defect context schema := by
  unfold check
  cases result : findings context schema with
  | error fault =>
      constructor
      · rintro ⟨found, impossible⟩
        cases impossible
      · rintro ⟨⟨found, impossible⟩, _⟩
        cases impossible
  | ok found =>
      have refused : found.any (·.isError) = true ↔ Defect context schema := by
        rw [any_isError_eq_true_iff, harmless_findings_iff result, not_not]
      have reduced : (Failure.liftShape (Except.ok found : Asked (List Finding)) >>= fun found =>
          if found.any (·.isError) then throw (Failure.invalid found) else return found) =
            if found.any (·.isError) then .error (.invalid found) else .ok found := rfl
      rw [reduced, ← refused]
      cases found.any (·.isError) with
      | true => simp [succeeds_ok]
      | false => simp

theorem not_defect_of_check {schema : SchemaUnit} {found : List Finding}
    (accepted : check context schema = .ok found) : ¬Defect context schema := by
  intro defect
  cases result : findings context schema with
  | error fault =>
      rw [check, result] at accepted
      cases accepted
  | ok findings =>
      rcases exists_invalid_iff.mpr ⟨⟨findings, result⟩, defect⟩ with ⟨other, refused⟩
      cases accepted.symm.trans refused

end Validation

namespace ProtoText

open SchemaContext (mixedType mixedContext)

variable {context : SchemaContext} {schema : SchemaUnit}

/-- A file has its head and then the blocks of all messages, before those of anything else. -/
theorem exists_of_write {text : String} (written : write context schema = .ok text) :
    ∃ plans messages head others, context.messagePlans schema.composites = .ok plans ∧
      plans.mapM (messageBlock context.options) = .ok messages ∧
      text = head ++ String.join (messages ++ others) := by
  rcases bind_eq_ok_iff.mp written with ⟨plans, planned, rest⟩
  rcases bind_eq_ok_iff.mp rest with ⟨services, _, rest⟩
  rcases bind_eq_ok_iff.mp rest with ⟨head, _, rest⟩
  rcases bind_eq_ok_iff.mp rest with ⟨body, joined, final⟩
  cases final
  rcases bind_eq_ok_iff.mp joined with ⟨messages, blocks, rest⟩
  rcases bind_eq_ok_iff.mp rest with ⟨enums, _, final⟩
  cases final
  refine ⟨plans, messages, head, enums ++ services.map serviceBlock, planned, blocks, ?_⟩
  rw [List.append_assoc]

/-- The numbers of a message are sound, and no run in its reserved statement
covers one of them.  The second part speaks of what is written: a range reserves
the numbers between its ends too. -/
structure IsSafe (plan : MessagePlan) : Prop where
  sound : plan.IsSound
  uncovered : ∀ field ∈ plan.fields, ∀ run ∈ runsOf plan.reservedNumbers,
    ¬run.Covers field.number

theorem isSafe_of_isSound {plan : MessagePlan} (sound : plan.IsSound) : IsSafe plan := by
  refine ⟨sound, ?_⟩
  intro field member run among covers
  have ordered := isIncreasing_increasing (plan.declaredNumbers ++ plan.retired.map (·.number))
  have reserved := (exists_covers_runsOf_iff ordered.nondecreasing).mp ⟨run, among, covers⟩
  exact (sound.usable field member).unreserved reserved

/-- The validation is exact.  A typed unit is scanned to its end when the numbers of its messages
can be written, which those in the range always can, and those that values of an enumeration share.
A unit that can be scanned to its end is refused if and only if it has a defect.  So whenever a file
is generated, it consists of a head and of blocks, the first of which are those of its messages.
The lines of each of these blocks show the numbers of its plan, and these are safe.

A truth value as the first automatic number counts as the integer that it equals, here as in the
validation, so that no other field of the message can have this number; but it is printed as a
word. -/
theorem validation_exact (context : SchemaContext) (schema : SchemaUnit) :
    (context.IsTyped → schema.IsTyped → ∃ plans enums,
        context.messagePlans schema.composites = .ok plans ∧
        writtenEnums schema.enums = .ok enums ∧
        ((Validation.findings context schema).Succeeds ↔
          (∀ plan ∈ plans, plan.HasNumerals context.options) ∧
            ∀ enum ∈ enums, enum.HasSharedNumerals)) ∧
      ((∃ found, Validation.check context schema = .error (.invalid found)) ↔
        (Validation.findings context schema).Succeeds ∧ Validation.Defect context schema) ∧
      ∀ text, generate context schema = .ok text →
        ∃ plans messages head others, context.messagePlans schema.composites = .ok plans ∧
          plans.mapM (messageBlock context.options) = .ok messages ∧
          List.Forall₂ (IsBlockOf context.options) plans messages ∧
          text = head ++ String.join (messages ++ others) ∧ ∀ plan ∈ plans, IsSafe plan := by
  refine ⟨Validation.exists_plans_succeeds_findings_iff, Validation.exists_invalid_iff, ?_⟩
  intro text generated
  cases accepted : Validation.check context schema with
  | error failure =>
      rw [generate, accepted] at generated
      cases generated
  | ok found =>
      rw [generate, accepted] at generated
      have sound := Validation.not_defect_of_check accepted
      cases result : write context schema with
      | error fault =>
          rw [result] at generated
          cases generated
      | ok file =>
          rw [result] at generated
          cases generated
          rcases exists_of_write result with ⟨plans, messages, head, others, planned, blocks, split⟩
          have shown := (mapM_eq_ok_iff.mp blocks).imp fun _ _ => isBlockOf_of_messageBlock
          refine ⟨plans, messages, head, others, planned, blocks, shown, split, ?_⟩
          intro plan member
          apply isSafe_of_isSound
          apply not_not.mp
          intro unsound
          rcases SchemaContext.exists_of_mem_messagePlans planned member with
            ⟨composite, declared, names, written, message, named, own⟩
          exact sound (.fieldNumber declared written named own unsound)

/-- A type whose second field has the number that the first one gets by itself. -/
def clashingType : Composite where
  name := .text "User"
  fields :=
    [{ name := .text "Id", type := .named "int64" "" },
      { name := .text "Mail", type := .named "string" ""
        annotations := [{ name := .text "field", params := [("number", .text "1")] }] }]

/-- The unit of a type by itself. -/
def unitOf (composite : Composite) : SchemaUnit :=
  Model.wholeUnit { composites := [composite] }

/-- The context of such a unit. -/
def contextOf (composite : Composite) : SchemaContext :=
  .of { composites := [composite] } {}

private theorem isTyped_clashingType : clashingType.IsTyped where
  name := Value.isText_text _
  notes := rfl
  fields := by
    intro field member
    simp only [clashingType, List.mem_cons, List.not_mem_nil, or_false] at member
    rcases member with rfl | rfl <;> exact ⟨Value.isText_text _, Value.isText_text _, rfl⟩
  typeParams := by rintro param ⟨⟩

private theorem isTyped_of_single {composite : Composite} (typed : composite.IsTyped) :
    (contextOf composite).IsTyped ∧ (unitOf composite).IsTyped := by
  have model := Model.isTyped_single typed
  refine ⟨SchemaContext.of_isTyped model (Options.isTyped_of_empty rfl rfl), model,
    model.composites, ?_, ?_⟩
  · rintro enum ⟨⟩
  · rintro contract ⟨⟩

theorem validation_exact_clashingType :
    (∃ found, Validation.check (contextOf clashingType) (unitOf clashingType) =
        .error (.invalid found)) ∧
      ∃ text plans messages, generate mixedContext (unitOf mixedType) = .ok text ∧
        mixedContext.messagePlans (unitOf mixedType).composites = .ok plans ∧ plans.length = 1 ∧
        List.Forall₂ (IsBlockOf mixedContext.options) plans messages ∧
        ∀ plan ∈ plans, IsSafe plan := by
  have law := validation_exact (contextOf clashingType) (unitOf clashingType)
  have typed := isTyped_of_single isTyped_clashingType
  constructor
  · have numbers : ((contextOf clashingType).plan clashingType (.text "User")).toOption.map
        (fun plan => plan.fields.map (·.number)) = some [1, 1] := by
      decide +kernel
    have allNumbers : ((contextOf clashingType).messagePlans
        (unitOf clashingType).composites).toOption.map
          (·.flatMap fun plan => plan.fields.map (·.number)) = some [1, 1] := by
      decide +kernel
    rcases exists_of_toOption_map numbers with ⟨plan, planned, repeated⟩
    rcases law.1 typed.1 typed.2 with ⟨plans, enums, allPlanned, written, scanned⟩
    cases written
    rw [allPlanned] at allNumbers
    have small : ∀ plan ∈ plans, plan.HasNumerals (contextOf clashingType).options := by
      intro plan member field inside
      have among : field.number ∈ plans.flatMap fun plan => plan.fields.map (·.number) :=
        List.mem_flatMap.mpr ⟨plan, member, List.mem_map_of_mem inside⟩
      have usable : ∀ number ∈ [1, 1], isFieldNumber number = true := by decide
      exact Validation.hasNumeral_of_isFieldNumber (usable _ (Option.some.inj allNumbers ▸ among))
    refine law.2.1.mpr ⟨scanned.mpr ⟨small, List.forall_mem_nil _⟩, ?_⟩
    refine .fieldNumber List.mem_cons_self rfl List.mem_cons_self planned ?_
    intro sound
    exact absurd (repeated ▸ sound.distinct) (by decide)
  · have generated : (generate mixedContext (unitOf mixedType)).toOption.map (fun _ => ()) =
        some () := by
      decide +kernel
    have count : (mixedContext.messagePlans (unitOf mixedType).composites).toOption.map
        List.length = some 1 := by
      decide +kernel
    rcases exists_of_toOption_map generated with ⟨text, written, _⟩
    rcases exists_of_toOption_map count with ⟨plans, planned, length⟩
    rcases (validation_exact mixedContext (unitOf mixedType)).2.2 text written with
      ⟨_, messages, _, _, again, _, shown, _, safe⟩
    cases planned.symm.trans again
    exact ⟨text, plans, messages, written, planned, length, shown, safe⟩

section

open Validation

private theorem isTyped_pairType : pairType.IsTyped where
  name := Value.isText_text _
  notes := rfl
  fields := by
    intro field member
    simp only [pairType, List.mem_cons, List.not_mem_nil, or_false] at member
    rcases member with rfl | rfl <;> exact ⟨Value.isText_text _, Value.isText_text _, rfl⟩
  typeParams := by rintro param ⟨⟩

/-- The scan stops at the first message, since the number of its second field is too long for a
finding. -/
private theorem findings_pairType {plan : MessagePlan}
    (planned : pairContext.plan pairType (.text "User") = .ok plan)
    (long : ¬plan.HasNumerals pairContext.options) :
    findings pairContext (unitOf pairType) = .error .badContent := by
  have names : writtenNames pairType = .ok [.text "User"] := rfl
  have composites : (unitOf pairType).composites = [pairType] := rfl
  rw [findings, composites, compositeFindings, names, ok_bind, messagesFindings,
    messageFindings_eq_error rfl planned long, error_bind, error_bind, error_bind]

/-- A unit with a number that is too long has a defect, and it is not refused for it: the validation
fails before. -/
theorem check_pairType :
    Validation.pairContext.IsTyped ∧ (unitOf Validation.pairType).IsTyped ∧
      Validation.Defect Validation.pairContext (unitOf Validation.pairType) ∧
      Validation.check Validation.pairContext (unitOf Validation.pairType) =
        .error (.ofShape .badContent) := by
  rcases exists_plan_pairType with ⟨plan, planned, -, long⟩
  have contextTyped : pairContext.IsTyped :=
    SchemaContext.of_isTyped (Model.isTyped_single isTyped_pairType)
      (Options.isTyped_of_empty rfl rfl)
  have defect : Defect pairContext (unitOf pairType) :=
    .fieldNumber List.mem_cons_self rfl List.mem_cons_self planned
      fun sound => long (hasNumerals_of_isSound sound _)
  refine ⟨contextTyped, (isTyped_of_single isTyped_pairType).2, defect, ?_⟩
  rw [check, findings_pairType planned long]
  rfl

end

end ProtoText

end WireSchema
