import Mathlib.Data.Finset.Card
import Mathlib.Data.List.Induction
import WireSchema.Proofs.Schema.Naming
import WireSchema.Proofs.Validation.Scan

namespace WireSchema

/-!
# What is reported of one message

The scan over the fields of a message carries the numbers it has met, each with the field that had
it first.  What it reports is said here without the scan, from the list of fields as a whole: a
field whose number stands earlier in the list is reported once, with the name of the first field
that has the number, and every other report is made of each field by itself.  The induction on the
scan is from the end, one field at a time, because the fields before a field decide on it.
-/

open Asked

/-! ## Subjects -/

/-- What a finding on one message is about; findings that are not on one message are about something
else. -/
inductive Finding.Subject where
  | sharedNumber
  | reservedNumber
  | unusableNumber
  | keyType
  | emptyMessage
  | other
deriving DecidableEq, Repr

namespace Finding

def subject : Finding → Subject
  | duplicateNumber .. => .sharedNumber
  | reservedNumber .. => .reservedNumber
  | numberOutOfRange .. => .unusableNumber
  | numberInBand .. => .unusableNumber
  | unsupportedKey .. => .keyType
  | noFields _ => .emptyMessage
  | _ => .other

/-- The findings about a subject, in order. -/
def about (subject : Subject) (found : List Finding) : List Finding :=
  found.filter (·.subject == subject)

/-- What is shown of a finding: how serious it is, where it was made and what
was found.  The rest of a finding tells which kind it is and is not shown. -/
def shown (finding : Finding) : Severity × String × String :=
  (finding.severity, finding.location, finding.message)

theorem message_numberOutOfRange (message field number : String) :
    (numberOutOfRange message field number).message =
      "field number " ++ number ++ " is out of valid range (1-536870911)" := by
  have least : toString minFieldNumber = "1" := by decide +kernel
  have greatest : toString maxFieldNumber = "536870911" := by decide +kernel
  have bounds : " is out of valid range (" ++ ("1" ++ ("-" ++ ("536870911" ++ ")"))) =
      " is out of valid range (1-536870911)" := by
    decide +kernel
  calc (numberOutOfRange message field number).message
      = "field number " ++ number ++ " is out of valid range (" ++ toString minFieldNumber ++ "-"
          ++ toString maxFieldNumber ++ ")" := rfl
    _ = "field number " ++ number ++ " is out of valid range (1-536870911)" := by
        rw [least, greatest, ← bounds]
        simp only [String.append_assoc]

theorem about_append (subject : Subject) (found further : List Finding) :
    about subject (found ++ further) = about subject found ++ about subject further :=
  List.filter_append ..

/-- Findings that are all about one subject. -/
theorem about_of_forall {subject own : Subject} {found : List Finding}
    (all : ∀ finding ∈ found, finding.subject = own) :
    about subject found = if own = subject then found else [] := by
  rw [about]
  split
  · rename_i same
    rw [List.filter_eq_self]
    intro finding member
    rw [all finding member, same, beq_self_eq_true]
  · rename_i different
    rw [List.filter_eq_nil_iff]
    intro finding member
    rw [all finding member, beq_iff_eq]
    exact different

theorem about_singleton (subject : Subject) (finding : Finding) :
    about subject [finding] = if finding.subject = subject then [finding] else [] :=
  about_of_forall fun _ member => congrArg Finding.subject (List.mem_singleton.mp member)

/-- A finding that is reported on a condition. -/
theorem about_ite (subject : Subject) (condition : Prop) [Decidable condition] (finding : Finding) :
    about subject (if condition then [finding] else []) =
      if finding.subject = subject then if condition then [finding] else [] else [] := by
  by_cases holds : condition
  · rw [if_pos holds, about_singleton]
  · rw [if_neg holds, ite_self]
    rfl

theorem about_unless (subject : Subject) (condition : Prop) [Decidable condition]
    (finding : Finding) :
    about subject (if condition then [] else [finding]) =
      if finding.subject = subject then if condition then [] else [finding] else [] := by
  rw [← ite_not, about_ite, ite_not]

end Finding

/-! ## Holders of a number -/

/-- The fields that have the number of an earlier field, in order.  The first
holder of a number is none of them: it is the one that the reports refer to. -/
def laterHolders (fields : List PlannedField) : List PlannedField :=
  (fields.zipIdx.filter fun entry =>
    ((fields.take entry.2).map (·.number)).contains entry.1.number).map (·.1)

/-- The name of the first field that has a number. -/
def firstHolder (fields : List PlannedField) (number : Int) : String :=
  ((fields.find? (·.number == number)).map (·.field.name.display)).getD ""

section Holders

variable {fields : List PlannedField} {planned : PlannedField}

theorem laterHolders_concat (fields : List PlannedField) (planned : PlannedField) :
    laterHolders (fields ++ [planned]) =
      laterHolders fields ++
        if (fields.map (·.number)).contains planned.number then [planned] else [] := by
  -- The places before the last one see the same fields before them.
  have earlier : (fields.zipIdx.filter fun entry =>
      (((fields ++ [planned]).take entry.2).map (·.number)).contains entry.1.number) =
      fields.zipIdx.filter fun entry =>
        ((fields.take entry.2).map (·.number)).contains entry.1.number := by
    apply List.filter_congr
    rintro ⟨field, place⟩ member
    have inside : place < fields.length := (List.mem_zipIdx' member).1
    rw [List.take_append_of_le_length (Nat.le_of_lt inside)]
  rw [laterHolders, List.zipIdx_append, List.filter_append, List.map_append, earlier, laterHolders]
  congr 1
  simp only [List.zipIdx_cons, List.zipIdx_nil, Nat.zero_add, List.filter_singleton,
    List.take_left]
  cases (fields.map (·.number)).contains planned.number <;> rfl

theorem number_mem_of_mem_laterHolders (member : planned ∈ laterHolders fields) :
    planned.number ∈ fields.map (·.number) := by
  rcases List.mem_map.mp member with ⟨⟨field, place⟩, among, rfl⟩
  have shared := (List.mem_filter.mp among).2
  rw [List.contains_iff_mem] at shared
  exact List.map_subset _ (List.take_subset place fields) shared

/-- A number that some field has keeps its first holder when a field is added. -/
theorem firstHolder_concat {number : Int} (held : number ∈ fields.map (·.number))
    (planned : PlannedField) :
    firstHolder (fields ++ [planned]) number = firstHolder fields number := by
  rcases List.mem_map.mp held with ⟨holder, member, same⟩
  have found : (fields.find? (·.number == number)).isSome = true := by
    rw [List.find?_isSome]
    exact ⟨holder, member, beq_iff_eq.mpr same⟩
  rcases Option.isSome_iff_exists.mp found with ⟨first, own⟩
  rw [firstHolder, firstHolder, List.find?_append, own, Option.some_or]

/-- There are as many later holders as there are fields above the number of numbers. -/
theorem length_laterHolders (fields : List PlannedField) :
    (laterHolders fields).length + (fields.map (·.number)).toFinset.card = fields.length := by
  induction fields using List.reverseRecOn with
  | nil => rfl
  | append_singleton fields planned ih =>
      rw [laterHolders_concat, List.map_append, List.map_singleton, List.toFinset_append,
        List.length_append, List.length_append, ← ih]
      by_cases held : planned.number ∈ fields.map (·.number)
      · have inside : [planned.number].toFinset ⊆ (fields.map (·.number)).toFinset := by
          simpa using held
        rw [if_pos (List.contains_iff_mem.mpr held), Finset.union_eq_left.mpr inside]
        simp only [List.length_singleton]
        omega
      · have apart : planned.number ∉ (fields.map (·.number)).toFinset := by
          simpa using held
        have grows : ((fields.map (·.number)).toFinset ∪ [planned.number].toFinset).card =
            (fields.map (·.number)).toFinset.card + 1 := by
          rw [Finset.union_comm, List.toFinset_cons, List.toFinset_nil, insert_empty_eq,
            ← Finset.insert_eq, Finset.card_insert_of_notMem apart]
        rw [if_neg (mt List.contains_iff_mem.mp held), grows]
        simp only [List.length_nil, List.length_singleton]
        omega

end Holders

namespace Validation

/-! ## The scan over the fields -/

variable {options : Options} {message : String} {reserved : List Int}

def owner (planned : PlannedField) : Int × String :=
  (planned.number, planned.field.name.display)

/-- A scan goes on with the fields that it has met as owners. -/
theorem fieldFindings_append (owners : List (Int × String)) (fields others : List PlannedField) :
    fieldFindings options message reserved owners (fields ++ others) =
      fieldFindings options message reserved owners fields ++
        fieldFindings options message reserved (owners ++ fields.map owner) others := by
  induction fields generalizing owners with
  | nil => rw [List.nil_append, List.map_nil, List.append_nil, fieldFindings, List.nil_append]
  | cons planned fields ih =>
      rw [List.cons_append, fieldFindings, fieldFindings, ih, List.append_assoc, List.map_cons,
        List.append_assoc, List.singleton_append]
      rfl

/-- Reports that do not depend on owners are made of each field by itself. -/
theorem about_fieldFindings {subject : Finding.Subject} {concerns : PlannedField → Bool}
    {report : PlannedField → Finding}
    (single : ∀ owners planned,
      Finding.about subject (numberFindings options message reserved owners planned) =
        if concerns planned then [report planned] else [])
    (owners : List (Int × String)) (fields : List PlannedField) :
    Finding.about subject (fieldFindings options message reserved owners fields) =
      (fields.filter concerns).map report := by
  induction fields generalizing owners with
  | nil => rfl
  | cons planned fields ih =>
      rw [fieldFindings, Finding.about_append, single, ih, List.filter_cons]
      cases concerns planned with
      | true => rfl
      | false => rfl

/-- The report of a field that has the number of an earlier one.  It names the
first field with this number, even when a nearer one has it too. -/
def sharedReport (options : Options) (message : String) (fields : List PlannedField)
    (planned : PlannedField) : Finding :=
  .duplicateNumber message planned.field.name.display (planned.writtenNumber options).display
    (firstHolder fields planned.number)

/-- The findings on one field about a subject, part by part. -/
theorem about_numberFindings (subject : Finding.Subject) (owners : List (Int × String))
    (planned : PlannedField) :
    Finding.about subject (numberFindings options message reserved owners planned) =
      (if .sharedNumber = subject then
        (((owners.find? (·.1 == planned.number)).map (·.2)).map
          (.duplicateNumber message planned.field.name.display
            (planned.writtenNumber options).display)).toList else [])
        ++ (if .reservedNumber = subject then
          if reserved.contains planned.number then
            [.reservedNumber message planned.field.name.display
              (planned.writtenNumber options).display] else [] else [])
        ++ (if .unusableNumber = subject then
          if isFieldNumber planned.number then [] else
            [.numberOutOfRange message planned.field.name.display
              (planned.writtenNumber options).display] else [])
        ++ (if .unusableNumber = subject then
          if isBandNumber planned.number then
            [.numberInBand message planned.field.name.display
              (planned.writtenNumber options).display] else [] else []) := by
  have owned : ∀ finding ∈ ((owners.find? (·.1 == planned.number)).map fun holder =>
      Finding.duplicateNumber message planned.field.name.display
        (planned.writtenNumber options).display holder.2).toList,
      finding.subject = .sharedNumber := by
    intro finding member
    rcases Option.map_eq_some_iff.mp (Option.mem_toList.mp member) with ⟨holder, _, rfl⟩
    rfl
  rw [numberFindings, Finding.about_append, Finding.about_append, Finding.about_append,
    Finding.about_of_forall owned, Finding.about_ite, Finding.about_unless, Finding.about_ite,
    Option.map_map]
  rfl

/-- A number that has a holder has one of that name. -/
theorem find?_map_owner (fields : List PlannedField) (number : Int) :
    ((fields.map owner).find? (·.1 == number)).map (·.2) =
      if (fields.map (·.number)).contains number then
        some (firstHolder fields number) else none := by
  have alike : (fun held : Int × String => held.1 == number) ∘ owner =
      fun field => field.number == number := rfl
  rw [List.find?_map, alike, firstHolder]
  cases found : fields.find? (·.number == number) with
  | none =>
      have absent : number ∉ fields.map (·.number) := by
        intro member
        rcases List.mem_map.mp member with ⟨field, among, same⟩
        exact List.find?_eq_none.mp found field among (beq_iff_eq.mpr same)
      rw [if_neg (mt List.contains_iff_mem.mp absent)]
      rfl
  | some first =>
      have held : number ∈ fields.map (·.number) := by
        have same : first.number = number := by simpa using List.find?_some found
        exact List.mem_map.mpr ⟨first, List.mem_of_find?_eq_some found, same⟩
      rw [if_pos (List.contains_iff_mem.mpr held)]
      rfl

/-- What is reported of a field on account of the fields before it. -/
theorem about_sharedNumber_numberFindings (fields : List PlannedField) (planned : PlannedField) :
    Finding.about .sharedNumber
        (numberFindings options message reserved (fields.map owner) planned) =
      if (fields.map (·.number)).contains planned.number then
        [sharedReport options message fields planned] else [] := by
  rw [about_numberFindings, if_pos rfl, find?_map_owner]
  cases (fields.map (·.number)).contains planned.number with
  | true => rfl
  | false => rfl

/-- Each later holder of a number is reported once, with the first holder. -/
theorem about_sharedNumber_fieldFindings (fields : List PlannedField) :
    Finding.about .sharedNumber (fieldFindings options message reserved [] fields) =
      (laterHolders fields).map (sharedReport options message fields) := by
  induction fields using List.reverseRecOn with
  | nil => rfl
  | append_singleton fields planned ih =>
      have last : fieldFindings options message reserved (fields.map owner) [planned] =
          numberFindings options message reserved (fields.map owner) planned := by
        rw [fieldFindings, fieldFindings, List.append_nil]
      have kept : (laterHolders fields).map (sharedReport options message fields) =
          (laterHolders fields).map (sharedReport options message (fields ++ [planned])) := by
        apply List.map_congr_left
        intro field member
        rw [sharedReport, sharedReport, firstHolder_concat (number_mem_of_mem_laterHolders member)]
      rw [fieldFindings_append, List.nil_append, last, Finding.about_append, ih,
        about_sharedNumber_numberFindings, laterHolders_concat, List.map_append, kept]
      congr 1
      split
      · rename_i held
        rw [List.map_singleton, sharedReport, sharedReport,
          firstHolder_concat (List.contains_iff_mem.mp held)]
      · rfl

/-! ## Reports on each field by itself -/

theorem about_reservedNumber_numberFindings (owners : List (Int × String))
    (planned : PlannedField) :
    Finding.about .reservedNumber (numberFindings options message reserved owners planned) =
      if reserved.contains planned.number then
        [.reservedNumber message planned.field.name.display
          (planned.writtenNumber options).display] else [] := by
  simp [about_numberFindings]

/-- A number that no field may have: out of the range of numbers or in the band. -/
def isUnusable (number : Int) : Bool :=
  !isFieldNumber number || isBandNumber number

theorem isUnusable_iff {number : Int} :
    isUnusable number = true ↔
      ¬(1 ≤ number ∧ number ≤ 536870911) ∨ 19000 ≤ number ∧ number ≤ 19999 := by
  rw [isUnusable, Bool.or_eq_true, Bool.not_eq_true', ← Bool.not_eq_true, isFieldNumber_iff,
    isBandNumber_iff]

/-- The report of a field whose number is unusable.  A number is never both out
of the range and in the band, so one report is enough. -/
def unusableReport (options : Options) (message : String) (planned : PlannedField) : Finding :=
  if isFieldNumber planned.number then
    .numberInBand message planned.field.name.display (planned.writtenNumber options).display
  else .numberOutOfRange message planned.field.name.display (planned.writtenNumber options).display

/-- The band lies in the range, so a number has one of the two reports at most. -/
theorem about_unusableNumber_numberFindings (owners : List (Int × String))
    (planned : PlannedField) :
    Finding.about .unusableNumber (numberFindings options message reserved owners planned) =
      if isUnusable planned.number then [unusableReport options message planned] else [] := by
  have inRange : isBandNumber planned.number = true → isFieldNumber planned.number = true := by
    rw [isBandNumber_iff, isFieldNumber_iff]
    omega
  rw [isUnusable, unusableReport]
  cases field : isFieldNumber planned.number with
  | true => cases band : isBandNumber planned.number <;> simp [about_numberFindings, field, band]
  | false =>
      have band : isBandNumber planned.number = false :=
        Bool.eq_false_iff.mpr fun band => by simp [inRange band] at field
      simp [about_numberFindings, field, band]

theorem about_other_numberFindings {subject : Finding.Subject}
    (other : subject ≠ .sharedNumber ∧ subject ≠ .reservedNumber ∧ subject ≠ .unusableNumber)
    (owners : List (Int × String)) (planned : PlannedField) :
    Finding.about subject (numberFindings options message reserved owners planned) = [] := by
  simp [about_numberFindings, other.1.symm, other.2.1.symm, other.2.2.symm]

theorem about_other_fieldFindings {subject : Finding.Subject}
    (other : subject ≠ .sharedNumber ∧ subject ≠ .reservedNumber ∧ subject ≠ .unusableNumber)
    (owners : List (Int × String)) (fields : List PlannedField) :
    Finding.about subject (fieldFindings options message reserved owners fields) = [] := by
  induction fields generalizing owners with
  | nil => rfl
  | cons planned fields ih =>
      rw [fieldFindings, Finding.about_append, about_other_numberFindings other, ih,
        List.append_nil]

/-! ## A message as a whole -/

/-- What is shown of a finding on a field of a message. -/
def onField (severity : Severity) (message : String) (planned : PlannedField) (text : String) :
    Severity × String × String :=
  (severity, "message " ++ message ++ ", field " ++ planned.field.name.display, text)

/-- The findings on one message, subject by subject and in order: how serious each one is, where it
was made and what was found. -/
structure Reports (options : Options) (plan : MessagePlan) (message : String)
    (found : List Finding) : Prop where
  /-- A field with the number of an earlier field is reported, with the first field that has it. -/
  shared : (Finding.about .sharedNumber found).map Finding.shown =
    (laterHolders plan.fields).map fun planned =>
      onField .error message planned ("duplicate field number "
        ++ (planned.writtenNumber options).display ++ " (also used by field '"
        ++ firstHolder plan.fields planned.number ++ "')")
  /-- There are as many such reports as fields above the number of numbers. -/
  shared_length : (Finding.about .sharedNumber found).length
    + (plan.fields.map (·.number)).toFinset.card = plan.fields.length
  /-- A field with a reserved number is reported. -/
  reserved : (Finding.about .reservedNumber found).map Finding.shown =
    (plan.fields.filter fun planned => planned.number ∈ plan.reservedNumbers).map fun planned =>
      onField .error message planned ("field number " ++ (planned.writtenNumber options).display
        ++ " is reserved")
  /-- A field whose number is out of the range, or else in the band, is reported. -/
  unusable : (Finding.about .unusableNumber found).map Finding.shown =
    (plan.fields.filter fun planned =>
        ¬(1 ≤ planned.number ∧ planned.number ≤ 536870911) ∨
          19000 ≤ planned.number ∧ planned.number ≤ 19999).map fun planned =>
      onField .error message planned ("field number " ++ (planned.writtenNumber options).display
        ++ if 1 ≤ planned.number ∧ planned.number ≤ 536870911 then
          " is in reserved range 19000-19999" else " is out of valid range (1-536870911)")
  /-- A map that cannot be written is worth a warning. -/
  keyTypes : (Finding.about .keyType found).map Finding.shown =
    plan.unsupported.map fun field =>
      (.warning, "message " ++ message ++ ", field " ++ field.name.display,
        "map key type '" ++ keyTypeText field.type
          ++ "' is not a valid protobuf map key; field skipped")
  /-- It is worth knowing that a message has no fields. -/
  empty : (Finding.about .emptyMessage found).map Finding.shown =
    if plan.fields = [] then [(.info, "message " ++ message, "message has no fields")] else []
  /-- Nothing else is reported. -/
  others : Finding.about .other found = []

variable {plan : MessagePlan}

theorem about_planFindings (subject : Finding.Subject) :
    Finding.about subject (planFindings options plan) =
      (if .keyType = subject then
        plan.unsupported.map fun field =>
          .unsupportedKey plan.name.display field.name.display (keyTypeText field.type) else [])
        ++ Finding.about subject
          (fieldFindings options plan.name.display plan.reservedNumbers [] plan.fields)
        ++ (if .emptyMessage = subject then
          if plan.fields.isEmpty then [.noFields plan.name.display] else [] else []) := by
  have keyTypes : ∀ finding ∈ plan.unsupported.map (fun field =>
      Finding.unsupportedKey plan.name.display field.name.display (keyTypeText field.type)),
      finding.subject = .keyType := by
    intro finding member
    rcases List.mem_map.mp member with ⟨field, _, rfl⟩
    rfl
  rw [planFindings, Finding.about_append, Finding.about_append, Finding.about_of_forall keyTypes,
    Finding.about_ite]
  rfl

theorem reports_planFindings (options : Options) (plan : MessagePlan) :
    Reports options plan plan.name.display (planFindings options plan) where
  shared := by
    rw [about_planFindings, about_sharedNumber_fieldFindings, if_neg (by decide),
      if_neg (by decide), List.nil_append, List.append_nil, List.map_map]
    rfl
  shared_length := by
    rw [about_planFindings, about_sharedNumber_fieldFindings, if_neg (by decide),
      if_neg (by decide), List.nil_append, List.append_nil, List.length_map, length_laterHolders]
  reserved := by
    rw [about_planFindings, about_fieldFindings about_reservedNumber_numberFindings,
      if_neg (by decide), if_neg (by decide), List.nil_append, List.append_nil, List.map_map]
    simp only [List.contains_eq_mem]
    rfl
  unusable := by
    have concerns : isUnusable = fun number => decide
        (¬(1 ≤ number ∧ number ≤ 536870911) ∨ 19000 ≤ number ∧ number ≤ 19999) := by
      funext number
      rw [Bool.eq_iff_iff, isUnusable_iff, decide_eq_true_eq]
    rw [about_planFindings, about_fieldFindings about_unusableNumber_numberFindings,
      if_neg (by decide), if_neg (by decide), List.nil_append, List.append_nil, List.map_map,
      concerns]
    apply List.map_congr_left
    intro planned _
    rw [Function.comp_apply, unusableReport, onField]
    by_cases range : 1 ≤ planned.number ∧ planned.number ≤ 536870911
    · rw [if_pos (isFieldNumber_iff.mpr range), if_pos range]
      rfl
    · rw [if_neg (mt isFieldNumber_iff.mp range), if_neg range, Finding.shown,
        Finding.message_numberOutOfRange]
      rfl
  keyTypes := by
    rw [about_planFindings, about_other_fieldFindings (by decide), if_pos rfl, if_neg (by decide),
      List.append_nil, List.append_nil, List.map_map]
    rfl
  empty := by
    rw [about_planFindings, about_other_fieldFindings (by decide), if_neg (by decide), if_pos rfl,
      List.nil_append, List.nil_append]
    cases plan.fields with
    | nil => rfl
    | cons planned fields => rfl
  others := by
    rw [about_planFindings, about_other_fieldFindings (by decide), if_neg (by decide),
      if_neg (by decide)]
    rfl

/-- The validation of a message is exact.  A message of a typed composite type has a plan in a typed
context.  There are findings on a message with a plan when its name can be compared and the numbers
of its fields can be written; and they are that its name is taken, if it is, and then those on its
plan: one for each field with the number of an earlier one, made at that field and with the first
field that has the number; one for each field with a reserved number; one for each field with a
number that no field may have; one for each map that cannot be written; and one if there is no
field. -/
theorem messageFindings_exact (context : SchemaContext) (composite : Composite) (message : Value) :
    (context.IsTyped → composite.IsTyped → (context.plan composite message).Succeeds) ∧
      ∀ plan, context.plan composite message = .ok plan →
        Reports context.options plan message.display (planFindings context.options plan) ∧
          ∀ seen,
            ((messageFindings context composite seen message).Succeeds ↔
              message.isKey = true ∧ plan.HasNumerals context.options) ∧
            ∀ found, messageFindings context composite seen message = .ok found →
              found = (if seen.contains message then
                  [.duplicateMessage composite.name.display message.display] else [])
                ++ planFindings context.options plan := by
  refine ⟨fun contextTyped typed => context.succeeds_plan contextTyped typed message, ?_⟩
  intro plan planned
  constructor
  · have named : plan.name = message := by
      rcases bind_eq_ok_iff.mp planned with ⟨statements, _, rest⟩
      rcases bind_eq_ok_iff.mp rest with ⟨fields, _, rest⟩
      rcases bind_eq_ok_iff.mp rest with ⟨outcomes, _, final⟩
      cases final
      rfl
    rw [← named]
    exact reports_planFindings context.options plan
  · intro seen
    refine ⟨⟨?_, ?_⟩, ?_⟩
    · rintro ⟨found, result⟩
      rcases messageFindings_eq_ok_iff.mp result with ⟨isKey, again, own, short, -⟩
      cases planned.symm.trans own
      exact ⟨isKey, short⟩
    · rintro ⟨isKey, short⟩
      exact ⟨_, messageFindings_eq_ok_iff.mpr ⟨isKey, plan, planned, short, rfl⟩⟩
    · intro found result
      rcases messageFindings_eq_ok_iff.mp result with ⟨-, again, own, -, final⟩
      cases planned.symm.trans own
      exact final

/-- A field with a number that is too long is in the plan and is not reported. -/
theorem messageFindings_pairType :
    ∃ plan, pairContext.plan pairType (.text "User") = .ok plan ∧
      plan.fields.map (·.number) = [longestNumber, longestNumber + 1] ∧
      messageFindings pairContext pairType [] (.text "User") = .error .badContent := by
  rcases exists_plan_pairType with ⟨plan, planned, numbers, long⟩
  exact ⟨plan, planned, numbers, messageFindings_eq_error rfl planned long⟩
/-- A type with three fields of one number, with a reserved number in use, with numbers in the band
and out of the range, and with a map that cannot be written. -/
def crowdedType : Composite where
  name := .text "User"
  annotations := [{ name := .text "reserved", params := [("numbers", .text "7")] }]
  fields :=
    [{ name := .text "Id", type := .named "int64" "" },
      { name := .text "Mail", type := .named "string" ""
        annotations := [{ name := .text "field", params := [("number", .text "1")] }] },
      { name := .text "Scores", type := .mapping (.named "float64" "") (.named "string" "") },
      { name := .text "Phone", type := .named "string" ""
        annotations := [{ name := .text "field", params := [("number", .text "1")] }] },
      { name := .text "Old", type := .named "string" ""
        annotations := [{ name := .text "field", params := [("number", .text "7")] }] },
      { name := .text "Band", type := .named "string" ""
        annotations := [{ name := .text "field", params := [("number", .text "19500")] }] },
      { name := .text "Big", type := .named "string" ""
        annotations := [{ name := .text "field", params := [("number", .text "536870912")] }] }]

def crowdedContext : SchemaContext :=
  .of { composites := [crowdedType] } {}

private theorem isTyped_crowdedType : crowdedType.IsTyped where
  name := Value.isText_text _
  notes := rfl
  fields := by
    intro field member
    simp only [crowdedType, List.mem_cons, List.not_mem_nil, or_false] at member
    rcases member with rfl | rfl | rfl | rfl | rfl | rfl | rfl <;>
      exact ⟨Value.isText_text _, Value.isText_text _, rfl⟩
  typeParams := by rintro param ⟨⟩

/-- Both later holders of the number are reported with the first one. -/
theorem messageFindings_exact_crowdedType :
    ∃ plan, crowdedContext.plan crowdedType (.text "User") = .ok plan ∧
      (Finding.about .sharedNumber (planFindings crowdedContext.options plan)).map Finding.shown =
        [(.error, "message User, field Mail",
            "duplicate field number 1 (also used by field 'Id')"),
          (.error, "message User, field Phone",
            "duplicate field number 1 (also used by field 'Id')")] ∧
      (planFindings crowdedContext.options plan).length = 6 := by
  have law := messageFindings_exact crowdedContext crowdedType (.text "User")
  have contextTyped : crowdedContext.IsTyped :=
    SchemaContext.of_isTyped (Model.isTyped_single isTyped_crowdedType)
      (Options.isTyped_of_empty rfl rfl)
  rcases law.1 contextTyped isTyped_crowdedType with ⟨plan, planned⟩
  have evaluated : (crowdedContext.plan crowdedType (.text "User")).toOption.map (fun plan =>
      ((laterHolders plan.fields).map fun planned =>
          onField .error "User" planned ("duplicate field number "
            ++ (planned.writtenNumber crowdedContext.options).display ++ " (also used by field '"
            ++ firstHolder plan.fields planned.number ++ "')"),
        (planFindings crowdedContext.options plan).length)) =
      some ([(.error, "message User, field Mail",
            "duplicate field number 1 (also used by field 'Id')"),
          (.error, "message User, field Phone",
            "duplicate field number 1 (also used by field 'Id')")], 6) := by
    decide +kernel
  rw [planned] at evaluated
  rcases Prod.mk.inj (Option.some.inj evaluated) with ⟨shared, length⟩
  exact ⟨plan, planned, (law.2 plan planned).1.shared.trans shared, length⟩

end Validation

end WireSchema
