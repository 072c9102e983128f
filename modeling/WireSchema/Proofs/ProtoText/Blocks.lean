import WireSchema.Proofs.Schema.NumberText
import WireSchema.ProtoText.Block

namespace WireSchema.ProtoText

/-!
# What a block of the schema text consists of

A block is said here by its lines alone, and not by the functions that make them: which lines a
field has, how its number stands there, and how the statement of reserved numbers is put together.
What is left open are the parts on which no property of numbers and names depends, which are the
comments, the types and the options of fields.

The second half takes a block apart.  Writing fails as soon as one number of the message has too
many digits, so a block that is there has the text of every number.
-/

open Asked

/-! ## Lines -/

/-- How the number of a field stands in its line: in digits.  The first automatic number is printed
as the options give it, so that a truth value stands there as a word although it counts as one. -/
def IsNumberText (options : Options) (isExplicit : Bool) (number : Int) (text : String) : Prop :=
  text = if isExplicit = false ∧ number = options.startNumber then options.startFieldNumber.display
    else toString number

/-- How a reserved number stands in a line.  The number of a field that is left out is printed like
the number of a field that is kept. -/
def IsReservedText (options : Options) (number : Int) (text : String) : Prop :=
  ∃ isExplicit, IsNumberText options isExplicit number text

/-- The lines of a field: its description, and one declaration with its name and
its number.  The text of the number is related to the number itself, not to a
function that writes it. -/
def AreFieldLines (options : Options) (planned : PlannedField) (lines : List String) : Prop :=
  ∃ type number, declaredType options planned = .ok type ∧
    IsNumberText options planned.isExplicit planned.number number ∧
    lines = commentLines "  " planned.description ++
      ["  " ++ type ++ " " ++ planned.name ++ " = " ++ number ++
        optionSuffix planned.options ++ ";"]

/-- A run in a statement of reserved numbers: one number, two numbers, or the
ends of a range.  Two numbers in succession are listed, and only more of them are
a range. -/
def IsRunText (options : Options) (run : NumberRun) (text : String) : Prop :=
  ∃ first last, IsReservedText options run.first first ∧ IsReservedText options run.last last ∧
    text = if run.first = run.last then first
      else if run.last = run.first + 1 then first ++ ", " ++ last
      else first ++ " to " ++ last

/-- The statement of a message's reserved numbers, in one line if there are any.
The runs are those of all reserved numbers, whether they are declared or those
of retired fields. -/
def AreReservedLines (options : Options) (plan : MessagePlan) (lines : List String) : Prop :=
  if plan.reservedNumbers = [] then lines = []
  else ∃ texts, List.Forall₂ (IsRunText options) (runsOf plan.reservedNumbers) texts ∧
    lines = ["  reserved " ++ String.intercalate ", " texts ++ ";"]

/-- The block of a message.  It opens under the name of the message; the lines of the fields come
first, in order, and what is reserved behind them. -/
def IsBlockOf (options : Options) (plan : MessagePlan) (block : String) : Prop :=
  ∃ fields reserved, List.Forall₂ (AreFieldLines options) plan.fields fields ∧
    AreReservedLines options plan reserved ∧
    block = String.intercalate "\n" (commentLines "" plan.description
      ++ ["message " ++ plan.name.display ++ " \x7b"] ++ fields.flatten ++ reserved
      ++ reservedNameLines plan ++ ["\x7d"]) ++ "\n\n"

/-! ## Taking a block apart -/

section

variable {options : Options} {planned : PlannedField} {plan : MessagePlan}

theorem exists_of_fieldLine {line : String} (written : fieldLine options planned = .ok line) :
    ∃ type, declaredType options planned = .ok type ∧
      line = "  " ++ type ++ " " ++ planned.name ++ " = "
        ++ (planned.writtenNumber options).display ++ optionSuffix planned.options ++ ";" := by
  rcases bind_eq_ok_iff.mp written with ⟨type, typed, rest⟩
  rcases bind_eq_ok_iff.mp rest with ⟨number, numbered, final⟩
  cases final
  exact ⟨type, typed, by rw [(Value.askNumeral_eq_ok_iff.mp numbered).2]⟩

theorem exists_of_fieldLines {lines : List String}
    (written : fieldLines options planned = .ok lines) :
    ∃ line, fieldLine options planned = .ok line ∧
      lines = commentLines "  " planned.description ++ [line] := by
  rcases bind_eq_ok_iff.mp written with ⟨line, own, final⟩
  cases final
  exact ⟨line, own, rfl⟩

theorem exists_of_messageLines {lines : List String}
    (written : messageLines options plan = .ok lines) :
    ∃ fields reserved, plan.fields.mapM (fieldLines options) = .ok fields ∧
      reservedNumberLines options plan = .ok reserved ∧
      lines = commentLines "" plan.description ++ ["message " ++ plan.name.display ++ " \x7b"]
        ++ fields.flatten ++ reserved ++ reservedNameLines plan ++ ["\x7d"] := by
  rcases bind_eq_ok_iff.mp written with ⟨fields, each, rest⟩
  rcases bind_eq_ok_iff.mp rest with ⟨reserved, stated, final⟩
  cases final
  exact ⟨fields, reserved, each, stated, rfl⟩

theorem exists_of_messageBlock {block : String} (written : messageBlock options plan = .ok block) :
    ∃ lines, messageLines options plan = .ok lines ∧ block = blockText lines := by
  rcases bind_eq_ok_iff.mp written with ⟨lines, listed, final⟩
  cases final
  exact ⟨lines, listed, rfl⟩

/-- The statement of a message's reserved numbers is none, or one line with the texts of its
runs. -/
theorem of_reservedNumberLines {lines : List String}
    (written : reservedNumberLines options plan = .ok lines) :
    lines = if plan.reservedNumbers = [] then []
      else ["  reserved " ++ String.intercalate ", " (plan.rangeTexts options) ++ ";"] := by
  unfold reservedNumberLines at written
  split at written
  · rename_i none
    cases written
    rw [if_pos (List.isEmpty_iff.mp none)]
  · rename_i some
    rcases bind_eq_ok_iff.mp written with ⟨texts, ranges, final⟩
    cases final
    rw [if_neg (mt List.isEmpty_iff.mpr some), MessagePlan.eq_rangeTexts_of_reservedRanges ranges]

/-! ## Blocks that are written -/

theorem isNumberText_writtenNumber (isExplicit : Bool) (number : Int) :
    IsNumberText options isExplicit number (options.writtenNumber isExplicit number).display := by
  have condition : (!isExplicit && number == options.startNumber) = true ↔
      isExplicit = false ∧ number = options.startNumber := by
    simp
  rw [IsNumberText, Options.writtenNumber]
  by_cases first : isExplicit = false ∧ number = options.startNumber
  · rw [if_pos first, if_pos (condition.mpr first)]
  · rw [if_neg first, if_neg (mt condition.mp first)]
    rfl

theorem isReservedText_writtenReserved (number : Int) :
    IsReservedText options number (plan.writtenReserved options number).display := by
  have digits : IsNumberText options true number (Value.int number).display :=
    isNumberText_writtenNumber true number
  unfold MessagePlan.writtenReserved
  split
  · exact ⟨true, digits⟩
  · split
    · exact ⟨_, isNumberText_writtenNumber _ number⟩
    · exact ⟨true, digits⟩

theorem areFieldLines_of_fieldLines {lines : List String}
    (written : fieldLines options planned = .ok lines) : AreFieldLines options planned lines := by
  rcases exists_of_fieldLines written with ⟨line, own, rfl⟩
  rcases exists_of_fieldLine own with ⟨type, typed, rfl⟩
  exact ⟨type, _, typed, isNumberText_writtenNumber planned.isExplicit planned.number, rfl⟩

theorem areReservedLines_of_reservedNumberLines {lines : List String}
    (written : reservedNumberLines options plan = .ok lines) :
    AreReservedLines options plan lines := by
  rw [of_reservedNumberLines written, AreReservedLines]
  split
  · rfl
  · refine ⟨plan.rangeTexts options, ?_, rfl⟩
    rw [MessagePlan.rangeTexts, List.forall₂_map_right_iff, List.forall₂_same]
    exact fun run _ => ⟨_, _, isReservedText_writtenReserved run.first,
      isReservedText_writtenReserved run.last, rfl⟩

theorem isBlockOf_of_messageBlock {block : String}
    (written : messageBlock options plan = .ok block) : IsBlockOf options plan block := by
  rcases exists_of_messageBlock written with ⟨lines, listed, rfl⟩
  rcases exists_of_messageLines listed with ⟨fields, reserved, each, stated, rfl⟩
  exact ⟨fields, reserved, (mapM_eq_ok_iff.mp each).imp fun _ _ => areFieldLines_of_fieldLines,
    areReservedLines_of_reservedNumberLines stated, rfl⟩

end

end WireSchema.ProtoText
