import WireSchema.Proofs.Document.Pointwise
import WireSchema.Proofs.ProtoText.FieldText

namespace WireSchema

/-!
# What the text of a message tells

Two messages with plain names whose texts are the same are the same message: they have one name, the
same fields in the same order, and the same reserved numbers and names.  The text is read line by
line.  A line with an equals sign is a field; of the other lines between the first and the last one,
the one with a quotation mark holds the reserved names, and the one that is left the reserved
numbers.  So a field that is called like a word of the language is no obstacle.
-/

open Asked

namespace ProtoText

variable {options other : Options}

/-! ## Reserved numbers and names -/

/-- A statement of what is reserved, with a margin. -/
def reservedLine (items : List String) : String :=
  "  reserved " ++ String.intercalate ", " items ++ ";"

theorem notMem_reservedLine {items : List String} {c : Char} (outside : c ∉ "  reserved, ;".toList)
    (each : ∀ item ∈ items, c ∉ item.toList) : c ∉ (reservedLine items).toList := by
  have front : "  reserved ".toList ⊆ "  reserved, ;".toList := by decide
  have between : ", ".toList ⊆ "  reserved, ;".toList := by decide
  have last : ";".toList ⊆ "  reserved, ;".toList := by decide
  simp only [reservedLine, String.toList_append, List.mem_append, not_or]
  refine ⟨⟨fun word => outside (front word), fun listed => ?_⟩, fun ending => outside (last ending)⟩
  rcases Text.mem_of_mem_intercalate listed with mark | ⟨item, member, own⟩
  · exact outside (between mark)
  · exact each item member own

theorem isDeclaration_reservedLine {items : List String}
    (each : ∀ item ∈ items, '\n' ∉ item.toList) :
    IsDeclaration (reservedLine items) := by
  refine ⟨notMem_reservedLine (by decide) each, ?_⟩
  have begins : "  reserved ".toList = ' ' :: ' ' :: 'r' :: "eserved ".toList := by decide
  simp only [reservedLine, String.toList_append, begins, List.cons_append, isComment_blank_cons]
  exact isComment_cons (by decide) (by decide)

section

variable {plan : MessagePlan}

theorem notMem_of_mem_rangeTexts (integer : options.StartsAtInteger) {c : Char}
    (outside : c.isAlphanum = false) (other : c ∉ ['-', ' ', ',']) :
    ∀ item ∈ plan.rangeTexts options, c ∉ item.toList := by
  have numbers : ∀ number, c ∉ (plan.writtenReserved options number).display.toList := by
    intro number inside
    rcases Options.isAlphanum_or_eq_of_mem_display (plan.integer?_writtenReserved integer number)
      inside with letter | rfl
    · rw [outside] at letter
      cases letter
    · simp at other
  intro item member
  rcases List.mem_map.mp member with ⟨run, -, rfl⟩
  unfold NumberRun.text
  split
  · exact numbers run.first
  · split
    · simp only [String.toList_append, List.mem_append, not_or]
      exact ⟨⟨numbers run.first, by simp at other ⊢; tauto⟩, numbers run.last⟩
    · simp only [String.toList_append, List.mem_append, not_or]
      refine ⟨⟨numbers run.first, fun word => ?_⟩, numbers run.last⟩
      simp at word other
      rcases word with rfl | rfl | rfl | rfl
      · exact other.2.1 rfl
      · exact absurd outside (by decide)
      · exact absurd outside (by decide)
      · exact other.2.1 rfl

theorem notMem_of_mem_inQuotes (plain : ∀ name ∈ plan.reservedNames, Text.IsPlainName name)
    {c : Char} (outside : Text.isPlainChar c = false) (other : c ≠ '"') :
    ∀ item ∈ plan.reservedNames.map FieldOption.inQuotes, c ∉ item.toList := by
  intro item member
  rcases List.mem_map.mp member with ⟨name, among, rfl⟩
  simp only [FieldOption.inQuotes, String.toList_append, List.mem_append, not_or]
  exact ⟨⟨by simpa using other, Text.notMem_of_isPlainName (plain name among) outside⟩,
    by simpa using other⟩

end

theorem reservedLine_inj {items others : List String}
    (same : reservedLine items = reservedLine others) :
    String.intercalate ", " items = String.intercalate ", " others := by
  rw [← String.toList_inj]
  have lists := congrArg String.toList same
  simpa [reservedLine, String.toList_append] using lists

end ProtoText

/-! ## Messages -/

/-- A message with plain names, and with descriptions and options of one line
each.  Under this condition every line of the block can be told from those of
other kinds. -/
structure MessagePlan.IsPlain (plan : MessagePlan) : Prop where
  name : plan.name.IsPlainName
  description : plan.description.IsOneLine
  fields : ∀ planned ∈ plan.fields, planned.IsPlain
  reservedNames : ∀ name ∈ plan.reservedNames, Text.IsPlainName name

/-- Everything that is declared of a message.  Reserved numbers are kept as the
numbers themselves, for the runs in which they are written depend on nothing
else. -/
structure MessageContent where
  name : Value
  fields : List FieldContent
  reservedNumbers : List Int
  reservedNames : List String
deriving Repr

def MessagePlan.content (plan : MessagePlan) : MessageContent where
  name := plan.name
  fields := plan.fields.map PlannedField.content
  reservedNumbers := plan.reservedNumbers
  reservedNames := plan.reservedNames

namespace ProtoText

variable {options other : Options} {plan further : MessagePlan}

/-- The statement of a message's reserved numbers; none when there are none.  It
shows runs and not the single numbers, which still determine each other. -/
def statedNumbers (options : Options) (plan : MessagePlan) : List String :=
  if plan.reservedNumbers = [] then [] else [reservedLine (plan.rangeTexts options)]

theorem reservedNameLines_eq (plan : MessagePlan) :
    reservedNameLines plan =
      if plan.reservedNames = [] then []
      else [reservedLine (plan.reservedNames.map FieldOption.inQuotes)] := by
  simp only [reservedNameLines, List.isEmpty_iff, reservedLine]

theorem reservedNumbers_eq_of_lines_eq (integer : options.StartsAtInteger)
    (otherInteger : other.StartsAtInteger)
    (same : statedNumbers options plan = statedNumbers other further) :
    plan.reservedNumbers = further.reservedNumbers := by
  rw [statedNumbers, statedNumbers] at same
  by_cases none : plan.reservedNumbers = []
  · by_cases noneOther : further.reservedNumbers = []
    · rw [none, noneOther]
    · rw [if_pos none, if_neg noneOther] at same
      cases same
  · by_cases noneOther : further.reservedNumbers = []
    · rw [if_neg none, if_pos noneOther] at same
      cases same
    · rw [if_neg none, if_neg noneOther] at same
      exact eq_of_intercalate_runsOf_eq
        (fun number => ⟨_, plan.integer?_writtenReserved integer number, rfl⟩)
        (fun number => ⟨_, further.integer?_writtenReserved otherInteger number, rfl⟩)
        (isIncreasing_increasing _) (isIncreasing_increasing _) none noneOther
        (reservedLine_inj (List.cons.inj same).1)

theorem inQuotes_injective : Function.Injective FieldOption.inQuotes := by
  intro name other same
  rw [← String.toList_inj]
  have lists := congrArg String.toList same
  simpa [FieldOption.inQuotes, String.toList_append] using lists

theorem reservedNames_eq_of_lines_eq (plain : plan.IsPlain) (furtherPlain : further.IsPlain)
    (same : reservedNameLines plan = reservedNameLines further) :
    plan.reservedNames = further.reservedNames := by
  rw [reservedNameLines_eq, reservedNameLines_eq] at same
  by_cases none : plan.reservedNames = []
  · by_cases noneOther : further.reservedNames = []
    · rw [none, noneOther]
    · rw [if_pos none, if_neg noneOther] at same
      cases same
  · by_cases noneOther : further.reservedNames = []
    · rw [if_neg none, if_pos noneOther] at same
      cases same
    · rw [if_neg none, if_neg noneOther] at same
      have texts := Text.eq_of_intercalate_comma_eq (by simpa using none) (by simpa using noneOther)
        (notMem_of_mem_inQuotes plain.reservedNames (by decide) (by decide))
        (notMem_of_mem_inQuotes furtherPlain.reservedNames (by decide) (by decide))
        (reservedLine_inj (List.cons.inj same).1)
      exact List.map_injective_iff.mpr inQuotes_injective texts

/-! ## Reading a message -/

def reservedLines (options : Options) (plan : MessagePlan) : List String :=
  statedNumbers options plan ++ reservedNameLines plan

/-- The first line of a message. -/
def messageHead (plan : MessagePlan) : String :=
  "message " ++ plan.name.display ++ " \x7b"

theorem of_mem_statedNumbers (integer : options.StartsAtInteger) {line : String}
    (member : line ∈ statedNumbers options plan) :
    IsDeclaration line ∧ '=' ∉ line.toList ∧ '"' ∉ line.toList := by
  rw [statedNumbers] at member
  split at member
  · cases member
  · rw [List.mem_singleton.mp member]
    have items := @notMem_of_mem_rangeTexts options plan integer
    exact ⟨isDeclaration_reservedLine (items (by decide) (by decide)),
      notMem_reservedLine (by decide) (items (by decide) (by decide)),
      notMem_reservedLine (by decide) (items (by decide) (by decide))⟩

theorem of_mem_reservedNameLines (plain : plan.IsPlain) {line : String}
    (member : line ∈ reservedNameLines plan) :
    IsDeclaration line ∧ '=' ∉ line.toList ∧ '"' ∈ line.toList := by
  rw [reservedNameLines_eq] at member
  split at member
  · cases member
  · rename_i given
    rw [List.mem_singleton.mp member]
    have items := @notMem_of_mem_inQuotes plan plain.reservedNames
    refine ⟨isDeclaration_reservedLine (items (by decide) (by decide)),
      notMem_reservedLine (by decide) (items (by decide) (by decide)), ?_⟩
    cases names : plan.reservedNames with
    | nil => exact absurd names given
    | cons name others =>
        have begins : (FieldOption.inQuotes name).toList = '"' :: (name ++ "\"").toList := by
          simp [FieldOption.inQuotes, String.toList_append]
        cases others with
        | nil => simp [reservedLine, String.toList_append, begins]
        | cons second others => simp [reservedLine, String.toList_append, begins]

theorem mem_fieldText (planned : PlannedField) : '=' ∈ (fieldText options planned).toList := by
  simp [fieldText, String.toList_append]

theorem isDeclaration_messageHead (plain : plan.IsPlain) : IsDeclaration (messageHead plan) := by
  rcases plain.name with ⟨name, same, plainName⟩
  have begins : "message ".toList = 'm' :: "essage ".toList := by decide
  rw [IsDeclaration, messageHead, same]
  simp only [String.toList_append, begins, List.cons_append]
  refine ⟨?_, isComment_cons (by decide) (by decide)⟩
  simpa using Text.notMem_of_isPlainName plainName (c := '\n') (by decide)

theorem eq_of_messageLines (labels : options.WritesLabels) (plain : plan.IsPlain)
    {lines : List String} (written : messageLines options plan = .ok lines) :
    lines = commentLines "" plan.description ++ [messageHead plan]
      ++ (plan.fields.map fun planned =>
        commentLines "  " planned.description ++ [fieldText options planned]).flatten
      ++ reservedLines options plan ++ ["\x7d"] := by
  rcases exists_of_messageLines written with ⟨lists, reserved, each, stated, rfl⟩
  have fields : lists = plan.fields.map fun planned =>
      commentLines "  " planned.description ++ [fieldText options planned] := by
    rw [← List.forall₂_eq_eq_eq, List.forall₂_map_right_iff]
    refine (forall₂_of_mem (mapM_eq_ok_iff.mp each) fun planned member items _ made => ?_).flip
    rcases exists_of_fieldLines made with ⟨line, own, rfl⟩
    have text := eq_fieldText_of_fieldLine labels (plain.fields planned member) own
    exact congrArg (fun line => commentLines "  " planned.description ++ [line]) text
  rw [fields, of_reservedNumberLines stated, reservedLines, ← List.append_assoc]
  rfl

theorem flatMap_fieldLines (labels : options.WritesLabels) (plain : plan.IsPlain) :
    (plan.fields.map fun planned =>
        commentLines "  " planned.description ++ [fieldText options planned]).flatten.flatMap
      declarationLines = (plan.fields.map (fieldText options)).map String.toList := by
  rw [← List.flatMap_def, List.flatMap_assoc, List.map_map, List.map_eq_flatMap]
  refine List.flatMap_congr fun planned member => ?_
  have own := isDeclaration_fieldText labels (plain.fields planned member)
  have comment := flatMap_commentLines "  " rfl (plain.fields planned member).description
  rw [List.flatMap_append, comment, List.nil_append, List.flatMap_singleton,
    declarationLines_eq_singleton own.1 own.2]
  rfl

/-- What the text of a message declares: its first line, the lines of its fields, those of what is
reserved, and its last line. -/
theorem declarationLines_of_messageBlock (labels : options.WritesLabels) (plain : plan.IsPlain)
    {text : String} (written : messageBlock options plan = .ok text) :
    declarationLines text =
      (messageHead plan :: (plan.fields.map (fieldText options) ++ reservedLines options plan)
        ++ ["\x7d", "", ""]).map String.toList := by
  rcases exists_of_messageBlock written with ⟨lines, listed, rfl⟩
  rw [eq_of_messageLines labels plain listed]
  have head := isDeclaration_messageHead plain
  have last : IsDeclaration "\x7d" := ⟨by decide, by decide⟩
  have reserved : (reservedLines options plan).flatMap declarationLines =
      (reservedLines options plan).map String.toList := by
    refine flatMap_declarationLines fun line member => ?_
    rcases List.mem_append.mp member with ofNumbers | ofNames
    · exact (of_mem_statedNumbers labels.integer ofNumbers).1
    · exact (of_mem_reservedNameLines plain ofNames).1
  rw [← String.append_empty (s := blockText _), declarationLines_blockText_append (by simp),
    declarationLines_empty, List.flatMap_append, List.flatMap_append, List.flatMap_append,
    List.flatMap_append, flatMap_commentLines "" rfl plain.description, reserved,
    flatMap_fieldLines labels plain, List.flatMap_singleton, List.flatMap_singleton,
    declarationLines_eq_singleton head.1 head.2, declarationLines_eq_singleton last.1 last.2]
  simp

/-- The lines of fields are those with an equals sign. -/
theorem filter_items (labels : options.WritesLabels) (plain : plan.IsPlain) :
    (plan.fields.map (fieldText options) ++ reservedLines options plan).filter
      (fun line => decide ('=' ∈ line.toList)) = plan.fields.map (fieldText options) := by
  refine filter_append_eq_left (fun line member => ?_) (fun line member => ?_)
  · rcases List.mem_map.mp member with ⟨planned, -, rfl⟩
    exact decide_eq_true (mem_fieldText planned)
  · refine decide_eq_false ?_
    rcases List.mem_append.mp member with ofNumbers | ofNames
    · exact (of_mem_statedNumbers labels.integer ofNumbers).2.1
    · exact (of_mem_reservedNameLines plain ofNames).2.1

/-- The statement of reserved numbers is the one without a quotation mark. -/
theorem filter_reservedLines (labels : options.WritesLabels) (plain : plan.IsPlain) :
    (reservedLines options plan).filter (fun line => decide ('"' ∉ line.toList)) =
      statedNumbers options plan := by
  refine filter_append_eq_left (fun line member => ?_) (fun line member => ?_)
  · exact decide_eq_true (of_mem_statedNumbers labels.integer member).2.2
  · exact decide_eq_false (not_not_intro (of_mem_reservedNameLines plain member).2.2)

/-- Messages with plain names are known by their texts. -/
theorem content_eq_of_messageBlock_eq (labels : options.WritesLabels)
    (otherLabels : other.WritesLabels) (plain : plan.IsPlain) (furtherPlain : further.IsPlain)
    {text : String} (written : messageBlock options plan = .ok text)
    (again : messageBlock other further = .ok text) : plan.content = further.content := by
  have lines := declarationLines_of_messageBlock labels plain written
  have otherLines := declarationLines_of_messageBlock otherLabels furtherPlain again
  have strings := List.map_injective_iff.mpr (fun _ _ => String.toList_inj.mp)
    (lines.symm.trans otherLines)
  rcases List.cons.inj (List.append_cancel_right strings) with ⟨heads, items⟩
  have names : plan.name = further.name := by
    refine Value.eq_of_display_eq plain.name furtherPlain.name ?_
    rw [← String.toList_inj]
    have chars := congrArg String.toList heads
    simpa [messageHead, String.toList_append] using chars
  have fieldTexts : plan.fields.map (fieldText options) = further.fields.map (fieldText other) := by
    rw [← filter_items labels plain, items, filter_items otherLabels furtherPlain]
  have fields : plan.fields.map PlannedField.content = further.fields.map PlannedField.content :=
    map_eq_of_map_eq (fun planned member another among =>
      content_eq_of_fieldText_eq labels otherLabels (plain.fields planned member)
        (furtherPlain.fields another among)) fieldTexts
  rw [fieldTexts] at items
  have reserved := List.append_cancel_left items
  have numberLines : statedNumbers options plan = statedNumbers other further := by
    rw [← filter_reservedLines labels plain, reserved,
      filter_reservedLines otherLabels furtherPlain]
  have numbers := reservedNumbers_eq_of_lines_eq labels.integer otherLabels.integer numberLines
  rw [reservedLines, reservedLines, numberLines] at reserved
  have reservedNames := reservedNames_eq_of_lines_eq plain furtherPlain
    (List.append_cancel_left reserved)
  rw [MessagePlan.content, MessagePlan.content, names, fields, numbers, reservedNames]

/-- A message that uses words of the language as names, with some reserved numbers. -/
def wordyMessage (declared : List Int) : MessagePlan where
  name := .text "message"
  composite := { name := .text "message" }
  description := .text "A message"
  fields :=
    [{ field := { name := .text "first", type := .named "Reserved" "" }, name := "reserved",
       number := 1, isExplicit := false, type := .text "optional", shape := .scalar,
       mapTypes := DeclaredField.noMapTypes, options := [], description := .text "" },
     { field := { name := .text "second", type := .named "Repeated" "" }, name := "repeated",
       number := 9, isExplicit := true, type := .text "repeated", shape := .optional,
       mapTypes := DeclaredField.noMapTypes, options := [⟨"json_name", "\"again\""⟩],
       description := .text "A field" }]
  declaredNumbers := declared
  retired := []
  reservedNames := ["to", "old"]
  unsupported := []

theorem isPlain_wordyMessage (declared : List Int) : (wordyMessage declared).IsPlain where
  name := ⟨"message", rfl, by simp [Text.IsPlainName, Text.isPlainChar]⟩
  description := by simp [Value.IsOneLine, wordyMessage]
  fields := by
    intro planned member
    rcases List.mem_cons.mp member with rfl | second
    · refine ⟨by simp [Text.IsPlainName, Text.isPlainChar], ?_, by simp [Value.IsOneLine], by simp⟩
      intro type declared
      rw [List.mem_singleton.mp declared]
      exact ⟨"optional", rfl, by simp [Text.IsPlainName, Text.isPlainChar]⟩
    · rw [List.mem_singleton.mp second]
      refine ⟨by simp [Text.IsPlainName, Text.isPlainChar], ?_, by simp [Value.IsOneLine],
        by simp [FieldOption.text]⟩
      intro type declared
      rw [List.mem_singleton.mp declared]
      exact ⟨"repeated", rfl, by simp [Text.IsPlainName, Text.isPlainChar]⟩
  reservedNames := by simp [wordyMessage, Text.IsPlainName, Text.isPlainChar]

theorem content_wordyMessage_of_order :
    ∃ text, messageBlock {} (wordyMessage [4, 2, 3, 7]) = .ok text ∧
      messageBlock {} (wordyMessage [2, 3, 4, 7]) = .ok text ∧
      (wordyMessage [4, 2, 3, 7]).content = (wordyMessage [2, 3, 4, 7]).content := by
  have same : messageBlock {} (wordyMessage [4, 2, 3, 7]) =
      messageBlock {} (wordyMessage [2, 3, 4, 7]) := rfl
  have succeeds : (messageBlock {} (wordyMessage [2, 3, 4, 7])).toOption.isSome = true := by
    decide +kernel
  rcases exists_of_isSome_toOption succeeds with ⟨text, again⟩
  exact ⟨text, same.trans again, again, content_eq_of_messageBlock_eq ⟨rfl, 1, rfl⟩ ⟨rfl, 1, rfl⟩
    (isPlain_wordyMessage _) (isPlain_wordyMessage _) (same.trans again) again⟩

end ProtoText

end WireSchema
