import WireSchema.Proofs.Document.Asked
import WireSchema.Proofs.Schema.Reservation
import WireSchema.Proofs.Text.Decimals
import WireSchema.Proofs.Text.Joined
import WireSchema.Schema.MessagePlan

namespace WireSchema

/-!
# Numbers in writing

A number stands in digits, and the first automatic number as the options give it, which may be a
truth value; either way it is known by how it is printed.  An integer of too many digits is not
written at all, and then nothing is that has it as a part.  Reserved numbers are written in runs,
and two numbers in succession look like two runs of one number.  What is read back is therefore
which numbers are covered; an increasing list is known by its members.
-/

open Asked

/-! ## Numbers -/

/-- A value that can be put into a line of output as a number: an integer must
be short enough.  Other values stand for themselves; the limit concerns the
conversion of integers alone. -/
def Value.HasNumeral (value : Value) : Prop :=
  ∀ number, value = .int number → number.natAbs < 10 ^ Text.maxDigits

theorem Value.hasNumeral_int_iff {number : Int} :
    (Value.int number).HasNumeral ↔ number.natAbs < 10 ^ Text.maxDigits := by
  constructor
  · exact fun short => short number rfl
  · rintro short _ ⟨⟩
    exact short

/-- A number is written as it is printed, or not at all. -/
theorem Value.askNumeral_eq_ok_iff {value : Value} {numeral : String} :
    value.askNumeral = .ok numeral ↔ value.HasNumeral ∧ numeral = value.display := by
  cases value with
  | int number =>
      rw [hasNumeral_int_iff]
      refine Iff.trans ?_ Text.writeInteger?_eq_some_iff
      rw [askNumeral]
      cases Text.writeInteger? number <;> simp
  | null | bool _ | float _ | date _ | text _ | list _ | map _ =>
      simp [askNumeral, HasNumeral, eq_comm]

theorem Value.succeeds_askNumeral_iff {value : Value} :
    value.askNumeral.Succeeds ↔ value.HasNumeral :=
  ⟨fun ⟨_, written⟩ => (askNumeral_eq_ok_iff.mp written).1,
    fun short => ⟨_, askNumeral_eq_ok_iff.mpr ⟨short, rfl⟩⟩⟩

theorem Value.askNumeral_eq_error {value : Value} (long : ¬value.HasNumeral) :
    value.askNumeral = .error .badContent := by
  cases value with
  | int number =>
      have unwritten : Text.writeInteger? number = none := by
        rw [Option.eq_none_iff_forall_ne_some]
        intro numeral written
        exact long (hasNumeral_int_iff.mpr (Text.writeInteger?_eq_some_iff.mp written).1)
      rw [askNumeral, unwritten]
  | null | bool _ | float _ | date _ | text _ | list _ | map _ =>
      exact absurd (fun _ impossible => by cases impossible) long

/-- The numbers of all fields of a message can be written.  Otherwise the message
has no block, and there are no findings on it either. -/
def MessagePlan.HasNumerals (options : Options) (plan : MessagePlan) : Prop :=
  ∀ planned ∈ plan.fields, (planned.writtenNumber options).HasNumeral

namespace Options

theorem isDigit_or_eq_of_mem_display {number : Int} {c : Char}
    (member : c ∈ (Value.int number).display.toList) : c.isDigit = true ∨ c = '-' := by
  have digits : ∀ n : Nat, c ∈ n.repr.toList → c.isDigit = true := by
    intro n inside
    rw [Nat.toList_repr] at inside
    exact Nat.isDigit_of_mem_toDigits (by decide) (by decide) inside
  cases number with
  | ofNat n => exact Or.inl (digits n member)
  | negSucc n =>
      have parts : c ∈ ("-" ++ (n + 1).repr).toList := member
      rw [String.toList_append, List.mem_append] at parts
      rcases parts with sign | later
      · exact Or.inr (List.mem_singleton.mp sign)
      · exact Or.inl (digits (n + 1) later)

/-- A value that counts as an integer is printed in letters, digits and hyphens. -/
theorem isAlphanum_or_eq_of_mem_display {value : Value} {number : Int}
    (counts : integer? value = some number) {c : Char} (member : c ∈ value.display.toList) :
    c.isAlphanum = true ∨ c = '-' := by
  cases value with
  | int given =>
      rcases isDigit_or_eq_of_mem_display member with digit | hyphen
      · exact Or.inl (by rw [Char.isAlphanum, digit, Bool.or_true])
      · exact Or.inr hyphen
  | bool given =>
      have letters : (Value.bool given).display.toList.all Char.isAlphanum = true := by
        cases given <;> decide
      exact Or.inl (List.all_eq_true.mp letters c member)
  | null | float _ | date _ | text _ | list _ | map _ => cases counts

/-- A truth value is printed as a word, which no number is. -/
theorem display_bool_ne_display_int (given : Bool) (number : Int) :
    (Value.bool given).display ≠ (Value.int number).display := by
  intro same
  have letter : 'e' ∈ (Value.int number).display.toList := by
    rw [← same]
    cases given <;> decide
  rcases isDigit_or_eq_of_mem_display letter with digit | hyphen
  · exact absurd digit (by decide)
  · exact absurd hyphen (by decide)

/-- A number is known by the way in which it is printed. -/
theorem eq_of_display_eq {value other : Value} {number further : Int}
    (counts : integer? value = some number) (countsOther : integer? other = some further)
    (same : value.display = other.display) : number = further := by
  cases value with
  | int given =>
      cases counts
      cases other with
      | int second =>
          cases countsOther
          exact Int.repr_injective same
      | bool second => exact absurd same.symm (display_bool_ne_display_int second number)
      | null | float _ | date _ | text _ | list _ | map _ => cases countsOther
  | bool given =>
      cases other with
      | int second => exact absurd same (display_bool_ne_display_int given second)
      | bool second =>
          have values : given = second := by
            revert same
            cases given <;> cases second <;> decide
          rw [values] at counts
          exact Option.some.inj (counts.symm.trans countsOther)
      | null | float _ | date _ | text _ | list _ | map _ => cases countsOther
  | null | float _ | date _ | text _ | list _ | map _ => cases counts

/-- The first automatic number is an integer, as it is for all options that are
read.  A truth value counts as one here, though it is printed as a word. -/
def StartsAtInteger (options : Options) : Prop :=
  ∃ number, integer? options.startFieldNumber = some number

theorem integer?_writtenNumber {options : Options} (integer : options.StartsAtInteger)
    (isExplicit : Bool) (number : Int) :
    integer? (options.writtenNumber isExplicit number) = some number := by
  rcases integer with ⟨start, counts⟩
  unfold writtenNumber
  split
  · rename_i first
    have same : number = options.startNumber := by simpa using (Bool.and_eq_true_iff.mp first).2
    rw [same, startNumber, counts]
    rfl
  · rfl

end Options

theorem MessagePlan.integer?_writtenReserved {options : Options} {plan : MessagePlan}
    (integer : options.StartsAtInteger) (number : Int) :
    Options.integer? (plan.writtenReserved options number) = some number := by
  unfold writtenReserved
  split
  · rfl
  · split
    · exact Options.integer?_writtenNumber integer _ number
    · rfl

/-! ## Runs -/

/-- A text for every number: that of some value which counts as the number.  The
value need not be an integer, since a truth value at the start of the numbering
is written as a word. -/
def WritesNumbers (write : Int → String) : Prop :=
  ∀ number, ∃ value, Options.integer? value = some number ∧ value.display = write number

namespace WritesNumbers

variable {write rewrite : Int → String}

theorem notMem (writes : WritesNumbers write) {c : Char} (other : c.isAlphanum = false)
    (further : c ≠ '-') (number : Int) : c ∉ (write number).toList := by
  rcases writes number with ⟨value, counts, shown⟩
  intro member
  rw [← shown] at member
  rcases Options.isAlphanum_or_eq_of_mem_display counts member with letter | hyphen
  · rw [other] at letter
    cases letter
  · exact further hyphen

theorem eq_of_eq (writes : WritesNumbers write) (rewrites : WritesNumbers rewrite)
    {number further : Int} (same : write number = rewrite further) : number = further := by
  rcases writes number with ⟨value, counts, shown⟩
  rcases rewrites further with ⟨other, countsOther, shownOther⟩
  exact Options.eq_of_display_eq counts countsOther (by rw [shown, same, shownOther])

end WritesNumbers

namespace NumberRun

/-- The text of a run, given the text of every number.  Two numbers in succession
are listed one by one; a range with `to` stands for three or more. -/
def text (write : Int → String) (run : NumberRun) : String :=
  if run.first = run.last then write run.first
  else if run.last = run.first + 1 then write run.first ++ ", " ++ write run.last
  else write run.first ++ " to " ++ write run.last

/-- A run is written when its ends are. -/
theorem write_eq_ok_iff {writeNumber : Int → Asked String} {short : Int → Prop}
    {write : Int → String}
    (each : ∀ number numeral, writeNumber number = .ok numeral ↔
      short number ∧ numeral = write number) {run : NumberRun} {text : String} :
    run.write writeNumber = .ok text ↔
      (short run.first ∧ short run.last) ∧ text = run.text write := by
  have reduced : run.write writeNumber = .ok text ↔ ∃ first, writeNumber run.first = .ok first ∧
      ∃ last, writeNumber run.last = .ok last ∧
        text = if run.first = run.last then first
          else if run.last = run.first + 1 then first ++ ", " ++ last
          else first ++ " to " ++ last := by
    rw [NumberRun.write, bind_eq_ok_iff]
    simp only [bind_eq_ok_iff]
    refine exists_congr fun first => and_congr_right fun _ => exists_congr fun last =>
      and_congr_right fun _ => ?_
    split
    · rw [pure_eq_ok, Except.ok.injEq, eq_comm]
    · split <;> rw [pure_eq_ok, Except.ok.injEq, eq_comm]
  rw [reduced]
  simp only [each]
  constructor
  · rintro ⟨_, ⟨first, rfl⟩, _, ⟨last, rfl⟩, rfl⟩
    exact ⟨⟨first, last⟩, rfl⟩
  · rintro ⟨⟨first, last⟩, rfl⟩
    exact ⟨_, ⟨first, rfl⟩, _, ⟨last, rfl⟩, rfl⟩

end NumberRun

/-- The runs of a list are written when the ends of all of them are. -/
theorem compactRanges_eq_ok_iff {writeNumber : Int → Asked String} {short : Int → Prop}
    {write : Int → String}
    (each : ∀ number numeral, writeNumber number = .ok numeral ↔
      short number ∧ numeral = write number) {numbers : List Int} {texts : List String} :
    compactRanges writeNumber numbers = .ok texts ↔
      (∀ run ∈ runsOf numbers, short run.first ∧ short run.last) ∧
        texts = (runsOf numbers).map (NumberRun.text write) := by
  have written : List.Forall₂ (fun run text => text = NumberRun.text write run)
      (runsOf numbers) texts ↔ texts = (runsOf numbers).map (NumberRun.text write) := by
    rw [eq_comm, ← List.forall₂_eq_eq_eq, List.forall₂_map_left_iff]
    exact ⟨fun all => all.imp fun _ _ => Eq.symm, fun all => all.imp fun _ _ => Eq.symm⟩
  simp only [compactRanges, mapM_eq_ok_iff, NumberRun.write_eq_ok_iff each, List.forall₂_and_left,
    written]

/-- The runs of a message's reserved numbers, given that each number is printed. -/
def MessagePlan.rangeTexts (options : Options) (plan : MessagePlan) : List String :=
  (runsOf plan.reservedNumbers).map
    (NumberRun.text fun number => (plan.writtenReserved options number).display)

theorem MessagePlan.eq_rangeTexts_of_reservedRanges {options : Options} {plan : MessagePlan}
    {texts : List String} (written : plan.reservedRanges options = .ok texts) :
    texts = plan.rangeTexts options :=
  ((compactRanges_eq_ok_iff fun _ _ => Value.askNumeral_eq_ok_iff).mp written).2

namespace NumberRun

/-- The items of a run in writing: two numbers in succession are two items.  A
reader meets items and not runs, and gets the run back only from both. -/
def items (run : NumberRun) : List NumberRun :=
  if run.last = run.first + 1 then [⟨run.first, run.first⟩, ⟨run.last, run.last⟩] else [run]

/-- An item in writing: a single number or a range.  A run of two numbers is two
items here, as it has a comma inside. -/
def itemText (write : Int → String) (item : NumberRun) : String :=
  if item.first = item.last then write item.first
  else write item.first ++ " to " ++ write item.last

variable {write rewrite : Int → String}

theorem text_eq_intercalate (run : NumberRun) :
    run.text write = String.intercalate ", " (run.items.map (itemText write)) := by
  unfold text items
  by_cases two : run.last = run.first + 1
  · have different : run.first ≠ run.last := by omega
    simp only [if_neg different, if_pos two, List.map_cons, List.map_nil, itemText, if_true,
      String.intercalate_cons_cons, String.intercalate_singleton]
  · simp only [if_neg two, List.map_cons, List.map_nil, itemText, String.intercalate_singleton]

theorem items_ne_nil (run : NumberRun) : run.items ≠ [] := by
  unfold items
  split <;> simp

/-- The items of a run cover what the run covers. -/
theorem exists_covers_items_iff (run : NumberRun) (number : Int) :
    (∃ item ∈ run.items, item.Covers number) ↔ run.Covers number := by
  unfold items
  split
  · rename_i two
    simp only [List.mem_cons, List.not_mem_nil, or_false, exists_eq_or_imp, exists_eq_left, Covers]
    omega
  · simp

theorem comma_notMem_itemText (writes : WritesNumbers write) (item : NumberRun) :
    ',' ∉ (item.itemText write).toList := by
  have own : ∀ number, ',' ∉ (write number).toList := writes.notMem (by decide) (by decide)
  unfold itemText
  split
  · exact own item.first
  · simp only [String.toList_append, List.mem_append, not_or]
    exact ⟨⟨own item.first, by decide⟩, own item.last⟩

/-- An item is known by the way in which it is written. -/
theorem eq_of_itemText_eq (writes : WritesNumbers write) (rewrites : WritesNumbers rewrite)
    {item other : NumberRun} (same : item.itemText write = other.itemText rewrite) :
    item = other := by
  have own : ∀ number, ∀ c ∈ (write number).toList, c ≠ ' ' := by
    rintro number c member rfl
    exact writes.notMem (by decide) (by decide) number member
  have ownOther : ∀ number, ∀ c ∈ (rewrite number).toList, c ≠ ' ' := by
    rintro number c member rfl
    exact rewrites.notMem (by decide) (by decide) number member
  rcases item with ⟨first, last⟩
  rcases other with ⟨start, finish⟩
  by_cases single : first = last
  · subst last
    by_cases singleOther : start = finish
    · subst finish
      simp only [itemText, if_true] at same
      rw [writes.eq_of_eq rewrites same]
    · simp only [itemText, if_true, if_neg singleOther] at same
      have blank : ' ' ∈ (write first).toList := by simp [same, String.toList_append]
      exact absurd rfl (own first ' ' blank)
  · by_cases singleOther : start = finish
    · subst finish
      simp only [itemText, if_true, if_neg single] at same
      have blank : ' ' ∈ (rewrite start).toList := by simp [← same, String.toList_append]
      exact absurd rfl (ownOther start ' ' blank)
    · simp only [itemText, if_neg single, if_neg singleOther] at same
      have chars := congrArg String.toList same
      simp only [String.toList_append, List.append_assoc] at chars
      have parts := Text.append_inj_of_class (own first) (ownOther start) (by simp) (by simp) chars
      have firsts : first = start := writes.eq_of_eq rewrites (String.toList_inj.mp parts.1)
      have lasts : last = finish :=
        writes.eq_of_eq rewrites (String.toList_inj.mp (List.append_cancel_left parts.2))
      rw [firsts, lasts]

end NumberRun

def itemsOf (numbers : List Int) : List NumberRun :=
  (runsOf numbers).flatMap NumberRun.items

section

variable {numbers others : List Int}

theorem exists_covers_itemsOf_iff (ordered : IsIncreasing numbers) (number : Int) :
    (∃ item ∈ itemsOf numbers, item.Covers number) ↔ number ∈ numbers := by
  rw [← exists_covers_runsOf_iff ordered.nondecreasing]
  constructor
  · rintro ⟨item, inside, covers⟩
    rcases List.mem_flatMap.mp inside with ⟨run, among, own⟩
    exact ⟨run, among, (run.exists_covers_items_iff number).mp ⟨item, own, covers⟩⟩
  · rintro ⟨run, among, covers⟩
    rcases (run.exists_covers_items_iff number).mpr covers with ⟨item, own, itemCovers⟩
    exact ⟨item, List.mem_flatMap.mpr ⟨run, among, own⟩, itemCovers⟩

theorem itemsOf_ne_nil (ordered : IsIncreasing numbers) (given : numbers ≠ []) :
    itemsOf numbers ≠ [] := by
  rcases List.exists_mem_of_ne_nil numbers given with ⟨number, member⟩
  rcases (exists_covers_itemsOf_iff ordered number).mpr member with ⟨item, inside, -⟩
  exact List.ne_nil_of_mem inside

theorem intercalate_runsOf (write : Int → String) (numbers : List Int) :
    String.intercalate ", " ((runsOf numbers).map (NumberRun.text write)) =
      String.intercalate ", " ((itemsOf numbers).map (NumberRun.itemText write)) := by
  have each : NumberRun.text write =
      fun run => String.intercalate ", " (run.items.map (NumberRun.itemText write)) :=
    funext NumberRun.text_eq_intercalate
  rw [each, Text.intercalate_flatMap (by simp [NumberRun.items_ne_nil]), itemsOf, List.map_flatMap]

/-- Increasing lists of numbers that are written in the same way are the same. -/
theorem eq_of_intercalate_runsOf_eq {write rewrite : Int → String} (writes : WritesNumbers write)
    (rewrites : WritesNumbers rewrite) (ordered : IsIncreasing numbers)
    (orderedOthers : IsIncreasing others) (given : numbers ≠ []) (givenOthers : others ≠ [])
    (same : String.intercalate ", " ((runsOf numbers).map (NumberRun.text write)) =
      String.intercalate ", " ((runsOf others).map (NumberRun.text rewrite))) :
    numbers = others := by
  have commas : ∀ {write : Int → String}, WritesNumbers write → ∀ items : List NumberRun,
      ∀ text ∈ items.map (NumberRun.itemText write), ',' ∉ text.toList := by
    intro write writes items text member
    rcases List.mem_map.mp member with ⟨item, -, rfl⟩
    exact item.comma_notMem_itemText writes
  have nonempty : ∀ {numbers : List Int} (write : Int → String), IsIncreasing numbers →
      numbers ≠ [] → (itemsOf numbers).map (NumberRun.itemText write) ≠ [] :=
    fun write ordered given => mt List.map_eq_nil_iff.mp (itemsOf_ne_nil ordered given)
  rw [intercalate_runsOf, intercalate_runsOf] at same
  have texts := Text.eq_of_intercalate_comma_eq (nonempty write ordered given)
    (nonempty rewrite orderedOthers givenOthers) (commas writes _) (commas rewrites _) same
  have items : itemsOf numbers = itemsOf others := by
    have view : (itemsOf numbers).map id = (itemsOf others).map id :=
      map_eq_of_map_eq (fun item _ other _ => NumberRun.eq_of_itemText_eq writes rewrites) texts
    rwa [List.map_id, List.map_id] at view
  refine List.Pairwise.eq_of_mem_iff ordered orderedOthers fun number => ?_
  rw [← exists_covers_itemsOf_iff ordered, ← exists_covers_itemsOf_iff orderedOthers, items]

end

end WireSchema
