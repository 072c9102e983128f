import WireSchema.Proofs.Annotation.Query
import WireSchema.Proofs.Annotation.Scope
import WireSchema.Proofs.Schema.NumberText
import WireSchema.Proofs.Text.Decimals
import WireSchema.Proofs.Text.Segments

namespace WireSchema

/-!
# Reserved numbers read back from their ranges

An annotation that states the runs of a list in writing, with commas between them, reserves the
members of the list.  The text is cut at its commas into the items of the runs; each item is read
back as the numbers it covers; and since the items are in order and apart, the numbers are in order
too, each of them once.

The bound on digits is the same in both directions.  A list with a number that is too long has no
runs in writing, since every number of a list is covered by a run and the greatest one ends a run;
what is written can therefore be read.
-/

/-! ## Entries -/

theorem mem_numbersBetween {number low high : Int} :
    number ∈ numbersBetween low high ↔ low ≤ number ∧ number ≤ high := by
  rw [numbersBetween, List.mem_map]
  constructor
  · rintro ⟨offset, member, rfl⟩
    have := List.mem_range.mp member
    omega
  · rintro ⟨above, below⟩
    exact ⟨(number - low).toNat, List.mem_range.mpr (by omega), by omega⟩

theorem isIncreasing_numbersBetween (low high : Int) : IsIncreasing (numbersBetween low high) := by
  rw [IsIncreasing, numbersBetween, List.pairwise_map]
  exact List.pairwise_lt_range.imp fun before => by omega

theorem numbersBetween_self (number : Int) : numbersBetween number number = [number] := by
  have single : (number + 1 - number).toNat = 1 := by omega
  rw [numbersBetween, single]
  simp

/-! ## Items in writing -/

namespace NumberRun

def numbers (run : NumberRun) : List Int :=
  numbersBetween run.first run.last

structure IsNatural (run : NumberRun) : Prop where
  natural : 0 ≤ run.first
  begun : run.first ≤ run.last

namespace IsNatural

variable {run : NumberRun}

theorem exists_eq (natural : run.IsNatural) :
    ∃ first last : Nat, first ≤ last ∧ run = ⟨(first : Int), (last : Int)⟩ := by
  rcases run with ⟨first, last⟩
  rcases natural with ⟨above, begun⟩
  refine ⟨first.toNat, last.toNat, ?_, ?_⟩
  · change first ≤ last at begun
    omega
  · rw [Int.toNat_of_nonneg above, Int.toNat_of_nonneg (Int.le_trans above begun)]

end IsNatural

theorem toList_toString (n : Nat) : (toString (n : Int)).toList = Nat.toDigits 10 n :=
  Nat.toList_repr

/-- An item in characters: digits, or digits on both sides of the word between two numbers. -/
theorem toList_itemText (first last : Nat) :
    (itemText toString ⟨(first : Int), (last : Int)⟩).toList =
      if first = last then Nat.toDigits 10 first
      else Nat.toDigits 10 first ++ [' ', 't', 'o', ' '] ++ Nat.toDigits 10 last := by
  rw [itemText]
  simp only [Int.natCast_inj]
  split
  · exact toList_toString first
  · rw [String.toList_append, String.toList_append, toList_toString, toList_toString]
    rfl

theorem hasDigitEnds_itemText {item : NumberRun} (natural : item.IsNatural) :
    Text.HasDigitEnds (itemText toString item).toList := by
  rcases natural.exists_eq with ⟨first, last, -, rfl⟩
  rw [toList_itemText]
  split
  · exact .toDigits first
  · exact (Text.HasDigitEnds.toDigits first).append (.toDigits last) _

/-- An item is read back as its numbers when they are short enough to be written. -/
theorem readReserved_itemText {item : NumberRun} (natural : item.IsNatural)
    (small : item.last < 10 ^ Text.maxDigits) :
    readReserved (itemText toString item) = item.numbers := by
  have trimmed := (hasDigitEnds_itemText natural).trimWhile_isBlank
  rcases natural.exists_eq with ⟨first, last, begun, rfl⟩
  have limit : ((last : Int) < 10 ^ Text.maxDigits) ↔ last < 10 ^ Text.maxDigits := by
    exact_mod_cast Iff.rfl
  have lastSmall := limit.mp small
  rw [readReserved, trimmed, toList_itemText]
  by_cases single : first = last
  · subst single
    have noRange : rangeEnds? (Nat.toDigits 10 first) = none := by
      rw [rangeEnds?, Text.breakAt?_of_notMem (Text.notMem_toDigits rfl first),
        Text.breakAt?_of_notMem (Text.notMem_toDigits rfl first)]
      rfl
    rw [if_pos rfl, noRange]
    simp only
    rw [← Nat.toString_eq_ofList_toDigits, Text.readInteger?_toString, if_pos lastSmall, numbers,
      numbersBetween_self]
    rfl
  · have range : rangeEnds?
        (Nat.toDigits 10 first ++ [' ', 't', 'o', ' '] ++ Nat.toDigits 10 last) =
          some (Nat.toDigits 10 first, Nat.toDigits 10 last) := by
      rw [rangeEnds?, Text.breakAt?_append (Text.notMem_toDigits rfl first)]
      rfl
    rw [if_neg single, range]
    simp only
    rw [← Nat.toString_eq_ofList_toDigits, ← Nat.toString_eq_ofList_toDigits,
      Text.readInteger?_toString, Text.readInteger?_toString, if_pos lastSmall,
      if_pos (Nat.lt_of_le_of_lt begun lastSmall), numbers]

end NumberRun

/-! ## Items of a text -/

namespace ParamValue

variable {cs : List Char}

theorem isItemQuote_of_isDigit {c : Char} (digit : c.isDigit = true) : isItemQuote c = false := by
  rw [isItemQuote, Bool.or_eq_false_iff, beq_eq_false_iff_ne, beq_eq_false_iff_ne]
  constructor
  · rintro rfl
    exact absurd digit (by decide)
  · rintro rfl
    exact absurd digit (by decide)

theorem itemsWithin_single (ends : Text.HasDigitEnds cs) (single : ',' ∉ cs) :
    itemsWithin cs = [cs] := by
  have trimmed : itemText cs = cs := by
    rw [itemText, ends.trimWhile_isBlank, ends.trimWhile_eq fun c => isItemQuote_of_isDigit]
  rw [itemsWithin, Text.splitAtEach_of_notMem single, List.map_singleton, trimmed]
  exact List.filter_eq_self.mpr (by simpa using ends.ne_nil)

theorem isComma_blank : IsComma ", " := by
  refine ⟨[' '], rfl, fun c member => ?_⟩
  rw [List.mem_singleton.mp member]
  rfl

/-- A text with digits at both ends has no brackets. -/
theorem itemsOfText_of_hasDigitEnds {text : String} (ends : Text.HasDigitEnds text.toList) :
    itemsOfText text = (itemsWithin text.toList).map String.ofList := by
  have bare : withoutBrackets text.toList = text.toList := by
    rcases ends.first with ⟨c, rest, whole, digit⟩
    rw [whole, withoutBrackets]
    intro inner bracket
    rw [(List.cons.inj bracket).1] at digit
    exact absurd digit (by decide)
  rw [itemsOfText, ends.trimWhile_isBlank]
  simp only [bare]
  rfl

end ParamValue

theorem hasDigitEnds_intercalate {separator : String} {texts : List String} (given : texts ≠ [])
    (each : ∀ text ∈ texts, Text.HasDigitEnds text.toList) :
    Text.HasDigitEnds (String.intercalate separator texts).toList := by
  induction texts with
  | nil => exact absurd rfl given
  | cons text texts ih =>
      rcases List.forall_mem_cons.mp each with ⟨own, others⟩
      by_cases last : texts = []
      · subst last
        simpa using own
      · rw [String.intercalate_cons_of_ne_nil last, String.toList_append, String.toList_append]
        exact own.append (ih last others) separator.toList

namespace NumberRun

variable {run : NumberRun}

theorem hasDigitEnds_text (naturals : ∀ item ∈ run.items, item.IsNatural) :
    Text.HasDigitEnds (run.text toString).toList := by
  rw [text_eq_intercalate]
  refine hasDigitEnds_intercalate (by simpa using run.items_ne_nil) ?_
  intro text member
  rcases List.mem_map.mp member with ⟨item, own, rfl⟩
  exact hasDigitEnds_itemText (naturals item own)

/-- Two numbers in succession are two items of the text, as they are two items of the run. -/
theorem itemsWithin_text (naturals : ∀ item ∈ run.items, item.IsNatural) :
    ParamValue.itemsWithin (run.text toString).toList =
      run.items.map fun item => (item.itemText toString).toList := by
  rw [text_eq_intercalate, ParamValue.itemsWithin_intercalate ParamValue.isComma_blank,
    List.flatMap_map, List.map_eq_flatMap]
  refine List.flatMap_congr fun item own => ?_
  exact ParamValue.itemsWithin_single (hasDigitEnds_itemText (naturals item own))
    (item.comma_notMem_itemText fun number => ⟨.int number, rfl, rfl⟩)

end NumberRun

/-! ## Reading back -/

/-- The runs of a list in writing, with a separator between them. -/
def rangesText (separator : String) (numbers : List Int) : String :=
  String.intercalate separator ((runsOf numbers).map (NumberRun.text toString))

section

variable {numbers : List Int} {separator : String}

/-- The ends of an item are covered by its run. -/
theorem NumberRun.covers_of_mem_items {run item : NumberRun} (begun : run.first ≤ run.last)
    (own : item ∈ run.items) :
    item.first ≤ item.last ∧ run.Covers item.first ∧ run.Covers item.last := by
  have item_begun : item.first ≤ item.last := by
    unfold NumberRun.items at own
    split at own
    · rcases List.mem_cons.mp own with rfl | second
      · exact Int.le_refl _
      · rw [List.mem_singleton.mp second]
    · rw [List.mem_singleton.mp own]
      exact begun
  exact ⟨item_begun,
    (run.exists_covers_items_iff _).mp ⟨item, own, Int.le_refl _, item_begun⟩,
    (run.exists_covers_items_iff _).mp ⟨item, own, item_begun, Int.le_refl _⟩⟩

/-- The ends of an item are members of the list. -/
theorem ends_mem_of_mem_itemsOf (ordered : numbers.Pairwise (· ≤ ·)) {item : NumberRun}
    (inside : item ∈ itemsOf numbers) :
    item.first ≤ item.last ∧ item.first ∈ numbers ∧ item.last ∈ numbers := by
  rcases List.mem_flatMap.mp inside with ⟨run, among, own⟩
  have run_begun := (runsOf_separated ordered).1 run among
  rcases NumberRun.covers_of_mem_items run_begun own with ⟨begun, first, last⟩
  exact ⟨begun, (exists_covers_runsOf_iff ordered).mp ⟨run, among, first⟩,
    (exists_covers_runsOf_iff ordered).mp ⟨run, among, last⟩⟩

theorem isNatural_of_mem_itemsOf (ordered : numbers.Pairwise (· ≤ ·))
    (natural : ∀ number ∈ numbers, 0 ≤ number) :
    ∀ item ∈ itemsOf numbers, item.IsNatural := by
  intro item inside
  rcases ends_mem_of_mem_itemsOf ordered inside with ⟨begun, first, -⟩
  exact ⟨natural item.first first, begun⟩

/-- The items are in order. -/
theorem pairwise_itemsOf (ordered : numbers.Pairwise (· ≤ ·)) :
    (itemsOf numbers).Pairwise fun item later => item.last < later.first := by
  rcases runsOf_separated ordered with ⟨begun, apart⟩
  rw [itemsOf, List.pairwise_flatMap]
  constructor
  · intro run among
    unfold NumberRun.items
    split
    · rename_i two
      simp [two]
    · exact List.pairwise_singleton _ _
  · refine apart.imp_of_mem fun {run later} among amongLater gap item own other ownOther => ?_
    rcases NumberRun.covers_of_mem_items (begun run among) own with ⟨-, -, -, high⟩
    rcases NumberRun.covers_of_mem_items (begun later amongLater) ownOther with ⟨-, ⟨low, -⟩, -⟩
    omega

/-- The items hold the members of the list in order, each of them once. -/
theorem flatMap_numbers_itemsOf (ordered : numbers.Pairwise (· ≤ ·)) :
    (itemsOf numbers).flatMap NumberRun.numbers = numbers.dedup := by
  have strict : IsIncreasing ((itemsOf numbers).flatMap NumberRun.numbers) := by
    rw [IsIncreasing, List.pairwise_flatMap]
    refine ⟨fun item _ => isIncreasing_numbersBetween item.first item.last, ?_⟩
    refine (pairwise_itemsOf ordered).imp fun {item later} behind number own other ownOther => ?_
    have high := (mem_numbersBetween.mp own).2
    have low := (mem_numbersBetween.mp ownOther).1
    omega
  have once : IsIncreasing numbers.dedup := by
    have distinct : numbers.dedup.Pairwise (· ≠ ·) := numbers.nodup_dedup
    exact (distinct.and (ordered.sublist numbers.dedup_sublist)).imp fun {first later} before =>
      Int.lt_iff_le_and_ne.mpr ⟨before.2, before.1⟩
  refine List.Pairwise.eq_of_mem_iff strict once fun number => ?_
  rw [List.mem_dedup, ← exists_covers_runsOf_iff ordered, List.mem_flatMap]
  constructor
  · rintro ⟨item, inside, own⟩
    rcases List.mem_flatMap.mp inside with ⟨run, among, part⟩
    exact ⟨run, among,
      (run.exists_covers_items_iff number).mp ⟨item, part, mem_numbersBetween.mp own⟩⟩
  · rintro ⟨run, among, covers⟩
    rcases (run.exists_covers_items_iff number).mpr covers with ⟨item, part, own⟩
    exact ⟨item, List.mem_flatMap.mpr ⟨run, among, part⟩, mem_numbersBetween.mpr own⟩

/-- The text is cut into the items. -/
theorem itemsOfText_rangesText (ordered : numbers.Pairwise (· ≤ ·))
    (natural : ∀ number ∈ numbers, 0 ≤ number) (comma : ParamValue.IsComma separator) :
    ParamValue.itemsOfText (rangesText separator numbers) =
      (itemsOf numbers).map (NumberRun.itemText toString) := by
  have naturals : ∀ run ∈ runsOf numbers, ∀ item ∈ run.items, item.IsNatural :=
    fun run among item own =>
      isNatural_of_mem_itemsOf ordered natural item (List.mem_flatMap.mpr ⟨run, among, own⟩)
  by_cases none : runsOf numbers = []
  · rw [rangesText, itemsOf, none]
    rfl
  · have ends : Text.HasDigitEnds (rangesText separator numbers).toList := by
      refine hasDigitEnds_intercalate (by simpa using none) ?_
      intro text member
      rcases List.mem_map.mp member with ⟨run, among, rfl⟩
      exact NumberRun.hasDigitEnds_text (naturals run among)
    rw [ParamValue.itemsOfText_of_hasDigitEnds ends, rangesText,
      ParamValue.itemsWithin_intercalate comma, List.flatMap_map, itemsOf, List.map_flatMap,
      List.map_flatMap]
    refine List.flatMap_congr fun run among => ?_
    rw [NumberRun.itemsWithin_text (naturals run among), List.map_map]
    exact List.map_congr_left fun item _ => String.ofList_toList

/-- Everything is read back when no number is too long. -/
theorem readReservedNumbers_rangesText (ordered : numbers.Pairwise (· ≤ ·))
    (natural : ∀ number ∈ numbers, 0 ≤ number) (comma : ParamValue.IsComma separator)
    (small : ∀ number ∈ numbers, number < 10 ^ Text.maxDigits) :
    readReservedNumbers (ParamValue.itemsOfText (rangesText separator numbers)) =
      numbers.dedup := by
  rw [itemsOfText_rangesText ordered natural comma, readReservedNumbers, List.flatMap_map,
    ← flatMap_numbers_itemsOf ordered]
  refine List.flatMap_congr fun item inside => ?_
  exact NumberRun.readReserved_itemText (isNatural_of_mem_itemsOf ordered natural item inside)
    (small item.last (ends_mem_of_mem_itemsOf ordered inside).2.2)

/-- A run is not a part of a longer one. -/
theorem notMem_of_mem_runsOf (ordered : numbers.Pairwise (· ≤ ·)) {run : NumberRun}
    (among : run ∈ runsOf numbers) : run.first - 1 ∉ numbers ∧ run.last + 1 ∉ numbers := by
  rcases runsOf_separated ordered with ⟨begun, apart⟩
  have symmetric : Std.Symm fun one other : NumberRun =>
      one.last + 1 < other.first ∨ other.last + 1 < one.first := ⟨fun _ _ => Or.symm⟩
  have either : (runsOf numbers).Pairwise fun one other =>
      one.last + 1 < other.first ∨ other.last + 1 < one.first := apart.imp Or.inl
  have own := begun run among
  -- Another run that covers a neighbour of this one would not be apart from it.
  have uncovered : ∀ number, ¬run.Covers number → run.first - 1 ≤ number → number ≤ run.last + 1 →
      number ∉ numbers := by
    intro number outside above below member
    rcases (exists_covers_runsOf_iff ordered).mpr member with ⟨other, inside, low, high⟩
    have different : run ≠ other := by
      rintro rfl
      exact outside ⟨low, high⟩
    rcases either.forall among inside different with before | behind <;> omega
  constructor
  · exact uncovered _ (fun covers => absurd covers.1 (by omega)) (Int.le_refl _) (by omega)
  · exact uncovered _ (fun covers => absurd covers.2 (by omega)) (by omega) (Int.le_refl _)

/-! ## Writing and reading -/

/-- The runs of a list of integers in writing.  There are none at all as soon as
one number is too long to be written, the others included. -/
def writtenRanges (numbers : List Int) : Asked (List String) :=
  compactRanges (fun number => (Value.int number).askNumeral) numbers

/-- The runs of a list are written when the ends of all of them are short enough. -/
theorem writtenRanges_eq_ok_iff {texts : List String} :
    writtenRanges numbers = .ok texts ↔
      (∀ run ∈ runsOf numbers, run.first.natAbs < 10 ^ Text.maxDigits ∧
        run.last.natAbs < 10 ^ Text.maxDigits) ∧
      texts = (runsOf numbers).map (NumberRun.text toString) := by
  have each : ∀ (number : Int) (numeral : String), (Value.int number).askNumeral = .ok numeral ↔
      number.natAbs < 10 ^ Text.maxDigits ∧ numeral = toString number := by
    intro number numeral
    rw [Value.askNumeral_eq_ok_iff, Value.hasNumeral_int_iff]
    rfl
  exact compactRanges_eq_ok_iff each

/-- A list of natural numbers is written when all of them are short enough: every number lies below
the last one of its run. -/
theorem succeeds_writtenRanges_iff (natural : ∀ number ∈ numbers, 0 ≤ number)
    (ordered : numbers.Pairwise (· ≤ ·)) :
    (writtenRanges numbers).Succeeds ↔ ∀ number ∈ numbers, number < 10 ^ Text.maxDigits := by
  have small : ∀ number : Int, 0 ≤ number →
      (number.natAbs < 10 ^ Text.maxDigits ↔ number < 10 ^ Text.maxDigits) := by
    intro number above
    rw [← Int.natAbs_of_nonneg above, Int.natAbs_natCast]
    exact_mod_cast Iff.rfl
  constructor
  · rintro ⟨texts, written⟩ number member
    rcases (exists_covers_runsOf_iff ordered).mpr member with ⟨run, among, covers⟩
    have above : 0 ≤ run.last := Int.le_trans (natural number member) covers.2
    have short := (writtenRanges_eq_ok_iff.mp written).1 run among
    exact Int.lt_of_le_of_lt covers.2 ((small run.last above).mp short.2)
  · intro short
    refine ⟨_, writtenRanges_eq_ok_iff.mpr ⟨fun run among => ?_, rfl⟩⟩
    have begun := (runsOf_separated ordered).1 run among
    have first : run.first ∈ numbers :=
      (exists_covers_runsOf_iff ordered).mp ⟨run, among, Int.le_refl _, begun⟩
    have last : run.last ∈ numbers :=
      (exists_covers_runsOf_iff ordered).mp ⟨run, among, begun, Int.le_refl _⟩
    exact ⟨(small _ (natural _ first)).mpr (short _ first),
      (small _ (natural _ last)).mpr (short _ last)⟩

def reservedNote (separator : String) (entries : List String) : Annotation where
  name := .text "reserved"
  params := [("numbers", .text (String.intercalate separator entries))]

theorem list?_of_get? {note : Annotation} {param text : String}
    (stated : note.get? param = some (.text text)) :
    note.list? param = some (ParamValue.itemsOfText text) := by
  unfold Annotation.list?
  rw [stated, Option.bind_some, ParamValue.asList?]

theorem declaredNumbers_reservedNote {composite : Composite} {entries : List String}
    (only : composite.annotations = [reservedNote separator entries]) (message : Value) :
    composite.declaredNumbers message =
      .ok (readReservedNumbers (ParamValue.itemsOfText
        (String.intercalate separator entries))) := by
  have texts : [reservedNote separator entries].all Annotation.hasTextName = true := rfl
  have word : (["reserved"].any fun word =>
      Text.lower "reserved" = word ||
        Text.endsWith (Text.lower "reserved") ("." ++ word)) = true := by
    decide +kernel
  have named : (reservedNote separator entries).isNamed ["reserved"] = true := word
  have applies : (reservedNote separator entries).appliesTo message true = true := rfl
  have kept : [reservedNote separator entries].filter (fun note => note.appliesTo message true) =
      [reservedNote separator entries] := by
    refine List.filter_eq_self.mpr fun note member => ?_
    rw [List.mem_singleton.mp member]
    exact applies
  have listed : (reservedNote separator entries).list? "numbers" =
      some (ParamValue.itemsOfText (String.intercalate separator entries)) := list?_of_get? rfl
  simp only [Composite.declaredNumbers, Composite.reservedAnnotations, only,
    annotationsNamed_of_text texts, List.filter_cons_of_pos named, List.filter_nil, Asked.ok_bind,
    Asked.pure_eq_ok, kept, List.flatMap_singleton, listed, Option.getD_some]

/-- Reserved numbers in writing.  A list of natural numbers in order is written exactly when none of
them has too many digits.  What is written are its runs, which are as long as they can be, each as
one number, as two numbers, or as a range.  An annotation that states these texts with commas
between them is read back as the members of the list in order, each of them once. -/
theorem reservedRanges_roundTrip (natural : ∀ number ∈ numbers, 0 ≤ number)
    (ordered : numbers.Pairwise (· ≤ ·)) (comma : ParamValue.IsComma separator) :
    ((writtenRanges numbers).Succeeds ↔ ∀ number ∈ numbers, number < 10 ^ Text.maxDigits) ∧
    ∀ texts, writtenRanges numbers = .ok texts →
      (∀ note : Annotation,
        note.get? "numbers" = some (.text (String.intercalate separator texts)) →
          readReservedNumbers ((note.list? "numbers").getD []) = numbers.dedup) ∧
      (∀ (composite : Composite) (message : Value),
        composite.annotations = [reservedNote separator texts] →
          composite.declaredNumbers message = .ok numbers.dedup) ∧
      ∃ runs : List NumberRun,
        (∀ number, (∃ run ∈ runs, run.first ≤ number ∧ number ≤ run.last) ↔ number ∈ numbers) ∧
        runs.Pairwise (fun run later => run.last + 1 < later.first) ∧
        (∀ run ∈ runs, run.first ≤ run.last ∧ run.first - 1 ∉ numbers ∧ run.last + 1 ∉ numbers) ∧
        List.Forall₂ (fun run text =>
          (run.last = run.first → text = toString run.first) ∧
          (run.last = run.first + 1 →
            text = toString run.first ++ ", " ++ toString run.last) ∧
          (run.first + 2 ≤ run.last →
            text = toString run.first ++ " to " ++ toString run.last)) runs texts := by
  refine ⟨succeeds_writtenRanges_iff natural ordered, fun texts written => ?_⟩
  have small := (succeeds_writtenRanges_iff natural ordered).mp ⟨texts, written⟩
  have reads := readReservedNumbers_rangesText ordered natural comma small
  rcases writtenRanges_eq_ok_iff.mp written with ⟨-, rfl⟩
  rcases runsOf_separated ordered with ⟨begun, apart⟩
  refine ⟨fun note stated => ?_, fun composite message only => ?_, runsOf numbers,
    fun number => exists_covers_runsOf_iff ordered, apart, fun run among => ?_, ?_⟩
  · rw [list?_of_get? stated, Option.getD_some]
    exact reads
  · rw [declaredNumbers_reservedNote only message]
    exact congrArg Except.ok reads
  · exact ⟨begun run among, notMem_of_mem_runsOf ordered among⟩
  · rw [List.forall₂_map_right_iff, List.forall₂_same]
    intro run among
    refine ⟨fun one => ?_, fun two => ?_, fun more => ?_⟩
    · rw [NumberRun.text, if_pos one.symm]
    · rw [NumberRun.text, if_neg (by omega), if_pos two]
    · rw [NumberRun.text, if_neg (by omega), if_neg (by omega)]

/-- Runs of one, two and three numbers, one of the numbers given twice. -/
theorem reservedRanges_roundTrip_threeRuns :
    (∀ number ∈ ([1, 3, 4, 4, 7, 8, 9] : List Int), 0 ≤ number ∧ number < 10 ^ Text.maxDigits) ∧
    ([1, 3, 4, 4, 7, 8, 9] : List Int).Pairwise (· ≤ ·) ∧
    writtenRanges [1, 3, 4, 4, 7, 8, 9] = .ok ["1", "3, 4", "7 to 9"] ∧
    readReservedNumbers
      (((reservedNote ", " ["1", "3, 4", "7 to 9"]).list? "numbers").getD []) =
        [1, 3, 4, 7, 8, 9] := by
  have natural : ∀ number ∈ ([1, 3, 4, 4, 7, 8, 9] : List Int), 0 ≤ number := by decide
  have ordered : ([1, 3, 4, 4, 7, 8, 9] : List Int).Pairwise (· ≤ ·) := by decide
  have oneDigit : ∀ number ∈ ([1, 3, 4, 4, 7, 8, 9] : List Int), number < 10 := by decide
  have small : ∀ number ∈ ([1, 3, 4, 4, 7, 8, 9] : List Int), number < 10 ^ Text.maxDigits :=
    fun number member => lt_of_lt_of_le (oneDigit number member)
      (le_self_pow₀ (by decide) (by decide))
  rcases reservedRanges_roundTrip natural ordered ParamValue.isComma_blank with ⟨succeeds, reads⟩
  rcases succeeds.mpr small with ⟨texts, written⟩
  have expected : texts = ["1", "3, 4", "7 to 9"] :=
    (writtenRanges_eq_ok_iff.mp written).2.trans (by decide +kernel)
  subst expected
  exact ⟨fun number member => ⟨natural number member, small number member⟩, ordered, written,
    (reads _ written).1 (reservedNote ", " ["1", "3, 4", "7 to 9"]) rfl⟩

/-- Two numbers in succession, the second of which is too long, are not written. -/
theorem writtenRanges_eq_error {number : Int} (long : 10 ^ Text.maxDigits ≤ (number + 1).natAbs)
    (short : number.natAbs < 10 ^ Text.maxDigits) :
    writtenRanges [number, number + 1] = .error .badContent := by
  have next : number + 1 ≠ number := by omega
  have runs : runsOf [number, number + 1] = [⟨number, number + 1⟩] := by
    simp [runsOf, runsFrom, next]
  have first : (Value.int number).askNumeral = .ok (toString number) :=
    Value.askNumeral_eq_ok_iff.mpr ⟨Value.hasNumeral_int_iff.mpr short, rfl⟩
  have second : (Value.int (number + 1)).askNumeral = .error .badContent :=
    Value.askNumeral_eq_error (mt Value.hasNumeral_int_iff.mp (Nat.not_lt.mpr long))
  rw [writtenRanges, compactRanges, runs, List.mapM_cons, NumberRun.write, first, Asked.ok_bind,
    second]
  rfl

/-- The greatest number that can be written and the next one are natural numbers in order without
runs in writing. -/
theorem writtenRanges_tooLong :
    (∀ number ∈ [(10 : Int) ^ Text.maxDigits - 1, 10 ^ Text.maxDigits], 0 ≤ number) ∧
    [(10 : Int) ^ Text.maxDigits - 1, 10 ^ Text.maxDigits].Pairwise (· ≤ ·) ∧
    writtenRanges [(10 : Int) ^ Text.maxDigits - 1, 10 ^ Text.maxDigits] =
      .error .badContent := by
  have positive : (0 : Int) < 10 ^ Text.maxDigits := pow_pos (by decide) _
  have amounts : ∀ count : Nat, ((10 : Int) ^ count).natAbs = 10 ^ count :=
    fun count => Int.natAbs_pow 10 count
  have amount := amounts Text.maxDigits
  generalize (10 : Int) ^ Text.maxDigits = bound at positive amount ⊢
  refine ⟨?_, ?_, ?_⟩
  · simp only [List.forall_mem_cons, List.not_mem_nil, false_implies, implies_true, and_true]
    omega
  · rw [List.pairwise_pair]
    omega
  · have again : bound - 1 + 1 = bound := by omega
    have long : 10 ^ Text.maxDigits ≤ (bound - 1 + 1).natAbs := by rw [again, amount]
    have refused := writtenRanges_eq_error long (by rw [← amount]; omega)
    rwa [again] at refused

end

end WireSchema
