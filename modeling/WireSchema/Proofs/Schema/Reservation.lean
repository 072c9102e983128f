import Mathlib.Data.List.Basic
import WireSchema.Schema.Reservation

namespace WireSchema

/-!
# Reserved numbers in order and in runs

A message states its reserved numbers in increasing order, and writes them as runs.  Neither step
may lose or invent a number: the increasing list has the members of the list it was made from, and
the runs of a list in order cover its members and nothing else.  The increasing order is strict, so
that the list is determined by its members; for the runs a number may stand several times.  Between
two runs a number is missing, so no run could be longer.
-/

/-- A list in strictly increasing order. -/
def IsIncreasing (numbers : List Int) : Prop :=
  numbers.Pairwise (· < ·)

theorem IsIncreasing.nondecreasing {numbers : List Int} (ordered : IsIncreasing numbers) :
    numbers.Pairwise (· ≤ ·) :=
  ordered.imp Int.le_of_lt

theorem mem_insertNumber {candidate number : Int} {numbers : List Int} :
    candidate ∈ insertNumber number numbers ↔ candidate = number ∨ candidate ∈ numbers := by
  induction numbers with
  | nil => simp [insertNumber]
  | cons first others ih =>
      unfold insertNumber
      by_cases below : number < first
      · rw [if_pos below, List.mem_cons]
      · rw [if_neg below]
        by_cases same : number = first
        · rw [if_pos same, List.mem_cons, same]
          tauto
        · rw [if_neg same, List.mem_cons, ih, List.mem_cons]
          tauto

theorem isIncreasing_insertNumber (number : Int) {numbers : List Int}
    (ordered : IsIncreasing numbers) : IsIncreasing (insertNumber number numbers) := by
  induction numbers with
  | nil => exact List.pairwise_singleton _ number
  | cons first others ih =>
      have parts := List.pairwise_cons.mp ordered
      unfold insertNumber
      by_cases below : number < first
      · rw [if_pos below]
        refine List.pairwise_cons.mpr ⟨?_, ordered⟩
        intro other member
        rcases List.mem_cons.mp member with rfl | later
        · exact below
        · exact Int.lt_trans below (parts.1 other later)
      · rw [if_neg below]
        by_cases same : number = first
        · rw [if_pos same]
          exact ordered
        · rw [if_neg same]
          refine List.pairwise_cons.mpr ⟨?_, ih parts.2⟩
          intro other member
          rcases mem_insertNumber.mp member with rfl | later
          · omega
          · exact parts.1 other later

theorem mem_increasing {candidate : Int} {numbers : List Int} :
    candidate ∈ increasing numbers ↔ candidate ∈ numbers := by
  induction numbers with
  | nil => exact Iff.rfl
  | cons first others ih =>
      rw [increasing, List.foldr_cons, mem_insertNumber, List.mem_cons]
      exact or_congr_right ih

theorem isIncreasing_increasing (numbers : List Int) : IsIncreasing (increasing numbers) := by
  induction numbers with
  | nil => exact List.Pairwise.nil
  | cons first others ih => exact isIncreasing_insertNumber first ih

/-! ## Runs -/

/-- A run covers the numbers from its first to its last one.  The numbers between
the ends are reserved although they are not written. -/
def NumberRun.Covers (run : NumberRun) (number : Int) : Prop :=
  run.first ≤ number ∧ number ≤ run.last

theorem covers_single_iff {number candidate : Int} :
    NumberRun.Covers ⟨number, number⟩ candidate ↔ candidate = number := by
  constructor
  · rintro ⟨low, high⟩
    exact Int.le_antisymm high low
  · rintro rfl
    exact ⟨Int.le_refl candidate, Int.le_refl candidate⟩

/-- A run that goes on by one number covers that number and what it covered before. -/
theorem covers_extended_iff {first last candidate : Int} (begun : first ≤ last) :
    NumberRun.Covers ⟨first, last + 1⟩ candidate ↔
      NumberRun.Covers ⟨first, last⟩ candidate ∨ candidate = last + 1 := by
  constructor
  · rintro ⟨low, high⟩
    by_cases same : candidate = last + 1
    · exact Or.inr same
    · exact Or.inl ⟨low, Int.le_of_lt_add_one (Int.lt_iff_le_and_ne.mpr ⟨high, same⟩)⟩
  · rintro (⟨low, high⟩ | rfl)
    · exact ⟨low, Int.le_trans high (Int.le_add_of_nonneg_right (by decide))⟩
    · exact ⟨Int.le_trans begun (Int.le_add_of_nonneg_right (by decide)), Int.le_refl _⟩

/-- What is covered after a run that was begun: that run and the rest of the list.  The invariant is
that nothing in the rest lies in front of the last number of the run. -/
theorem exists_covers_runsFrom_iff {candidate first last : Int} {numbers : List Int}
    (begun : first ≤ last) (ordered : (last :: numbers).Pairwise (· ≤ ·)) :
    (∃ run ∈ runsFrom ⟨first, last⟩ numbers, run.Covers candidate) ↔
      NumberRun.Covers ⟨first, last⟩ candidate ∨ candidate ∈ numbers := by
  induction numbers generalizing first last with
  | nil => simp [runsFrom]
  | cons number numbers ih =>
      rcases List.pairwise_cons.mp ordered with ⟨behind, rest⟩
      rw [runsFrom]
      by_cases same : number = last
      · subst same
        have covers : NumberRun.Covers ⟨first, number⟩ number := ⟨begun, Int.le_refl number⟩
        rw [if_pos rfl, ih begun rest, List.mem_cons]
        constructor
        · exact fun found => found.imp_right Or.inr
        · rintro (own | rfl | later)
          · exact Or.inl own
          · exact Or.inl covers
          · exact Or.inr later
      · rw [if_neg same]
        have reached : first ≤ number :=
          Int.le_trans begun (behind number List.mem_cons_self)
        by_cases next : number = last + 1
        · rw [if_pos next, ih reached rest, next, covers_extended_iff begun,
            List.mem_cons, or_assoc]
        · rw [if_neg next]
          simp only [List.mem_cons, exists_eq_or_imp, ih (Int.le_refl number) rest,
            covers_single_iff]

/-- The runs of a list in order cover exactly its members. -/
theorem exists_covers_runsOf_iff {candidate : Int} {numbers : List Int}
    (ordered : numbers.Pairwise (· ≤ ·)) :
    (∃ run ∈ runsOf numbers, run.Covers candidate) ↔ candidate ∈ numbers := by
  cases numbers with
  | nil => simp [runsOf]
  | cons number numbers =>
      rw [runsOf, exists_covers_runsFrom_iff (Int.le_refl number) ordered, covers_single_iff,
        List.mem_cons]

/-- The runs behind a run that was begun.  Each begins where that run does or later, and between two
of them a number is missing. -/
theorem runsFrom_separated {first last : Int} {numbers : List Int} (begun : first ≤ last)
    (ordered : (last :: numbers).Pairwise (· ≤ ·)) :
    (∀ run ∈ runsFrom ⟨first, last⟩ numbers, first ≤ run.first ∧ run.first ≤ run.last) ∧
      (runsFrom ⟨first, last⟩ numbers).Pairwise fun run later => run.last + 1 < later.first := by
  induction numbers generalizing first last with
  | nil => simp [runsFrom, begun]
  | cons number numbers ih =>
      rcases List.pairwise_cons.mp ordered with ⟨behind, rest⟩
      have after : last ≤ number := behind number List.mem_cons_self
      have reached : first ≤ number := Int.le_trans begun after
      rw [runsFrom]
      by_cases same : number = last
      · rw [if_pos same]
        rw [same] at rest
        exact ih begun rest
      · rw [if_neg same]
        by_cases next : number = last + 1
        · rw [if_pos next]
          exact ih reached rest
        · rw [if_neg next]
          rcases ih (Int.le_refl number) rest with ⟨each, apart⟩
          refine ⟨List.forall_mem_cons.mpr ⟨⟨Int.le_refl first, begun⟩, fun run member => ?_⟩,
            List.pairwise_cons.mpr ⟨fun run member => ?_, apart⟩⟩
          · exact ⟨Int.le_trans reached (each run member).1, (each run member).2⟩
          · have later := (each run member).1
            change last + 1 < run.first
            omega

/-- The runs of a list in order are in order, and between two of them a number is missing. -/
theorem runsOf_separated {numbers : List Int} (ordered : numbers.Pairwise (· ≤ ·)) :
    (∀ run ∈ runsOf numbers, run.first ≤ run.last) ∧
      (runsOf numbers).Pairwise fun run later => run.last + 1 < later.first := by
  cases numbers with
  | nil => simp [runsOf]
  | cons number numbers =>
      rcases runsFrom_separated (Int.le_refl number) ordered with ⟨each, apart⟩
      exact ⟨fun run member => (each run member).2, apart⟩

end WireSchema
