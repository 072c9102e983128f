import Mathlib
import WireSchema.Proofs.Text.Literals

namespace WireSchema.Text

/-!
# Numbers in digits

A number that is written in digits is read back, unless there are more digits than an integer text
may have; then nothing is read.  A text with digits at both ends is left alone when it is trimmed,
whatever stands between them.
-/

variable {cs : List Char}

/-! ## Digits -/

theorem digitValue?_of_isDigit {c : Char} (digit : c.isDigit = true) :
    digitValue? c = some (c.toNat - '0'.toNat) := by
  have place : 0x30 ≤ c.toNat ∧ c.toNat < 0x30 + 10 := by
    simp only [Char.isDigit, Bool.and_eq_true, decide_eq_true_eq, ge_iff_le,
      UInt32.le_iff_toNat_le] at digit
    exact ⟨digit.1, Nat.lt_succ_of_le digit.2⟩
  rw [digitValue?, zeroDigits, List.find?_cons_of_pos (by simpa using place)]
  rfl

/-- Digits are read one by one. -/
theorem digits?_of_isDigit {owed : Bool} (given : owed = true → cs ≠ [])
    (each : ∀ c ∈ cs, c.isDigit = true) :
    digits? owed cs = some (cs.map fun c => c.toNat - '0'.toNat) := by
  induction cs generalizing owed with
  | nil =>
      cases owed with
      | false => rfl
      | true => exact absurd rfl (given rfl)
  | cons c cs ih =>
      rcases List.forall_mem_cons.mp each with ⟨digit, others⟩
      rw [digits?, digitValue?_of_isDigit digit]
      simp only
      rw [ih (fun owes => absurd owes Bool.false_ne_true) others]
      rfl

theorem ofDigits_map (cs : List Char) :
    ofDigits (cs.map fun c => c.toNat - '0'.toNat) = Nat.ofDigitChars 10 cs 0 := by
  rw [ofDigits, List.foldl_map, Nat.ofDigitChars_eq_foldl]

theorem isDigit_of_mem_toDigits {n : Nat} : ∀ c ∈ Nat.toDigits 10 n, c.isDigit = true :=
  fun _ => Nat.isDigit_of_mem_toDigits (by decide) (by decide)

theorem notMem_toDigits {c : Char} (other : c.isDigit = false) (n : Nat) :
    c ∉ Nat.toDigits 10 n := by
  intro member
  rw [isDigit_of_mem_toDigits c member] at other
  cases other

theorem length_toDigits_le_maxDigits_iff {n : Nat} :
    (Nat.toDigits 10 n).length ≤ maxDigits ↔ n < 10 ^ maxDigits :=
  Nat.length_toDigits_le_iff (by decide) (by decide)

/-- An integer is written in digits if they are not too many. -/
theorem writeInteger?_eq_some_iff {number : Int} {numeral : String} :
    writeInteger? number = some numeral ↔
      number.natAbs < 10 ^ maxDigits ∧ numeral = toString number := by
  unfold writeInteger?
  split
  · rename_i short
    rw [Option.some.injEq, eq_comm]
    exact (and_iff_right (length_toDigits_le_maxDigits_iff.mp short)).symm
  · rename_i long
    constructor
    · rintro ⟨⟩
    · rintro ⟨short, -⟩
      exact absurd (length_toDigits_le_maxDigits_iff.mpr short) long

/-- A number that is written in digits is read back if they are not too many. -/
theorem readNatural?_toDigits (n : Nat) :
    readNatural? (Nat.toDigits 10 n) = if n < 10 ^ maxDigits then some n else none := by
  have length := length_toDigits_le_maxDigits_iff (n := n)
  rw [readNatural?, digits?_of_isDigit (fun _ => Nat.toDigits_ne_nil) isDigit_of_mem_toDigits]
  simp only [List.length_map, length, ofDigits_map, Nat.ofDigitChars_ten_toDigits]

theorem readInteger?_toString (n : Nat) :
    readInteger? (toString n) = if n < 10 ^ maxDigits then some (n : Int) else none := by
  have trimmed : trimWhile (integerMargin (Nat.toDigits 10 n)) (Nat.toDigits 10 n) =
      Nat.toDigits 10 n :=
    trimWhile_eq_self fun c member =>
      integerMargin_eq_false (.inl (isDigit_of_mem_toDigits c member)) _
  have read : (readNatural? (Nat.toDigits 10 n)).map (fun value => (value : Int)) =
      if n < 10 ^ maxDigits then some (n : Int) else none := by
    rw [readNatural?_toDigits]
    split <;> rfl
  rw [readInteger?, Nat.toString_eq_repr, Nat.toList_repr, trimmed]
  split
  · rename_i rest whole
    exact absurd (whole ▸ List.mem_cons_self) (notMem_toDigits (c := '-') rfl n)
  · rename_i rest whole
    exact absurd (whole ▸ List.mem_cons_self) (notMem_toDigits (c := '+') rfl n)
  · exact read

/-! ## Digits at both ends -/

/-- A text that begins with a digit and ends with one. -/
structure HasDigitEnds (cs : List Char) : Prop where
  first : ∃ c rest, cs = c :: rest ∧ c.isDigit = true
  last : ∃ front c, cs = front ++ [c] ∧ c.isDigit = true

namespace HasDigitEnds

theorem ne_nil (ends : HasDigitEnds cs) : cs ≠ [] := by
  rcases ends.first with ⟨c, rest, rfl, -⟩
  exact List.cons_ne_nil c rest

theorem toDigits (n : Nat) : HasDigitEnds (Nat.toDigits 10 n) where
  first := by
    rcases List.exists_cons_of_ne_nil (Nat.toDigits_ne_nil (n := n) (b := 10)) with ⟨c, rest, whole⟩
    exact ⟨c, rest, whole, isDigit_of_mem_toDigits (n := n) c
      (by rw [whole]; exact List.mem_cons_self)⟩
  last := by
    rcases List.eq_nil_or_concat (Nat.toDigits 10 n) with empty | ⟨front, c, whole⟩
    · exact absurd empty Nat.toDigits_ne_nil
    · rw [List.concat_eq_append] at whole
      exact ⟨front, c, whole, isDigit_of_mem_toDigits (n := n) c (by rw [whole]; simp)⟩

/-- What stands between two such texts does not matter. -/
theorem append {other : List Char} (ends : HasDigitEnds cs) (others : HasDigitEnds other)
    (between : List Char) : HasDigitEnds (cs ++ between ++ other) where
  first := by
    rcases ends.first with ⟨c, rest, rfl, digit⟩
    exact ⟨c, rest ++ between ++ other, rfl, digit⟩
  last := by
    rcases others.last with ⟨front, c, rfl, digit⟩
    exact ⟨cs ++ between ++ front, c, (List.append_assoc _ _ _).symm, digit⟩

/-- Trimming leaves the text alone. -/
theorem trimWhile_eq {drop : Char → Bool} (ends : HasDigitEnds cs)
    (kept : ∀ c, c.isDigit = true → drop c = false) : trimWhile drop cs = cs := by
  apply trimWhile_of_ends
  · rcases ends.first with ⟨c, rest, rfl, digit⟩
    rintro _ ⟨⟩
    exact kept c digit
  · rcases ends.last with ⟨front, c, rfl, digit⟩
    intro other member
    rw [List.getLast?_concat] at member
    cases member
    exact kept c digit

theorem trimWhile_isBlank (ends : HasDigitEnds cs) : trimWhile isBlank cs = cs :=
  ends.trimWhile_eq fun _ digit => isBlank_of_isIntegerChar (.inl digit)

end HasDigitEnds

end WireSchema.Text
