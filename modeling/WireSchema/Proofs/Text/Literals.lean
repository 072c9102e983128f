import Mathlib.Data.List.Basic
import WireSchema.Document.Json.Reader
import WireSchema.Proofs.Text.Segments
import WireSchema.Text.Integer

namespace WireSchema

/-!
# Literals of the schema language

A string literal stands between double quotes.  It is closed by the first quote that no backslash
escapes, and holds neither a line feed nor the character zero.  An escape stands for a character of
control, for a byte by its octal or hexadecimal digits, or for a character by its code point; what a
literal holds is therefore read as bytes.

A text that is put between quotes as it is reads back as itself exactly when it has no character
that the reader treats in a special way.  The reason is a count of bytes: every escape is longer
than what it stands for, so that reading back everything up to the closing quote leaves no room for
one.

An integer literal is an optional sign and digits of the basic Latin block.
-/

namespace Text

/-! ## Reading a literal -/

def bytesOf (cs : List Char) : List UInt8 :=
  cs.flatMap String.utf8EncodeChar

def escapedByte? (c : Char) : Option UInt8 :=
  lookupKey? c
    [('a', 7), ('b', 8), ('f', 12), ('n', 10), ('r', 13), ('t', 9), ('v', 11), ('\\', 92),
     ('\'', 39), ('"', 34), ('?', 63)]

def octalValue? (c : Char) : Option Nat :=
  if '0' ≤ c && c ≤ '7' then some (c.toNat - 48) else none

/-- The values of the leading digits of a text, at most as many as said.  An
escape takes as many digits as there are up to its limit, and leaves the others
as text. -/
def leadingDigits (value? : Char → Option Nat) : Nat → List Char → List Nat
  | 0, _ => []
  | _, [] => []
  | most + 1, c :: cs =>
      match value? c with
      | some digit => digit :: leadingDigits value? most cs
      | none => []

def numberOf (base : Nat) (digits : List Nat) : Nat :=
  digits.foldl (fun number digit => base * number + digit) 0

/-- An escape by code point in exactly so many digits: the bytes of its character, and how many
characters it takes behind the backslash. -/
def codePointEscape? (width : Nat) (cs : List Char) : Option (List UInt8 × Nat) :=
  let digits := leadingDigits Json.hexValue? width cs
  let c := Char.ofNat (numberOf 16 digits)
  if digits.length = width ∧ c.toNat = numberOf 16 digits then
    some (String.utf8EncodeChar c, width + 1)
  else none

/-- An escape by the digits of a byte, of which at least one is needed. -/
def byteEscape? (base : Nat) (digits : List Nat) (mark : Nat) : Option (List UInt8 × Nat) :=
  if digits.isEmpty then none
  else some ([UInt8.ofNat (numberOf base digits)], digits.length + mark)

/-- The bytes that an escape stands for, and how many characters it takes behind
the backslash.  An escape that the language does not know makes the literal
unreadable. -/
def escape? : List Char → Option (List UInt8 × Nat)
  | [] => none
  | c :: cs =>
      match escapedByte? c with
      | some byte => some ([byte], 1)
      | none =>
          if c = 'x' ∨ c = 'X' then byteEscape? 16 (leadingDigits Json.hexValue? 2 cs) 1
          else if c = 'u' then codePointEscape? 4 cs
          else if c = 'U' then codePointEscape? 8 cs
          else byteEscape? 8 (leadingDigits octalValue? 3 (c :: cs)) 0

/-- A character that a literal holds as it is.  A line feed is not one of them: a
literal does not go on behind the end of its line. -/
def standsForItself (c : Char) : Bool :=
  c != '"' && c != '\\' && c != '\n' && c.toNat != 0

/-- What a literal holds from some place on, and what follows its closing quote.  The characters of
an escape that was read are skipped. -/
def readBody? : Nat → List Char → Option (List UInt8 × List Char)
  | _, [] => none
  | skip + 1, _ :: cs => readBody? skip cs
  | 0, c :: cs =>
      if c = '"' then some ([], cs)
      else if c = '\\' then
        match escape? cs with
        | some (bytes, width) => (readBody? width cs).map fun read => (bytes ++ read.1, read.2)
        | none => none
      else if standsForItself c then
        (readBody? 0 cs).map fun read => (String.utf8EncodeChar c ++ read.1, read.2)
      else none

/-- The bytes that a literal at the start of a text holds, and what follows it.
Without a quote at the start, or without a closing one, there is no literal. -/
def readLiteral? (text : String) : Option (List UInt8 × String) :=
  match text.toList with
  | '"' :: cs => (readBody? 0 cs).map fun read => (read.1, String.ofList read.2)
  | _ => none

/-- A text that has no character with a meaning of its own in a literal.  Such a
text stands in a literal for its own bytes, without any escapes. -/
def IsLiteralContent (text : String) : Prop :=
  ∀ c ∈ text.toList, standsForItself c = true

instance (text : String) : Decidable (IsLiteralContent text) :=
  List.decidableBAll (fun c => standsForItself c = true) text.toList

/-! ## Counting bytes -/

theorem bytesOf_cons (c : Char) (cs : List Char) :
    bytesOf (c :: cs) = String.utf8EncodeChar c ++ bytesOf cs :=
  List.flatMap_cons

theorem bytesOf_append (first second : List Char) :
    bytesOf (first ++ second) = bytesOf first ++ bytesOf second :=
  List.flatMap_append

theorem length_bytesOf_cons (c : Char) (cs : List Char) :
    (bytesOf (c :: cs)).length = c.utf8Size + (bytesOf cs).length := by
  rw [bytesOf_cons, List.length_append, String.length_utf8EncodeChar]

/-- Each character that is dropped has a byte at least. -/
theorem length_bytesOf_drop {count : Nat} {cs : List Char} (some : count ≤ cs.length) :
    (bytesOf (cs.drop count)).length + count ≤ (bytesOf cs).length := by
  induction count generalizing cs with
  | zero => simp
  | succ count ih =>
      cases cs with
      | nil => cases some
      | cons c cs =>
          have rest := ih (Nat.le_of_succ_le_succ some)
          have one := c.utf8Size_pos
          rw [List.drop_succ_cons, length_bytesOf_cons]
          omega

theorem length_leadingDigits_le (value? : Char → Option Nat) (most : Nat) (cs : List Char) :
    (leadingDigits value? most cs).length ≤ cs.length := by
  induction cs generalizing most with
  | nil => cases most <;> exact Nat.le_refl 0
  | cons c cs ih =>
      cases most with
      | zero => exact Nat.zero_le _
      | succ most =>
          rw [leadingDigits]
          split
          · exact Nat.succ_le_succ (ih most)
          · exact Nat.zero_le _

section Escapes

variable {cs : List Char} {bytes : List UInt8} {width : Nat}

theorem length_of_byteEscape? {base mark : Nat} {digits : List Nat}
    (read : byteEscape? base digits mark = some (bytes, width)) :
    bytes.length ≤ width ∧ width = digits.length + mark := by
  unfold byteEscape? at read
  split at read
  · cases read
  · rename_i given
    cases read
    have one : 0 < digits.length := List.length_pos_of_ne_nil (by simpa using given)
    exact ⟨by rw [List.length_singleton]; omega, rfl⟩

/-- Three digits are enough, since no character has more than four bytes. -/
theorem length_of_codePointEscape? {digits : Nat} (enough : 3 ≤ digits)
    (read : codePointEscape? digits cs = some (bytes, width)) :
    bytes.length ≤ width ∧ width ≤ cs.length + 1 := by
  unfold codePointEscape? at read
  dsimp only at read
  split at read
  · rename_i full
    cases read
    have most := length_leadingDigits_le Json.hexValue? digits cs
    have four :=
      (Char.ofNat (numberOf 16 (leadingDigits Json.hexValue? digits cs))).utf8Size_le_four
    rw [full.1] at most
    exact ⟨by rw [String.length_utf8EncodeChar]; omega, by omega⟩
  · cases read

/-- An escape takes at least as many characters behind its backslash as it stands for bytes. -/
theorem length_of_escape? (read : escape? cs = some (bytes, width)) :
    bytes.length ≤ width ∧ width ≤ cs.length := by
  cases cs with
  | nil => cases read
  | cons c cs =>
      rw [escape?] at read
      rw [List.length_cons]
      split at read
      · cases read
        exact ⟨Nat.le_refl 1, Nat.succ_le_succ (Nat.zero_le _)⟩
      · split at read
        · rcases length_of_byteEscape? read with ⟨enough, rfl⟩
          exact ⟨enough, Nat.succ_le_succ (length_leadingDigits_le _ _ _)⟩
        · split at read
          · exact length_of_codePointEscape? (by decide) read
          · split at read
            · exact length_of_codePointEscape? (by decide) read
            · rcases length_of_byteEscape? read with ⟨enough, rfl⟩
              exact ⟨enough, length_leadingDigits_le _ _ (c :: cs)⟩

end Escapes

/-- What a literal holds and what follows it are shorter together than the text that is read, since
there is the closing quote. -/
theorem length_of_readBody? {skip : Nat} {cs rest : List Char} {content : List UInt8}
    (read : readBody? skip cs = some (content, rest)) :
    content.length + (bytesOf rest).length < (bytesOf (cs.drop skip)).length := by
  induction cs generalizing skip content with
  | nil => cases skip <;> cases read
  | cons c cs ih =>
      have one := c.utf8Size_pos
      cases skip with
      | succ skip => exact ih read
      | zero =>
          rw [List.drop_zero, length_bytesOf_cons]
          rw [readBody?] at read
          split at read
          · cases read
            rw [List.length_nil]
            omega
          · split at read
            · split at read
              · rename_i bytes width escaped
                rcases Option.map_eq_some_iff.mp read with ⟨⟨more, behind⟩, rest, final⟩
                dsimp only at final
                cases final
                have shorter := ih rest
                rcases length_of_escape? escaped with ⟨fits, inside⟩
                have dropped := length_bytesOf_drop inside
                rw [List.length_append]
                omega
              · cases read
            · split at read
              · rcases Option.map_eq_some_iff.mp read with ⟨⟨more, behind⟩, rest, final⟩
                dsimp only at final
                cases final
                have shorter := ih rest
                rw [List.drop_zero] at shorter
                rw [List.length_append, String.length_utf8EncodeChar]
                omega
              · cases read

/-! ## Reading back a text -/

theorem standsForItself_iff {c : Char} :
    standsForItself c = true ↔ c ≠ '"' ∧ c ≠ '\\' ∧ c ≠ '\n' ∧ c.toNat ≠ 0 := by
  simp [standsForItself, and_assoc]

variable {cs rest : List Char}

/-- A quote closes the literal before the place where it was to end. -/
theorem readBody?_quote_ne :
    readBody? 0 ('"' :: (cs ++ '"' :: rest)) ≠ some (bytesOf ('"' :: cs), rest) := by
  intro read
  rw [readBody?, if_pos rfl] at read
  have after := congrArg (fun read => (bytesOf read.2).length) (Option.some.inj read)
  have one := ('"').utf8Size_pos
  simp only [bytesOf_append, length_bytesOf_cons, List.length_append] at after
  omega

/-- A backslash makes what is read shorter than what was written. -/
theorem readBody?_backslash_ne :
    readBody? 0 ('\\' :: (cs ++ '"' :: rest)) ≠ some (bytesOf ('\\' :: cs), rest) := by
  intro read
  rw [readBody?, if_neg (by decide), if_pos rfl] at read
  split at read
  · rename_i bytes width escaped
    rcases Option.map_eq_some_iff.mp read with ⟨⟨more, behind⟩, further, final⟩
    rcases Prod.mk.inj final with ⟨content, rfl⟩
    have whole := congrArg List.length content
    have shorter := length_of_readBody? further
    rcases length_of_escape? escaped with ⟨fits, inside⟩
    have dropped := length_bytesOf_drop inside
    have backslash : ('\\').utf8Size = 1 := rfl
    have quote : ('"').utf8Size = 1 := rfl
    rw [List.length_append, length_bytesOf_cons, backslash] at whole
    rw [bytesOf_append, List.length_append, length_bytesOf_cons, quote] at dropped
    dsimp only at whole shorter dropped
    omega
  · cases read

/-- Characters before a closing quote are read as themselves exactly when each stands for itself. -/
theorem readBody?_append_iff :
    readBody? 0 (cs ++ '"' :: rest) = some (bytesOf cs, rest) ↔
      ∀ c ∈ cs, standsForItself c = true := by
  induction cs with
  | nil => simp [readBody?, bytesOf]
  | cons c cs ih =>
      rw [List.cons_append, List.forall_mem_cons]
      cases own : standsForItself c with
      | true =>
          rcases standsForItself_iff.mp own with ⟨quote, backslash, -, -⟩
          rw [readBody?, if_neg quote, if_neg backslash, if_pos own, ← ih, bytesOf_cons,
            Option.map_eq_some_iff]
          constructor
          · rintro ⟨⟨more, behind⟩, read, final⟩
            rcases Prod.mk.inj final with ⟨content, rfl⟩
            exact ⟨rfl, read.trans (by rw [← List.append_cancel_left content])⟩
          · rintro ⟨-, read⟩
            exact ⟨_, read, rfl⟩
      | false =>
          refine iff_of_false ?_ (fun all => Bool.false_ne_true all.1)
          by_cases quote : c = '"'
          · rw [quote]
            exact readBody?_quote_ne
          · by_cases backslash : c = '\\'
            · rw [backslash]
              exact readBody?_backslash_ne
            · rw [readBody?, if_neg quote, if_neg backslash, if_neg (Bool.eq_false_iff.mp own)]
              rintro ⟨⟩

/-- A text between quotes reads back as itself, wherever it stands, exactly when all its characters
stand for themselves. -/
theorem readLiteral?_iff {text rest : String} :
    readLiteral? ("\"" ++ text ++ "\"" ++ rest) = some (bytesOf text.toList, rest) ↔
      IsLiteralContent text := by
  have letters : ("\"" ++ text ++ "\"" ++ rest).toList =
      '"' :: (text.toList ++ '"' :: rest.toList) := by
    simp [String.toList_append]
  have body : readBody? 0 (text.toList ++ '"' :: rest.toList) =
      some (bytesOf text.toList, rest.toList) ↔ IsLiteralContent text :=
    readBody?_append_iff
  rw [readLiteral?, letters, ← body]
  change (readBody? 0 (text.toList ++ '"' :: rest.toList)).map _ = _ ↔ _
  rw [Option.map_eq_some_iff]
  constructor
  · rintro ⟨⟨content, behind⟩, read, final⟩
    dsimp only at final
    rcases Prod.mk.inj final with ⟨rfl, rfl⟩
    rw [String.toList_ofList] at read ⊢
    exact read
  · intro read
    exact ⟨_, read, by rw [String.ofList_toList]⟩

/-! ## Integers -/

/-- The characters behind an optional sign. -/
def behindSign : List Char → List Char
  | '-' :: cs => cs
  | '+' :: cs => cs
  | cs => cs

theorem behindSign_of_unsigned {cs : List Char} (hyphen : ∀ rest, cs = '-' :: rest → False)
    (plus : ∀ rest, cs = '+' :: rest → False) : behindSign cs = cs := by
  unfold behindSign
  split
  · exact absurd rfl (hyphen _)
  · exact absurd rfl (plus _)
  · rfl

/-- An optional sign and digits of the basic Latin block.  Other digits, and
underscores between digits, are read as integers by some readers and are none
here. -/
def IsIntegerLiteral (text : String) : Prop :=
  behindSign text.toList ≠ [] ∧ ∀ c ∈ behindSign text.toList, c.isDigit = true

instance (text : String) : Decidable (IsIntegerLiteral text) :=
  @instDecidableAnd _ _ inferInstance
    (List.decidableBAll (fun c => c.isDigit = true) (behindSign text.toList))

/-- The characters of integer literals. -/
def IsIntegerChar (c : Char) : Prop :=
  c.isDigit = true ∨ c = '-' ∨ c = '+'

instance (c : Char) : Decidable (IsIntegerChar c) :=
  inferInstanceAs (Decidable (c.isDigit = true ∨ c = '-' ∨ c = '+'))

theorem mem_behindSign {c : Char} {cs : List Char} (member : c ∈ cs) :
    c ∈ behindSign cs ∨ c = '-' ∨ c = '+' := by
  unfold behindSign
  split
  · exact (List.mem_cons.mp member).symm.imp_right Or.inl
  · exact (List.mem_cons.mp member).symm.imp_right Or.inr
  · exact Or.inl member

theorem mem_of_mem_behindSign {c : Char} {cs : List Char} (member : c ∈ behindSign cs) :
    c ∈ cs := by
  unfold behindSign at member
  split at member
  · exact List.mem_cons_of_mem _ member
  · exact List.mem_cons_of_mem _ member
  · exact member

theorem toNat_of_isIntegerChar {c : Char} (admitted : IsIntegerChar c) :
    33 ≤ c.toNat ∧ c.toNat ≤ 57 := by
  rcases admitted with digit | rfl | rfl
  · simp only [Char.isDigit, Bool.and_eq_true, decide_eq_true_eq, ge_iff_le,
      UInt32.le_iff_toNat_le] at digit
    exact ⟨Nat.le_trans (by decide) digit.1, digit.2⟩
  · decide
  · decide

theorem isBlank_of_isIntegerChar {c : Char} (admitted : IsIntegerChar c) : isBlank c = false := by
  have place := toNat_of_isIntegerChar admitted
  simp only [isBlank, inRanges, List.any_cons, List.any_nil, Bool.or_false, Bool.or_eq_false_iff,
    Bool.and_eq_false_iff, decide_eq_false_iff_not]
  omega

theorem integerMargin_eq_false {c : Char} (admitted : IsIntegerChar c) (cs : List Char) :
    integerMargin cs c = false := by
  have place := toNat_of_isIntegerChar admitted
  have plain : isPlainBlank c = false := by
    have space : c ≠ ' ' := by
      rintro rfl
      exact absurd place (by decide)
    simp only [isPlainBlank, Bool.or_eq_false_iff, beq_eq_false_iff_ne, Bool.and_eq_false_iff,
      decide_eq_false_iff_not]
    exact ⟨space, by omega⟩
  unfold integerMargin
  split
  · exact plain
  · exact isBlank_of_isIntegerChar admitted

theorem trimWhile_eq_self {drop : Char → Bool} {cs : List Char}
    (none : ∀ c ∈ cs, drop c = false) : trimWhile drop cs = cs :=
  trimWhile_of_ends (fun c first => none c (List.mem_of_mem_head? first))
    fun c last => none c (List.mem_of_mem_getLast? last)

/-- What is read as digits consists of digits of any script and underscores. -/
theorem of_digits? {owed : Bool} {cs : List Char} {digits : List Nat}
    (read : digits? owed cs = some digits) :
    (owed = true → cs ≠ []) ∧ ∀ c ∈ cs, (digitValue? c).isSome = true ∨ c = '_' := by
  induction cs generalizing owed digits with
  | nil =>
      refine ⟨?_, by rintro c ⟨⟩⟩
      rintro rfl
      cases read
  | cons c cs ih =>
      refine ⟨fun _ => List.cons_ne_nil c cs, ?_⟩
      rw [digits?] at read
      split at read
      · rename_i value digit
        rcases Option.map_eq_some_iff.mp read with ⟨others, rest, -⟩
        exact List.forall_mem_cons.mpr ⟨Or.inl (by rw [digit]; rfl), (ih rest).2⟩
      · split at read
        · rename_i underscore
          simp only [Bool.and_eq_true, decide_eq_true_eq] at underscore
          exact List.forall_mem_cons.mpr ⟨Or.inr underscore.1, (ih read).2⟩
        · cases read

/-- The number of an integer text stands behind its sign. -/
theorem readNatural?_of_readInteger? {text : String} (read : (readInteger? text).isSome = true) :
    (readNatural? (behindSign (trimWhile (integerMargin text.toList) text.toList))).isSome =
      true := by
  have number : ∀ {found : Option Nat} {view : Int → Int},
      (Option.map view (do return ((← found : Nat) : Int))).isSome = true →
        found.isSome = true := by
    intro found view given
    cases found with
    | none => cases given
    | some value => rfl
  unfold readInteger? at read
  generalize trimWhile (integerMargin text.toList) text.toList = cs at read ⊢
  split at read
  · exact number read
  · exact number read
  · rename_i hyphen plus
    rw [behindSign_of_unsigned hyphen plus]
    exact number read

/-- An integer text is an integer literal exactly when it has no other characters than those of
integer literals: no blanks, no underscores and no digits of other scripts. -/
theorem isIntegerLiteral_iff {text : String} (read : (readInteger? text).isSome = true) :
    IsIntegerLiteral text ↔ ∀ c ∈ text.toList, IsIntegerChar c := by
  constructor
  · rintro ⟨-, digits⟩ c member
    exact (mem_behindSign member).imp_left (digits c)
  · intro plain
    have number := readNatural?_of_readInteger? read
    rw [trimWhile_eq_self fun c member => integerMargin_eq_false (plain c member) _,
      readNatural?] at number
    split at number
    · rename_i digits found
      rcases of_digits? found with ⟨given, each⟩
      refine ⟨given rfl, fun c member => ?_⟩
      rcases plain c (mem_of_mem_behindSign member) with digit | rfl | rfl
      · exact digit
      · exact absurd (each _ member) (by decide)
      · exact absurd (each _ member) (by decide)
    · cases number

end Text

end WireSchema
