import WireSchema.Text.Cut

namespace WireSchema.Text

/-!
Integer texts.

A number in an annotation, a tag or a reservation is written as an optional sign and digits of any
script; single underscores may stand between digits, and white space around the whole.  Anything
else is no integer text.  The number of digits is bounded, as for every number read by the tool.
-/

/-- Code points of the digit zero in each script; the other nine digits follow it. -/
def zeroDigits : List Nat :=
  [0x30, 0x660, 0x6f0, 0x7c0, 0x966, 0x9e6, 0xa66, 0xae6, 0xb66, 0xbe6, 0xc66, 0xce6, 0xd66,
   0xde6, 0xe50, 0xed0, 0xf20, 0x1040, 0x1090, 0x17e0, 0x1810, 0x1946, 0x19d0, 0x1a80, 0x1a90,
   0x1b50, 0x1bb0, 0x1c40, 0x1c50, 0xa620, 0xa8d0, 0xa900, 0xa9d0, 0xa9f0, 0xaa50, 0xabf0,
   0xff10, 0x104a0, 0x10d30, 0x11066, 0x110f0, 0x11136, 0x111d0, 0x112f0, 0x11450, 0x114d0,
   0x11650, 0x116c0, 0x11730, 0x118e0, 0x11950, 0x11c50, 0x11d50, 0x11da0, 0x16a60, 0x16ac0,
   0x16b50, 0x1d7ce, 0x1d7d8, 0x1d7e2, 0x1d7ec, 0x1d7f6, 0x1e140, 0x1e2f0, 0x1e950, 0x1fbf0]

/-- The value of a decimal digit of any script. -/
def digitValue? (c : Char) : Option Nat :=
  (zeroDigits.find? fun start => start ≤ c.toNat && c.toNat < start + 10).map (c.toNat - ·)

/-- The digits of a text with single underscores between them; `owed` tells that a digit must
come next, as at the start and after an underscore. -/
def digits? (owed : Bool) : List Char → Option (List Nat)
  | [] => if owed then none else some []
  | c :: cs =>
      match digitValue? c with
      | some digit => (digits? false cs).map (digit :: ·)
      | none => if c = '_' && !owed then digits? true cs else none

/-- The number written by digits, the highest first. -/
def ofDigits (digits : List Nat) : Nat :=
  digits.foldl (fun value digit => 10 * value + digit) 0

/-- The greatest number of digits of an integer text, counted without sign and
underscores.  Longer ones are neither read nor written. -/
def maxDigits : Nat := 4300

/-- Reads digits without a sign. -/
def readNatural? (cs : List Char) : Option Nat :=
  match digits? true cs with
  | some digits => if digits.length ≤ maxDigits then some (ofDigits digits) else none
  | none => none

/-- White space around an integer text.  A text of the basic Latin block alone does not admit the
information separators there. -/
def integerMargin (cs : List Char) : Char → Bool :=
  if cs.all (·.toNat < 0x80) then isPlainBlank else isBlank

/-- Reads an integer text, with its sign and without the white space around it.
Digits of any script count, and single underscores may stand between them. -/
def readInteger? (text : String) : Option Int :=
  match trimWhile (integerMargin text.toList) text.toList with
  | '-' :: cs => (readNatural? cs).map fun value => -(value : Int)
  | '+' :: cs => (readNatural? cs).map fun value => (value : Int)
  | cs => (readNatural? cs).map fun value => (value : Int)

/-- An integer in writing.  The bound on the digits holds in both directions: a number that could
not be read back is not written either. -/
def writeInteger? (number : Int) : Option String :=
  if (Nat.toDigits 10 number.natAbs).length ≤ maxDigits then some (toString number) else none

end WireSchema.Text
