import WireSchema.Compiler.Script.Bytes
import WireSchema.Compiler.Script.Sum
import WireSchema.Decimal.Binary64

namespace WireSchema.Script

/-!
Printing.

A script prints words with escapes, or a format whose places are filled by words.  The format is
used again as long as words are left.  A word that is no number is reported, and what can be read
of it is printed.
-/

/-! ## Escapes -/

/-- Whether a character is a digit in base eight. -/
def isOctal (c : Char) : Bool := '0' ≤ c && c ≤ '7'

def letterEscapes : List (Char × Nat) :=
  [('\\', 92), ('a', 7), ('b', 8), ('e', 27), ('f', 12), ('n', 10), ('r', 13), ('t', 9), ('v', 11)]

/-- The character of up to three digits in base eight, with what follows. -/
def octalEscape (cs : List Char) : Char × List Char :=
  let digits := (cs.take 3).takeWhile isOctal
  (byteChar (Sum.digitsIn 8 0 digits).1, cs.drop digits.length)

/-- The character of an escape after its backslash, with what follows; a backslash that begins no
escape stands for itself. -/
def readEscape (cs : List Char) : Char × List Char :=
  match cs with
  | [] => ('\\', [])
  | c :: rest =>
      if isOctal c then octalEscape cs
      else
        match letterEscapes.find? (·.1 == c) with
        | some escape => (Char.ofNat escape.2, rest)
        | none => ('\\', cs)

/-- What is printed, and whether nothing may be printed after it. -/
structure Printed where
  content : List Char
  isLast : Bool
deriving Repr, Inhabited

/-- More characters before what is printed. -/
def Printed.after (content : List Char) (printed : Printed) : Printed :=
  { printed with content := content ++ printed.content }

/-- A text with escapes read.  The letter `c` ends all printing, and a zero may stand before the
digits of an escape. -/
def withEscapes : Nat → List Char → Printed
  | 0, _ => ⟨[], false⟩
  | _ + 1, [] => ⟨[], false⟩
  | fuel + 1, '\\' :: cs =>
      match cs with
      | 'c' :: _ => ⟨[], true⟩
      | '0' :: d :: rest =>
          let (c, rest) := readEscape (if isOctal d then d :: rest else '0' :: d :: rest)
          (withEscapes fuel rest).after [c]
      | _ =>
          let (c, rest) := readEscape cs
          (withEscapes fuel rest).after [c]
  | fuel + 1, c :: cs => (withEscapes fuel cs).after [c]

def escaped (text : String) : Printed := withEscapes (text.length + 1) text.toList

/-- Words with escapes read, separated by blanks and ended by a line feed. -/
def echoWords (ending : List Char) : List String → List Char
  | [] => ending
  | [word] =>
      let printed := escaped word
      printed.content ++ (if printed.isLast then [] else ending)
  | word :: words =>
      let printed := escaped word
      if printed.isLast then printed.content
      else printed.content ++ ' ' :: echoWords ending words

/-- What a script prints of words; a leading `-n` leaves out the line feed. -/
def echoText : List String → String
  | "-n" :: words => String.ofList (echoWords [] words)
  | words => String.ofList (echoWords ['\n'] words)

/-! ## Formats -/

structure FormatPlace where
  flags : List Char
  width : Int
  precision : Option Int
  letter : Char
deriving Repr, Inhabited

namespace FormatPlace

def has (place : FormatPlace) (flag : Char) : Bool := place.flags.contains flag

/-- Whether the content of a place stands at its left. -/
def isLeft (place : FormatPlace) : Bool := place.has '-' || place.width < 0

def padded (place : FormatPlace) (content : List Char) : List Char :=
  let blanks := List.replicate (place.width.natAbs - content.length) ' '
  if place.isLeft then content ++ blanks else blanks ++ content

/-- A number with zeros up to the width of a place where it asks for them; `sign` stands before
them. -/
def paddedNumber (place : FormatPlace) (fillsZeros : Bool) (sign digits : List Char) : List Char :=
  if fillsZeros && place.has '0' && !place.isLeft then
    sign ++ List.replicate (place.width.natAbs - sign.length - digits.length) '0' ++ digits
  else place.padded (sign ++ digits)

/-- The precision of a place, where it counts. -/
def givenPrecision? (place : FormatPlace) : Option Nat :=
  (place.precision.filter (0 ≤ ·)).map Int.toNat

/-- The sign before a number. -/
def signOf (place : FormatPlace) (negative : Bool) : List Char :=
  if negative then ['-'] else if place.has '+' then ['+'] else if place.has ' ' then [' '] else []

/-- Digits of a whole number with zeros up to the precision. -/
def digitsOf (place : FormatPlace) (base value : Nat) : List Char :=
  let digits := Nat.toDigits base value
  match place.givenPrecision? with
  | some precision =>
      if precision = 0 && value = 0 then []
      else List.replicate (precision - digits.length) '0' ++ digits
  | none => digits

def integer (place : FormatPlace) (value : Int) : List Char :=
  place.paddedNumber place.givenPrecision?.isNone (place.signOf (value < 0))
    (place.digitsOf 10 value.natAbs)

/-- A number without a sign, in the base that the letter names. -/
def natural (place : FormatPlace) (value : Nat) : List Char :=
  let base := if place.letter = 'o' then 8 else if place.letter = 'u' then 10 else 16
  let digits := place.digitsOf base value
  let digits := if place.letter = 'X' then digits.map Char.toUpper else digits
  let start :=
    if !place.has '#' || value = 0 then []
    else if place.letter = 'o' then ['0']
    else if base = 16 then ['0', place.letter]
    else []
  place.paddedNumber place.givenPrecision?.isNone start digits

/-- A number with as many decimals as the precision says, six when it says nothing. -/
def decimal (place : FormatPlace) (value : Decimal.Binary64) : List Char :=
  match value with
  | .nan => place.padded ['n', 'a', 'n']
  | .infinite negative => place.padded (place.signOf negative ++ ['i', 'n', 'f'])
  | .finite negative significand exponent =>
      let decimals := place.givenPrecision?.getD 6
      let exact := Decimal.divideByTwoPower (significand * Nat.pow 10 decimals) 1 (-exponent)
      let digits := Nat.toDigits 10 (Decimal.roundHalfEven exact.1 exact.2)
      let digits := List.replicate (decimals + 1 - digits.length) '0' ++ digits
      let whole := digits.take (digits.length - decimals)
      let point := if decimals = 0 && !place.has '#' then [] else ['.']
      place.paddedNumber true (place.signOf negative)
        (whole ++ point ++ digits.drop (digits.length - decimals))

/-- A text, cut to the precision. -/
def word (place : FormatPlace) (content : List Char) : List Char :=
  match place.givenPrecision? with
  | some precision => place.padded (content.take precision)
  | none => place.padded content

end FormatPlace

/-- The state of filling a format. -/
structure Filling where
  words : List String
  content : List Char := []
  reports : List String := []
  isLast : Bool := false
  /-- A fault that ends the command. -/
  fault : Option String := none
deriving Inhabited

namespace Filling

def print (filling : Filling) (content : List Char) : Filling :=
  { filling with content := filling.content ++ content }

/-- The next word, which is used up. -/
def takeWord (filling : Filling) : Option String × Filling :=
  (filling.words.head?, { filling with words := filling.words.drop 1 })

/-- Reports a word of which `rest` could not be read. -/
def reportRest (filling : Filling) (word : String) (rest : List Char) : Filling :=
  if rest.isEmpty then filling
  else
    let message :=
      if rest.length == word.length then ": expected numeric value"
      else ": not completely converted"
    { filling with reports := filling.reports ++ [word ++ message] }

/-- A number within a range; one outside of it is reported. -/
def within (filling : Filling) (word : String) (least most value : Int) : Int × Filling :=
  if value < least || most < value then
    (max least (min most value),
      { filling with reports := filling.reports ++ [word ++ ": Numerical result out of range"] })
  else (value, filling)

/-- The next word as a number from a least to a greatest one; a quote stands for the number of the
character after it. -/
def takeInteger (filling : Filling) (least most : Int) : Int × Filling :=
  match filling.takeWord with
  | (none, filling) => (0, filling)
  | (some word, filling) =>
      match word.toList with
      | '"' :: rest => ((rest.head?.elim 0 Char.toNat : Nat), filling)
      | '\'' :: rest => ((rest.head?.elim 0 Char.toNat : Nat), filling)
      | cs =>
          let unsigned := cs.dropWhile Sum.isBlank
          let (negative, digits) :=
            match unsigned with
            | '-' :: rest => (true, rest)
            | '+' :: rest => (false, rest)
            | _ => (false, unsigned)
          let (size, rest) := Sum.leadingNatural digits
          let rest := if rest.length == digits.length then cs else rest
          let value : Int := if negative then -size else size
          if rest.isEmpty then filling.within word least most value
          else (max least (min most value), filling.reportRest word rest)

/-- The next word as a number with a sign. -/
def takeSigned (filling : Filling) : Int × Filling :=
  filling.takeInteger (-Int.pow 2 63) (Int.pow 2 63 - 1)

/-- The next word as a number without a sign, to which a negative one is wrapped. -/
def takeUnsigned (filling : Filling) : Nat × Filling :=
  let (value, filling) := filling.takeInteger (-(Int.pow 2 64 - 1)) (Int.pow 2 64 - 1)
  ((value % Int.pow 2 64).toNat, filling)

/-- The next word as a number with a point. -/
def takeDecimal (filling : Filling) : Decimal.Binary64 × Filling :=
  match filling.takeWord with
  | (none, filling) => (.ofDecimal false 0 0, filling)
  | (some word, filling) =>
      let cs := word.toList.dropWhile Sum.isBlank
      let (negative, unsigned) :=
        match cs with
        | '-' :: rest => (true, rest)
        | '+' :: rest => (false, rest)
        | _ => (false, cs)
      let whole := unsigned.takeWhile Char.isDigit
      let (decimals, rest) :=
        match unsigned.drop whole.length with
        | '.' :: rest => (rest.takeWhile Char.isDigit, rest.dropWhile Char.isDigit)
        | rest => ([], rest)
      let digits := whole ++ decimals
      let rest := if digits.isEmpty then word.toList else rest
      (.ofDecimal negative (Sum.digitsIn 10 0 digits).1 (-decimals.length),
        filling.reportRest word rest)

def fillPlace (filling : Filling) (place : FormatPlace) (directive : List Char) : Filling :=
  match place.letter with
  | 's' =>
      let (word, filling) := filling.takeWord
      filling.print (place.word (word.getD "").toList)
  | 'b' =>
      let (word, filling) := filling.takeWord
      let printed := escaped (word.getD "")
      { filling.print (place.word printed.content) with isLast := printed.isLast }
  | 'c' =>
      let (word, filling) := filling.takeWord
      filling.print (place.padded [((word.getD "").toList.head?).getD (Char.ofNat 0)])
  | letter =>
      if letter = 'd' || letter = 'i' then
        let (value, filling) := filling.takeSigned
        filling.print (place.integer value)
      else if ['o', 'u', 'x', 'X'].contains letter then
        let (value, filling) := filling.takeUnsigned
        filling.print (place.natural value)
      else if letter = 'f' || letter = 'F' then
        let (value, filling) := filling.takeDecimal
        filling.print (place.decimal value)
      else { filling with fault := some (String.ofList directive ++ ": invalid directive") }

/-- A count in a format: digits, or the next word for a star. -/
def takeCount (filling : Filling) (cs : List Char) : Option Int × List Char × Filling :=
  match cs with
  | '*' :: rest =>
      let (value, filling) := filling.takeSigned
      (some value, rest, filling)
  | _ =>
      let digits := cs.takeWhile Char.isDigit
      (if digits.isEmpty then none else some (Sum.digitsIn 10 0 digits).1,
        cs.drop digits.length, filling)

/-- Fills the place after a percent sign, and gives what follows it. -/
def readPlace (filling : Filling) (cs : List Char) : Filling × List Char :=
  let flags := cs.takeWhile ['#', '-', '+', ' ', '0'].contains
  let (width, rest, filling) := filling.takeCount (cs.drop flags.length)
  let (precision, rest, filling) :=
    match rest with
    | '.' :: rest =>
        let (count, rest, filling) := filling.takeCount rest
        (some (count.getD 0), rest, filling)
    | rest => (none, rest, filling)
  match rest with
  | [] => ({ filling with fault := some "missing format character" }, [])
  | letter :: rest =>
      let directive := '%' :: cs.take (cs.length - rest.length)
      (filling.fillPlace ⟨flags, width.getD 0, precision, letter⟩ directive, rest)

def fillOnce : Nat → List Char → Filling → Filling
  | 0, _, filling => filling
  | _ + 1, [], filling => filling
  | fuel + 1, c :: cs, filling =>
      if filling.isLast || filling.fault.isSome then filling
      else if c = '\\' then
        let (c, rest) := readEscape cs
        fillOnce fuel rest (filling.print [c])
      else if c = '%' && cs.head? != some '%' then
        let (filling, rest) := filling.readPlace cs
        fillOnce fuel rest filling
      else fillOnce fuel (if c = '%' then cs.drop 1 else cs) (filling.print [c])

/-- Fills a format as long as it uses up words. -/
def fillAll (format : List Char) : Nat → Filling → Filling
  | 0, filling => filling
  | fuel + 1, filling =>
      let after := fillOnce (format.length + 1) format filling
      if after.isLast || after.fault.isSome || after.words.isEmpty
          || after.words.length == filling.words.length then after
      else fillAll format fuel after

end Filling

def filledFormat (format : String) (words : List String) : Filling :=
  Filling.fillAll format.toList (words.length + 1) { words }

/-! ## The program of the system -/

/-- The digits of a number in base sixteen that an escape may have. -/
def hexDigitsOf (cs : List Char) : List Char :=
  (cs.take 2).takeWhile fun c => (Sum.digitIn? 16 c).isSome

/-- A text with the escapes of the program of the system read, among which there are digits in base
sixteen. -/
def withProgramEscapes : Nat → List Char → Printed
  | 0, _ => ⟨[], false⟩
  | _ + 1, [] => ⟨[], false⟩
  | fuel + 1, '\\' :: cs =>
      match cs with
      | 'c' :: _ => ⟨[], true⟩
      | 'x' :: rest =>
          let digits := hexDigitsOf rest
          if digits.isEmpty then (withProgramEscapes fuel rest).after ['\\', 'x']
          else
            (withProgramEscapes fuel (rest.drop digits.length)).after
              [byteChar (Sum.digitsIn 16 0 digits).1]
      | '0' :: d :: rest =>
          let (c, rest) := readEscape (if isOctal d then d :: rest else '0' :: d :: rest)
          (withProgramEscapes fuel rest).after [c]
      | _ =>
          let (c, rest) := readEscape cs
          (withProgramEscapes fuel rest).after [c]
  | fuel + 1, c :: cs => (withProgramEscapes fuel cs).after [c]

/-- Whether a word is an option of the program of the system that prints its arguments. -/
def isEchoOption (word : String) : Bool :=
  match word.toList with
  | '-' :: c :: cs => (c :: cs).all ['n', 'e', 'E'].contains
  | _ => false

/-- What the program of the system prints of its arguments: without a line feed when an option says
so, and with escapes read when the last option on them says so. -/
def echoProgramText (words : List String) : String :=
  let letters := (words.takeWhile isEchoOption).flatMap (·.toList)
  let text := String.intercalate " " (words.dropWhile isEchoOption)
  let printed :=
    if (letters.filter (['e', 'E'].contains ·)).getLast? = some 'e' then
      withProgramEscapes (text.length + 1) text.toList
    else ⟨text.toList, false⟩
  String.ofList (printed.content
    ++ (if printed.isLast || letters.contains 'n' then [] else ['\n']))

end WireSchema.Script
