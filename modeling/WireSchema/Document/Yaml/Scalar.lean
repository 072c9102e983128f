import WireSchema.Document.Value
import WireSchema.Text.Integer

namespace WireSchema.Yaml

/-!
The values of plain scalars.

A scalar without quotes is null, a truth value, a number or a calendar day when it is spelled as
one, and a text otherwise.  Truth values have the spellings `yes`, `no`, `on`, `off`, `true` and
`false` in small letters, capitalised and in capitals; numbers may hold underscores; a leading zero
makes an integer octal.  A day that the calendar does not have is spelled like a day all the same,
so it is an error and not a text.
-/

/-- Why a document has no value. -/
inductive Fault where
  /-- The text is not built by the rules of the format. -/
  | malformed
  /-- A scalar is spelled like a value that does not exist. -/
  | unusable
deriving DecidableEq, Repr

def trueWords : List String :=
  ["yes", "Yes", "YES", "true", "True", "TRUE", "on", "On", "ON"]

def falseWords : List String :=
  ["no", "No", "NO", "false", "False", "FALSE", "off", "Off", "OFF"]

def nullWords : List String := ["", "~", "null", "Null", "NULL"]

def isDigitOf (base : Nat) (c : Char) : Bool :=
  c == '_' || (c.isDigit && c.toNat - 48 < base)
    || (base == 16 && (('a' ≤ c && c ≤ 'f') || ('A' ≤ c && c ≤ 'F')))

/-- The value of a digit of a base up to sixteen. -/
def digitValue (c : Char) : Nat :=
  if c.isDigit then c.toNat - 48
  else if 'a' ≤ c && c ≤ 'f' then c.toNat - 87
  else c.toNat - 55

/-- The number written by digits of a base, underscores ignored. -/
def digitsValue (base : Nat) (digits : List Char) : Nat :=
  (digits.filter (· != '_')).foldl (fun value c => base * value + digitValue c) 0

/-- The optional sign of a number and what follows it. -/
def splitSign : List Char → Bool × List Char
  | '-' :: cs => (true, cs)
  | '+' :: cs => (false, cs)
  | cs => (false, cs)

/-- The greatest number of digits of an integer in base ten. -/
def maxDigits : Nat := 4300

/-- The size that digits of a base spell; they need not all be underscores, and digits of base ten
must not be too many. -/
def spelledSize (base : Nat) (digits : List Char) : Except Fault Nat :=
  let count := (digits.filter (· != '_')).length
  if count = 0 || (base = 10 && maxDigits < count) then .error .unusable
  else .ok (digitsValue base digits)

/-- The size of digits after the mark of their base, if they are digits of it. -/
def markedSize? (base : Nat) (digits : List Char) : Option (Except Fault Nat) :=
  if !digits.isEmpty && digits.all (isDigitOf base) then some (spelledSize base digits) else none

/-- The size of an integer written without a sign. -/
def naturalSize? (cs : List Char) : Option (Except Fault Nat) :=
  match cs with
  | ['0'] => some (.ok 0)
  | '0' :: 'b' :: digits => markedSize? 2 digits
  | '0' :: 'x' :: digits => markedSize? 16 digits
  | '0' :: digits => if digits.all (isDigitOf 8) then some (.ok (digitsValue 8 digits)) else none
  | c :: _ => if c != '_' then markedSize? 10 cs else none
  | [] => none

/-- The size of an integer written in base sixty: digits, and groups of one or two digits after
colons, each below sixty. -/
def sixtiesSize? (size : Nat) : List (List Char) → Option Nat
  | [] => some size
  | group :: groups =>
      let value := digitsValue 10 group
      if group.length ≤ 2 && !group.isEmpty && group.all Char.isDigit && value < 60 then
        sixtiesSize? (60 * size + value) groups
      else none

/-- The size of an integer written without a sign, in base sixty when it has colons. -/
def groupedSize? (cs : List Char) : Option (Except Fault Nat) :=
  match Text.splitAtEach ':' cs with
  | whole :: group :: groups =>
      if whole.all (isDigitOf 10) && whole.head?.any (fun c => c != '0' && c != '_') then
        (sixtiesSize? (digitsValue 10 whole) (group :: groups)).map fun size =>
          (spelledSize 10 whole).map fun _ => size
      else none
  | _ => naturalSize? cs

def integer? (cs : List Char) : Option (Except Fault Value) :=
  let signed := splitSign cs
  (groupedSize? signed.2).map fun spelled =>
    spelled.map fun size => .int (if signed.1 then -(size : Int) else (size : Int))

/-- The exponent of a floating-point scalar: nothing, or a letter, a sign and digits. -/
def exponent? (cs : List Char) : Option Int :=
  match cs with
  | [] => some 0
  | c :: sign :: digits =>
      if (c == 'e' || c == 'E') && (sign == '+' || sign == '-') && !digits.isEmpty
          && digits.all Char.isDigit then
        let size : Int := digitsValue 10 digits
        some (if sign == '-' then -size else size)
      else none
  | _ => none

/-- The value of a floating-point scalar: digits, a point, digits and an optional exponent, or a
word for what is not finite. -/
def float? (cs : List Char) : Option Value :=
  let signed := splitSign cs
  let whole := signed.2.takeWhile (isDigitOf 10)
  match signed.2.dropWhile (isDigitOf 10) with
  | '.' :: afterPoint =>
      let fraction := afterPoint.takeWhile (isDigitOf 10)
      let rest := afterPoint.dropWhile (isDigitOf 10)
      if whole.isEmpty && ["inf", "Inf", "INF"].contains (String.ofList afterPoint) then
        some (.float (.infinite signed.1))
      else if cs.head? == some '.' && ["nan", "NaN", "NAN"].contains (String.ofList afterPoint) then
        some (.float .nan)
      else
        let starts := match whole, fraction with
          | c :: _, _ => c != '_'
          | [], c :: _ => c != '_' && cs.head? == some '.'
          | [], [] => false
        match starts, exponent? rest with
        | true, some exponent =>
            let places := (fraction.filter (· != '_')).length
            some (.float (Decimal.Binary64.ofDecimal signed.1
              (digitsValue 10 (whole ++ fraction)) (exponent - places)))
        | _, _ => none
  | _ => none

/-- The value of a floating-point scalar in base sixty: groups joined by colons, of which the last
one has a point. -/
def sixtiesFloat? (cs : List Char) : Option Value :=
  let signed := splitSign cs
  match Text.breakAt? ['.'] signed.2 with
  | none => none
  | some (groups, fraction) =>
      match Text.splitAtEach ':' groups with
      | whole :: group :: others =>
          if whole.head?.any Char.isDigit && whole.all (isDigitOf 10)
              && fraction.all (isDigitOf 10) then
            let digits := fraction.filter (· != '_')
            let scale := Nat.pow 10 digits.length
            (sixtiesSize? (digitsValue 10 whole) (group :: others)).map fun size =>
              let numerator := size * scale + digitsValue 10 digits
              .float (if numerator = 0 then Decimal.Binary64.ofDecimal signed.1 0 0
                else Decimal.Binary64.ofQuotient signed.1 numerator scale)
          else none
      | _ => none

def isLeapYear (year : Nat) : Bool :=
  year % 4 == 0 && (year % 100 != 0 || year % 400 == 0)

def daysOfMonth (year month : Nat) : Nat :=
  if month == 2 then (if isLeapYear year then 29 else 28)
  else if [4, 6, 9, 11].contains month then 30
  else 31

def Date.exists (date : Date) : Bool :=
  0 < date.year && 0 < date.month && date.month ≤ 12 && 0 < date.day
    && date.day ≤ daysOfMonth date.year date.month

/-- A scalar spelled like a calendar day: four digits, two and two, joined by hyphens. -/
def dateSpelling? (cs : List Char) : Option Date :=
  match cs with
  | [y1, y2, y3, y4, '-', m1, m2, '-', d1, d2] =>
      if [y1, y2, y3, y4, m1, m2, d1, d2].all Char.isDigit then
        some ⟨digitsValue 10 [y1, y2, y3, y4], digitsValue 10 [m1, m2], digitsValue 10 [d1, d2]⟩
      else none
  | _ => none

/-- The spelling of the key that takes in the members of other mappings. -/
def mergeWord : String := "<<"

/-- The spelling of the key for a default value; it stands for itself only as a key. -/
def defaultWord : String := "="

/-- The value of a plain scalar that is no number of its own kind: a day, or a text. -/
def wordValue (text : String) : Except Fault Value :=
  match dateSpelling? text.toList with
  | some date => if Date.exists date then .ok (.date date) else .error .unusable
  | none => if text == defaultWord || text == mergeWord then .error .malformed else .ok (.text text)

def plainValue (text : String) : Except Fault Value :=
  let cs := text.toList
  if nullWords.contains text then .ok .null
  else if trueWords.contains text then .ok (.bool true)
  else if falseWords.contains text then .ok (.bool false)
  else
    match (float? cs).or (sixtiesFloat? cs), integer? cs with
    | some value, _ => .ok value
    | none, some spelled => spelled
    | none, none => wordValue text

end WireSchema.Yaml
