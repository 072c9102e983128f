import WireSchema.Document.Value
import WireSchema.Text.Cut
import WireSchema.Text.Integer

namespace WireSchema.Json

/-!
Reading JSON documents.

The reader admits the JSON grammar and, beside it, the words `NaN`, `Infinity` and `-Infinity`.  A
number without a point and an exponent is an integer, of limited length; every other number is
rounded to a floating-point number.  When a mapping names a member twice, the later value takes the
place of the earlier one.  Each step returns the rest of the text; `fuel` bounds the nesting and is
taken from the length of the text, so it never runs out on a text of that length.
-/

/-- Why a text is not read as a document. -/
inductive ReadFault where
  /-- The text does not follow the grammar. -/
  | malformed
  /-- An integer has more digits than are read. -/
  | longInteger
deriving DecidableEq, Repr

abbrev Step (α : Type) := Except ReadFault α

/-- White space between the parts of a document. -/
def isBlank (c : Char) : Bool :=
  c == ' ' || c == '\t' || c == '\n' || c == '\r'

/-- A text without the white space at its start. -/
def skipBlanks (cs : List Char) : List Char :=
  cs.dropWhile isBlank

/-! ## Strings -/

def hexValue? (c : Char) : Option Nat :=
  if c.isDigit then some (c.toNat - 48)
  else if 'a' ≤ c && c ≤ 'f' then some (c.toNat - 87)
  else if 'A' ≤ c && c ≤ 'F' then some (c.toNat - 55)
  else none

/-- The number written by the given count of hexadecimal digits, and the rest of the text. -/
def readHex? (value : Nat) : Nat → List Char → Option (Nat × List Char)
  | 0, cs => some (value, cs)
  | _ + 1, [] => none
  | count + 1, c :: cs =>
      match hexValue? c with
      | some digit => readHex? (16 * value + digit) count cs
      | none => none

/-- The character for a unit that follows `\u`; a high surrogate joins with a
low one.  One that stands alone is read as the replacement character, for no text
can hold it. -/
def joinUnits (unit : Nat) (cs : List Char) : Char × List Char :=
  if 0xd800 ≤ unit && unit < 0xdc00 then
    match cs with
    | '\\' :: 'u' :: rest =>
        match readHex? 0 4 rest with
        | some (low, after) =>
            if 0xdc00 ≤ low && low < 0xe000 then
              (Char.ofNat (0x10000 + (unit - 0xd800) * 0x400 + (low - 0xdc00)), after)
            else (Char.ofNat 0xfffd, cs)
        | none => (Char.ofNat 0xfffd, cs)
    | _ => (Char.ofNat 0xfffd, cs)
  else if 0xdc00 ≤ unit && unit < 0xe000 then (Char.ofNat 0xfffd, cs)
  else (Char.ofNat unit, cs)

/-- The character of a one-letter escape. -/
def simpleEscape? (c : Char) : Option Char :=
  match c with
  | '"' => some '"'
  | '\\' => some '\\'
  | '/' => some '/'
  | 'b' => some (Char.ofNat 0x8)
  | 'f' => some (Char.ofNat 0xc)
  | 'n' => some '\n'
  | 'r' => some '\r'
  | 't' => some '\t'
  | _ => none

/-- The characters of a string up to its closing quote.  Control characters are not admitted. -/
def readString? : Nat → List Char → List Char → Option (String × List Char)
  | 0, _, _ => none
  | _ + 1, _, [] => none
  | fuel + 1, read, c :: cs =>
      if c = '"' then some (String.ofList read.reverse, cs)
      else if c = '\\' then
        match cs with
        | 'u' :: rest =>
            match readHex? 0 4 rest with
            | some (unit, after) =>
                let joined := joinUnits unit after
                readString? fuel (joined.1 :: read) joined.2
            | none => none
        | e :: rest =>
            match simpleEscape? e with
            | some character => readString? fuel (character :: read) rest
            | none => none
        | [] => none
      else if c.toNat < 0x20 then none
      else readString? fuel (c :: read) cs

/-! ## Numbers -/

/-- The number written by Latin digits. -/
def digitsValue (digits : List Char) : Nat :=
  Text.ofDigits (digits.map fun c => c.toNat - 48)

/-- The digits after a point, if a point with a digit follows. -/
def readFraction (cs : List Char) : List Char × List Char :=
  match cs with
  | '.' :: rest =>
      if (rest.takeWhile Char.isDigit).isEmpty then ([], cs)
      else (rest.takeWhile Char.isDigit, rest.dropWhile Char.isDigit)
  | _ => ([], cs)

/-- An exponent, if a letter, an optional sign and a digit follow. -/
def readExponent (cs : List Char) : Option Int × List Char :=
  match cs with
  | c :: rest =>
      if c = 'e' || c = 'E' then
        let signed := match rest with
          | '-' :: digits => (true, digits)
          | '+' :: digits => (false, digits)
          | digits => (false, digits)
        let digits := signed.2.takeWhile Char.isDigit
        if digits.isEmpty then (none, cs)
        else
          let size : Int := digitsValue digits
          (some (if signed.1 then -size else size), signed.2.dropWhile Char.isDigit)
      else (none, cs)
  | [] => (none, [])

/-- A number whose sign has been read.  It is an integer unless it has a fraction
or an exponent, and only an integer is bound to a number of digits. -/
def readNumber (negative : Bool) (cs : List Char) : Step (Value × List Char) :=
  let whole := match cs with
    | '0' :: _ => ['0']
    | _ => cs.takeWhile Char.isDigit
  if whole.isEmpty then .error .malformed
  else
    let fraction := readFraction (cs.drop whole.length)
    let exponent := readExponent fraction.2
    if fraction.1.isEmpty && exponent.1.isNone then
      if Text.maxDigits < whole.length then .error .longInteger
      else
        let size : Int := digitsValue whole
        .ok (.int (if negative then -size else size), exponent.2)
    else
      .ok
        (.float (Decimal.Binary64.ofDecimal negative (digitsValue (whole ++ fraction.1))
          (exponent.1.getD 0 - fraction.1.length)),
          exponent.2)

def wordValues : List (String × Value) :=
  [("null", .null), ("true", .bool true), ("false", .bool false), ("NaN", .float .nan),
   ("Infinity", .float (.infinite false)), ("-Infinity", .float (.infinite true))]

def readWord? (cs : List Char) : Option (Value × List Char) :=
  wordValues.findSome? fun entry =>
    (Text.afterLeading? entry.1.toList cs).map fun rest => (entry.2, rest)

/-- A string whose opening quote has been read. -/
def readString (cs : List Char) : Step (String × List Char) :=
  match readString? (cs.length + 1) [] cs with
  | some result => .ok result
  | none => .error .malformed

/-! ## Values -/

mutual

/-- A value and the rest of the text.  The fuel grows with the length of the
document, which no nesting can use up, as every two steps read a character. -/
def readValue : Nat → List Char → Step (Value × List Char)
  | 0, _ => .error .malformed
  | fuel + 1, cs =>
      match readWord? cs with
      | some result => .ok result
      | none =>
          match cs with
          | '"' :: rest => do
              let (text, after) ← readString rest
              return (.text text, after)
          | '[' :: rest =>
              match skipBlanks rest with
              | ']' :: after => .ok (.list [], after)
              | inner => do
                  let (items, after) ← readItems fuel inner
                  return (.list items, after)
          | '{' :: rest =>
              match skipBlanks rest with
              | '}' :: after => .ok (.map [], after)
              | inner => do
                  let (members, after) ← readMembers fuel [] inner
                  return (.map members, after)
          | '-' :: rest => readNumber true rest
          | _ => readNumber false cs

/-- The items of a list up to its closing bracket. -/
def readItems : Nat → List Char → Step (List Value × List Char)
  | 0, _ => .error .malformed
  | fuel + 1, cs => do
      let (item, rest) ← readValue fuel cs
      match skipBlanks rest with
      | ']' :: after => return ([item], after)
      | ',' :: after =>
          let (items, last) ← readItems fuel (skipBlanks after)
          return (item :: items, last)
      | _ => throw .malformed

/-- The members of a mapping up to its closing brace; `read` holds the members
so far.  Of several members with one name the last value counts, in the place of
the first one. -/
def readMembers : Nat → Members → List Char → Step (Members × List Char)
  | 0, _, _ => .error .malformed
  | fuel + 1, read, cs =>
      match cs with
      | '"' :: rest => do
          let (name, afterName) ← readString rest
          match skipBlanks afterName with
          | ':' :: beforeValue =>
              let (value, afterValue) ← readValue fuel (skipBlanks beforeValue)
              let known := setKey (.text name) value read
              match skipBlanks afterValue with
              | '}' :: after => return (known, after)
              | ',' :: after => readMembers fuel known (skipBlanks after)
              | _ => throw .malformed
          | _ => throw .malformed
      | _ => .error .malformed

end

def read (document : String) : Except ReadFault Value := do
  let cs := document.toList
  let (value, rest) ← readValue (2 * cs.length + 2) (skipBlanks cs)
  if (skipBlanks rest).isEmpty then return value else throw .malformed

end WireSchema.Json
