import WireSchema.Decimal.Binary64

namespace WireSchema.Decimal

/-!
The shortest decimal of a floating-point number.

Among the decimals that round to the number, the ones with the fewest digits are considered, and of
those the nearest.  For each number of digits only the two neighbours of the value on that decimal
grid can be the answer, so the search tries them for one digit, two digits and so on up to
seventeen, which always suffice.
-/

/-- The value of a positive finite number and the ends of the interval of reals that round to it,
as numerators over one denominator.  The ends belong to the interval when `closed` holds. -/
structure RoundingInterval where
  low : Nat
  value : Nat
  high : Nat
  denominator : Nat
  closed : Bool
deriving Repr

/-- The interval of reals that round to `significand * 2 ^ exponent`.  Below a power of two the
neighbours are closer, so the lower end lies a quarter of a step away instead of a half. -/
def RoundingInterval.of (significand : Nat) (exponent : Int) : RoundingInterval :=
  let narrow := significand == Nat.pow 2 (precision - 1) && minExponent < exponent
  let unit := divideByTwoPower 1 1 (2 - exponent)
  { low := (4 * significand - (if narrow then 1 else 2)) * unit.1
    value := 4 * significand * unit.1
    high := (4 * significand + 2) * unit.1
    denominator := unit.2
    closed := significand % 2 == 0 }

/-- The number of decimal digits of a natural number. -/
def digitCount (value : Nat) : Nat :=
  (Nat.toDigits 10 value).length

/-- The place of the decimal point: the least `k` for which a positive quotient is below
`10 ^ k`. -/
def pointPlace (numerator denominator : Nat) : Int :=
  if denominator ≤ numerator then digitCount (numerator / denominator)
  else 1 - (digitCount ((denominator - 1) / numerator) : Int)

/-- A quotient multiplied by a power of ten, as a numerator and a denominator. -/
def scaleByTen (numerator denominator : Nat) (exponent : Int) : Nat × Nat :=
  match exponent with
  | .ofNat e => (numerator * Nat.pow 10 e, denominator)
  | .negSucc e => (numerator, denominator * Nat.pow 10 (e + 1))

/-- Whether a grid point, given by its numerator, rounds to the number. -/
def RoundingInterval.admits (interval : RoundingInterval) (scale point : Nat) : Bool :=
  if interval.closed then interval.low * scale ≤ point && point ≤ interval.high * scale
  else interval.low * scale < point && point < interval.high * scale

/-- The nearer of the admitted neighbours of the value on the grid of multiples of
`10 ^ (-places)`. -/
def RoundingInterval.gridPoint? (interval : RoundingInterval) (places : Int) : Option Nat :=
  let grid := scaleByTen 1 interval.denominator places
  let exact := interval.value * grid.1
  let below := exact / grid.2
  let lower := interval.admits grid.1 (below * grid.2)
  let upper := interval.admits grid.1 ((below + 1) * grid.2)
  let distance := 2 * (exact - below * grid.2)
  let preferUpper := grid.2 < distance || (grid.2 == distance && below % 2 == 1)
  if lower && upper then some (if preferUpper then below + 1 else below)
  else if lower then some below
  else if upper then some (below + 1)
  else none

/-- Tries grids with more and more digits; `fuel` bounds how many are tried. -/
def RoundingInterval.search (interval : RoundingInterval) (place : Int) :
    Nat → Int → Nat × Int
  | 0, digits => ((interval.gridPoint? (digits - place)).getD 0, place - digits)
  | fuel + 1, digits =>
      match interval.gridPoint? (digits - place) with
      | some point => (point, place - digits)
      | none => interval.search place fuel (digits + 1)

/-- The digits and the decimal exponent of the shortest decimal of a positive number. -/
def shortestDecimal (significand : Nat) (exponent : Int) : Nat × Int :=
  let interval := RoundingInterval.of significand exponent
  interval.search (pointPlace interval.value interval.denominator) 16 1

/-! ## The written form -/

/-- Digits without the zeros at their end. -/
def significantDigits (digits : Nat) : List Char :=
  ((Nat.toDigits 10 digits).reverse.dropWhile (· == '0')).reverse

/-- An exponent with its sign and at least two digits. -/
def exponentText (exponent : Int) : List Char :=
  let digits := Nat.toDigits 10 exponent.natAbs
  (if exponent < 0 then '-' else '+') :: (if digits.length < 2 then '0' :: digits else digits)

/-- Digits with a point at the given place, or with an exponent when the point would stand more
than sixteen digits to the right or more than three zeros to the left. -/
def placePoint (digits : List Char) (place : Int) : List Char :=
  if place ≤ -4 || 16 < place then
    let fraction := digits.drop 1
    digits.take 1 ++ (if fraction.isEmpty then [] else '.' :: fraction)
      ++ 'e' :: exponentText (place - 1)
  else if place ≤ 0 then
    ['0', '.'] ++ List.replicate place.natAbs '0' ++ digits
  else if (digits.length : Int) ≤ place then
    digits ++ List.replicate (place.natAbs - digits.length) '0' ++ ['.', '0']
  else digits.take place.natAbs ++ '.' :: digits.drop place.natAbs

/-- The text of a floating-point number, with the given words for what is not finite. -/
def Binary64.textWith (infinity notNumber : String) : Binary64 → String
  | .nan => notNumber
  | .infinite negative => if negative then "-" ++ infinity else infinity
  | .finite negative significand exponent =>
      let sign := if negative then ['-'] else []
      if significand = 0 then String.ofList (sign ++ ['0', '.', '0'])
      else
        let decimal := shortestDecimal significand exponent
        let all := digitCount decimal.1
        String.ofList (sign ++ placePoint (significantDigits decimal.1) (all + decimal.2))

/-- The text of a floating-point number in messages and generated text. -/
def Binary64.text (number : Binary64) : String :=
  number.textWith "inf" "nan"

/-- The text of a floating-point number in a JSON document. -/
def Binary64.jsonText (number : Binary64) : String :=
  number.textWith "Infinity" "NaN"

end WireSchema.Decimal
