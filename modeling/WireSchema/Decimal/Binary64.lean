namespace WireSchema.Decimal

/-!
Floating-point numbers as exact values.

A document may hold numbers with a point or an exponent.  Such a number is rounded to the nearest
value with 53 significant bits, ties going to the even neighbour, and kept as sign, significand and
binary exponent.  Everything here is arithmetic on natural numbers, so two numbers are equal
exactly when their parts are.
-/

/-- A floating-point number: `± significand * 2 ^ exponent`, an infinity, or no number. -/
inductive Binary64 where
  | finite (negative : Bool) (significand : Nat) (exponent : Int)
  | infinite (negative : Bool)
  | nan
deriving DecidableEq, Repr

/-- The number of significant bits. -/
def precision : Nat := 53

/-- The least exponent, at which the significand may have fewer bits. -/
def minExponent : Int := -1074

/-- The greatest exponent of a finite number. -/
def maxExponent : Int := 971

/-- The natural number nearest to a quotient; halfway cases go to the even neighbour. -/
def roundHalfEven (numerator denominator : Nat) : Nat :=
  let quotient := numerator / denominator
  let twice := 2 * (numerator % denominator)
  if twice < denominator then quotient
  else if denominator < twice then quotient + 1
  else quotient + quotient % 2

/-- A quotient divided by a power of two, as a numerator and a denominator. -/
def divideByTwoPower (numerator denominator : Nat) (exponent : Int) : Nat × Nat :=
  match exponent with
  | .ofNat e => (numerator, denominator * Nat.pow 2 e)
  | .negSucc e => (numerator * Nat.pow 2 (e + 1), denominator)

/-- The floating-point number nearest to a positive quotient. -/
def Binary64.ofQuotient (negative : Bool) (numerator denominator : Nat) : Binary64 :=
  let guess : Int := (numerator.log2 : Int) - (denominator.log2 : Int) - (precision - 1 : Nat)
  let scaled := divideByTwoPower numerator denominator guess
  let exponent :=
    max minExponent (if scaled.1 < Nat.pow 2 (precision - 1) * scaled.2 then guess - 1 else guess)
  let exact := divideByTwoPower numerator denominator exponent
  let significand := roundHalfEven exact.1 exact.2
  let carried := significand == Nat.pow 2 precision
  let significand := if carried then Nat.pow 2 (precision - 1) else significand
  let exponent := if carried then exponent + 1 else exponent
  if maxExponent < exponent then .infinite negative
  else .finite negative significand exponent

/-- The floating-point number nearest to `± digits * 10 ^ exponent`.  Exponents far outside the
range of finite numbers are decided without computing the power. -/
def Binary64.ofDecimal (negative : Bool) (digits : Nat) (exponent : Int) : Binary64 :=
  if digits = 0 then .finite negative 0 minExponent
  else
    let magnitude : Int := (Nat.toDigits 10 digits).length + exponent
    if magnitude < -340 then .finite negative 0 minExponent
    else if 320 < magnitude then .infinite negative
    else
      match exponent with
      | .ofNat e => .ofQuotient negative (digits * Nat.pow 10 e) 1
      | .negSucc e => .ofQuotient negative digits (Nat.pow 10 (e + 1))

/-- Whether the number is zero of either sign. -/
def Binary64.isZero : Binary64 → Bool
  | .finite _ significand _ => significand == 0
  | _ => false

/-- A finite number as a multiple of the least positive one, which every finite number is. -/
def Binary64.multiple (significand : Nat) (exponent : Int) : Nat :=
  significand * Nat.pow 2 (exponent - minExponent).toNat

/-- The place of a number in the order of numbers: whether it is an infinity, and of which sign,
and its multiple of the least positive number. -/
def Binary64.place? : Binary64 → Option (Int × Int)
  | .finite negative significand exponent =>
      let multiple : Int := multiple significand exponent
      some (0, if negative then -multiple else multiple)
  | .infinite negative => some (if negative then -1 else 1, 0)
  | .nan => none

/-- The place of an integer in the order of numbers. -/
def integerPlace (value : Int) : Int × Int :=
  (0, value * (Binary64.multiple 1 0 : Nat))

end WireSchema.Decimal
