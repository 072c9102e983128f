import WireSchema.Compiler.Script.Command

namespace WireSchema.Script

/-!
Arithmetic expressions.

Values are whole numbers of 64 bits that wrap around.  Operators have the usual ranks; a name stands
for the value of a variable and may be assigned to.  The side of an expression that does not count
is read without effect, so a division by zero there is no fault.
-/

/-- A number within the range of 64 bits. -/
def wrapped (value : Int) : Int := Int.bmod value (Nat.pow 2 64)

/-- Why an expression has no value. -/
inductive SumFault where
  /-- The expression cannot be read. -/
  | malformed (message : String)
  /-- A text is no number. -/
  | noNumber (text : String)
deriving DecidableEq, Repr

/-- The state of reading an expression. -/
structure SumState where
  rest : List Char
  environment : List (String × String)

/-- A step of reading an expression. -/
abbrev Sum := StateT SumState (Except SumFault)

namespace Sum

/-- White space in an expression. -/
def isBlank (c : Char) : Bool := [' ', '\t', '\n', '\r'].contains c

/-! ## Numbers -/

/-- The value of a digit in a base up to sixteen. -/
def digitIn? (base : Nat) (c : Char) : Option Nat :=
  let value :=
    if c.isDigit then c.toNat - '0'.toNat
    else if 'a' ≤ c && c ≤ 'f' then c.toNat - 'a'.toNat + 10
    else if 'A' ≤ c && c ≤ 'F' then c.toNat - 'A'.toNat + 10
    else base
  if value < base then some value else none

/-- The number of leading digits in a base, with what follows. -/
def digitsIn (base : Nat) (value : Nat) : List Char → Nat × List Char
  | [] => (value, [])
  | c :: cs =>
      match digitIn? base c with
      | some digit => digitsIn base (base * value + digit) cs
      | none => (value, c :: cs)

def greatest : Nat := Nat.pow 2 63 - 1

/-- A leading number of any size: with base sixteen after `0x`, with base eight after another
zero. -/
def leadingNatural (cs : List Char) : Nat × List Char :=
  match cs with
  | '0' :: x :: c :: others =>
      if (x == 'x' || x == 'X') && (digitIn? 16 c).isSome then digitsIn 16 0 (c :: others)
      else digitsIn 8 0 cs
  | '0' :: _ => digitsIn 8 0 cs
  | _ => digitsIn 10 0 cs

/-- A leading number, the greatest one for all that are greater. -/
def leadingNumber (cs : List Char) : Int × List Char :=
  let (value, rest) := leadingNatural cs
  (min value greatest, rest)

/-- The number that a text of a variable is; nothing counts as zero. -/
def numberOf? (text : String) : Option Int :=
  let cs := text.toList.dropWhile isBlank
  let (negative, digits) :=
    match cs with
    | '-' :: rest => (true, rest)
    | '+' :: rest => (false, rest)
    | _ => (false, cs)
  let (value, rest) := leadingNumber digits
  if cs.isEmpty then some 0
  else if rest.length == digits.length || !rest.all isBlank then none
  else some (if negative then -value else value)

/-! ## Reading -/

def refuse {α : Type} (message : String) : Sum α := throw (.malformed message)

/-- What comes next, without white space. -/
def upcoming : Sum (List Char) := do
  modify fun state => { state with rest := state.rest.dropWhile isBlank }
  return (← get).rest

/-- Moves over characters. -/
def skip (count : Nat) : Sum Unit :=
  modify fun state => { state with rest := state.rest.drop count }

def valueOf (name : String) : Sum Int := do
  let text := ((← get).environment.find? (·.1 == name)).elim "" (·.2)
  match numberOf? text with
  | some value => return value
  | none => throw (.noNumber text)

/-- Sets a variable. -/
def assign (name : String) (value : Int) : Sum Unit :=
  modify fun state =>
    { state with
      environment := (name, toString value) :: state.environment.filter (·.1 != name) }

/-- Operators by rank, the weakest first; longer ones before those they begin with. -/
def ranks : List (List String) :=
  [["||"], ["&&"], ["|"], ["^"], ["&"], ["==", "!="], ["<=", ">=", "<", ">"], ["<<", ">>"],
   ["+", "-"], ["*", "/", "%"]]

/-- Every operator and what begins with one, longer ones before those they begin with. -/
def operators : List String :=
  ["<<=", ">>=", "||", "&&", "==", "!=", "<=", ">=", "<<", ">>", "+=", "-=", "*=", "/=", "%=",
   "&=", "|=", "^=", "+", "-", "*", "/", "%", "&", "|", "^", "<", ">", "=", "?", ":"]

/-- The operator that comes next. -/
def operator? : Sum (Option String) := do
  let rest ← upcoming
  return operators.find? fun mark => mark.toList.isPrefixOf rest

/-- The number of a truth value. -/
def ofBool (value : Bool) : Int := if value then 1 else 0

/-- The bits of a number, as a natural number. -/
def bits (value : Int) : Nat := (value % Int.pow 2 64).toNat

/-- The value of an operator; none when a number is divided by zero. -/
def outcome? (operator : String) (first second : Int) : Option Int :=
  match operator with
  | "||" => some (ofBool (first != 0 || second != 0))
  | "&&" => some (ofBool (first != 0 && second != 0))
  | "|" => some (wrapped (bits first ||| bits second : Nat))
  | "^" => some (wrapped (bits first ^^^ bits second : Nat))
  | "&" => some (wrapped (bits first &&& bits second : Nat))
  | "==" => some (ofBool (first == second))
  | "!=" => some (ofBool (first != second))
  | "<=" => some (ofBool (first ≤ second))
  | ">=" => some (ofBool (second ≤ first))
  | "<" => some (ofBool (first < second))
  | ">" => some (ofBool (second < first))
  | "<<" => some (wrapped (first * Int.pow 2 (second % 64).toNat))
  | ">>" => some (wrapped (first / Int.pow 2 (second % 64).toNat))
  | "+" => some (wrapped (first + second))
  | "-" => some (wrapped (first - second))
  | "*" => some (wrapped (first * second))
  | "/" => if second = 0 then none else some (wrapped (first.tdiv second))
  | "%" => if second = 0 then none else some (wrapped (first.tmod second))
  | _ => some second

def carryOut (counts : Bool) (operator : String) (first second : Int) : Sum Int :=
  if !counts then return 0
  else
    match outcome? operator first second with
    | some value => return value
    | none => refuse "division by zero"

/-- The operator that an assignment carries out before it sets a variable. -/
def assigning? (mark : String) : Option String :=
  if ["=", "<<=", ">>=", "+=", "-=", "*=", "/=", "%=", "&=", "|=", "^="].contains mark then
    some (String.ofList mark.toList.dropLast)
  else none

def countsAfter (operator : String) (first : Int) : Bool :=
  if operator = "||" then first == 0 else if operator = "&&" then first != 0 else true

mutual

def readWhole : Nat → Bool → Sum Int
  | 0, _ => refuse "expecting primary"
  | fuel + 1, counts => do
      let before ← get
      let name := String.ofList ((← upcoming).takeWhile isNameChar)
      skip name.length
      let assigning := (← operator?).bind fun mark =>
        (assigning? mark).map fun operator => (mark, operator)
      match isName name, assigning with
      | true, some (mark, operator) =>
          skip mark.length
          let right ← readWhole fuel counts
          let left ← if operator = "" then pure 0 else valueOf name
          let value ← carryOut counts operator left right
          if counts then assign name value
          return value
      | _, _ =>
          set before
          readChoice fuel counts

/-- Reads an expression with a question mark, or one without. -/
def readChoice : Nat → Bool → Sum Int
  | 0, _ => refuse "expecting primary"
  | fuel + 1, counts => do
      let test ← readRank fuel ranks counts
      match ← operator? with
      | some "?" =>
          skip 1
          let positive ← readWhole fuel (counts && test != 0)
          match ← operator? with
          | some ":" =>
              skip 1
              let negative ← readChoice fuel (counts && test == 0)
              return if test != 0 then positive else negative
          | _ => refuse "expecting ':'"
      | _ => return test

/-- Reads operators of a rank and of those above it. -/
def readRank : Nat → List (List String) → Bool → Sum Int
  | 0, _, _ => refuse "expecting primary"
  | fuel + 1, [], counts => readUnary fuel counts
  | fuel + 1, rank :: higher, counts => do
      let first ← readRank fuel higher counts
      readFurther fuel rank higher counts first

def readFurther : Nat → List String → List (List String) → Bool → Int → Sum Int
  | 0, _, _, _, _ => refuse "expecting primary"
  | fuel + 1, rank, higher, counts, first => do
      match ← operator? with
      | none => return first
      | some mark =>
          if rank.contains mark then
            skip mark.length
            let second ← readRank fuel higher (counts && countsAfter mark first)
            let value ←
              if countsAfter mark first then carryOut counts mark first second
              else pure (ofBool (first != 0))
            readFurther fuel rank higher counts value
          else return first

/-- Reads a number, a name, an expression in brackets or one with a sign. -/
def readUnary : Nat → Bool → Sum Int
  | 0, _ => refuse "expecting primary"
  | fuel + 1, counts => do
      match ← upcoming with
      | '-' :: _ => skip 1; return wrapped (-(← readUnary fuel counts))
      | '+' :: _ => skip 1; readUnary fuel counts
      | '!' :: _ => skip 1; return ofBool ((← readUnary fuel counts) == 0)
      | '~' :: _ => skip 1; return wrapped (-(← readUnary fuel counts) - 1)
      | '(' :: _ =>
          skip 1
          let value ← readWhole fuel counts
          match ← upcoming with
          | ')' :: _ => skip 1; return value
          | _ => refuse "expecting ')'"
      | c :: cs =>
          if c.isDigit then
            let (value, rest) := leadingNumber (c :: cs)
            modify fun state => { state with rest }
            return value
          else if isNameStart c then
            let name := String.ofList ((c :: cs).takeWhile isNameChar)
            skip name.length
            if counts then valueOf name else return 0
          else refuse "expecting primary"
      | [] => refuse "expecting primary"

end

def read (fuel : Nat) : Sum Int := do
  let value ← readWhole fuel true
  if (← upcoming).isEmpty then return value else refuse "expecting EOF"

end Sum

/-- The value of an arithmetic expression, with the variables after it. -/
def sumOf (environment : List (String × String)) (expression : String) :
    Except SumFault (Int × List (String × String)) := do
  let (value, state) ← (Sum.read (20 * expression.length + 100)).run
    { rest := expression.toList, environment }
  return (value, state.environment)

end WireSchema.Script
