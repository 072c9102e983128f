namespace WireSchema.Script

/-!
Patterns.

A pattern matches texts: a star any text, a question mark any character, brackets one character of
a class, and every other character itself.  A quoted character always matches itself.
-/

structure PatternChar where
  c : Char
  quoted : Bool
deriving DecidableEq, Repr, Inhabited

abbrev Pattern := List PatternChar

namespace Pattern

def isMark (mark : Char) (next : PatternChar) : Bool := next.c == mark && !next.quoted

/-- The classes of characters with a name. -/
def namedClass? (name : String) : Option (Char → Bool) :=
  match name with
  | "alpha" => some Char.isAlpha
  | "digit" => some Char.isDigit
  | "alnum" => some Char.isAlphanum
  | "upper" => some Char.isUpper
  | "lower" => some Char.isLower
  | "space" => some fun c => c == ' ' || (9 ≤ c.toNat && c.toNat ≤ 13)
  | "blank" => some fun c => c == ' ' || c == '\t'
  | "punct" => some fun c => 33 ≤ c.toNat && c.toNat ≤ 126 && !c.isAlphanum
  | "print" => some fun c => 32 ≤ c.toNat && c.toNat ≤ 126
  | "graph" => some fun c => 33 ≤ c.toNat && c.toNat ≤ 126
  | "cntrl" => some fun c => c.toNat < 32 || c.toNat == 127
  | "xdigit" => some fun c => c.isDigit || ('a' ≤ c && c ≤ 'f') || ('A' ≤ c && c ≤ 'F')
  | _ => none

/-- The name between `[:` and `:]` with what follows. -/
def className? (cs : List Char) : Option (String × List Char) :=
  match cs with
  | '[' :: ':' :: rest =>
      let name := rest.takeWhile Char.isAlpha
      match rest.drop name.length with
      | ':' :: ']' :: after => some (String.ofList name, after)
      | _ => none
  | _ => none

/-- Whether a character is one of the items of a class, which are single characters, ranges and
names of classes. -/
def isItemOf (c : Char) : Nat → List Char → Bool
  | 0, _ => false
  | _ + 1, [] => false
  | fuel + 1, first :: rest =>
      match className? (first :: rest) with
      | some (name, after) => ((namedClass? name).elim false (· c)) || isItemOf c fuel after
      | none =>
          match rest with
          | '-' :: last :: after => (first ≤ c && c ≤ last) || isItemOf c fuel after
          | _ => first == c || isItemOf c fuel rest

/-- The items of a class up to its closing bracket, which counts as an item when it comes first. -/
def itemsFrom (started : Bool) : Nat → Pattern → Option (List Char × Pattern)
  | 0, _ => none
  | _ + 1, [] => none
  | fuel + 1, next :: rest =>
      if started && isMark ']' next then some ([], rest)
      else
        match className? ((next :: rest).map (·.c)) with
        | some (name, _) =>
            let length := name.length + 4
            (itemsFrom true fuel (rest.drop (length - 1))).map fun found =>
              (((next :: rest).take length).map (·.c) ++ found.1, found.2)
        | none => (itemsFrom true fuel rest).map fun found => (next.c :: found.1, found.2)

/-- A class of characters after its opening bracket: its test, and what follows it. -/
def readClass? (rest : Pattern) : Option ((Char → Bool) × Pattern) :=
  let isNegated := rest.head?.any fun next => isMark '!' next || isMark '^' next
  let inner := if isNegated then rest.drop 1 else rest
  (itemsFrom false (inner.length + 1) inner).map fun found =>
    (fun c => isItemOf c (found.1.length + 1) found.1 != isNegated, found.2)

def matchesFrom : Nat → Pattern → List Char → Bool
  | 0, _, _ => false
  | _ + 1, [], cs => cs.isEmpty
  | fuel + 1, next :: rest, cs =>
      if isMark '*' next then
        matchesFrom fuel rest cs
          || (match cs with
            | [] => false
            | _ :: cs => matchesFrom fuel (next :: rest) cs)
      else
        match cs with
        | [] => false
        | c :: cs =>
            if isMark '?' next then matchesFrom fuel rest cs
            else if isMark '[' next then
              match readClass? rest with
              | some (test, after) => test c && matchesFrom fuel after cs
              | none => c == '[' && matchesFrom fuel rest cs
            else c == next.c && matchesFrom fuel rest cs

def covers (pattern : Pattern) (text : String) : Bool :=
  matchesFrom (pattern.length + text.length + 1) pattern text.toList

def hasMarks (pattern : Pattern) : Bool :=
  pattern.any fun next => ['*', '?', '['].any (isMark · next)

def text (pattern : Pattern) : String := String.ofList (pattern.map (·.c))

/-- A text without what a pattern matches at its start: the shortest part, or the longest one. -/
def withoutStart (pattern : Pattern) (longest : Bool) (text : String) : String :=
  let cs := text.toList
  let lengths := List.range (cs.length + 1)
  let found := (if longest then lengths.reverse else lengths).find? fun length =>
    pattern.covers (String.ofList (cs.take length))
  match found with
  | some length => String.ofList (cs.drop length)
  | none => text

/-- A text without what a pattern matches at its end. -/
def withoutEnd (pattern : Pattern) (longest : Bool) (text : String) : String :=
  let cs := text.toList
  let lengths := List.range (cs.length + 1)
  let found := (if longest then lengths else lengths.reverse).find? fun length =>
    pattern.covers (String.ofList (cs.drop length))
  match found with
  | some length => String.ofList (cs.take length)
  | none => text

end Pattern

end WireSchema.Script
