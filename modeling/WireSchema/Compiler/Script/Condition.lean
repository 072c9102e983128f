import WireSchema.Compiler.Script.Sum

namespace WireSchema.Script

/-!
Conditions.

A condition is a list of words: tests of texts, of numbers and of files, joined by words for *and*,
*or* and *not* and by brackets.  A word that looks like a test is an operand where only an operand
can stand.
-/

/-- What a path leads to, as far as a condition asks. -/
inductive FileKind where
  | missing
  | directory
  /-- A file; `isEmpty` tells that it has no content. -/
  | file (isEmpty : Bool)
deriving DecidableEq, Repr

namespace Condition

/-- The part that a word plays in a condition. -/
inductive Role where
  | nothing
  | operand
  | single
  | double
  | negation
  | conjunction
  | disjunction
  | opening
  | closing
deriving DecidableEq, Repr

def singleTests : List String :=
  ["-r", "-w", "-x", "-e", "-f", "-d", "-c", "-b", "-p", "-u", "-g", "-k", "-s", "-t", "-z", "-n",
   "-h", "-O", "-G", "-L", "-S"]

/-- Tests of two operands. -/
def doubleTests : List String :=
  ["=", "!=", "<", ">", "-eq", "-ne", "-ge", "-gt", "-le", "-lt", "-nt", "-ot", "-ef"]

/-- The role that a word can play. -/
def roleOf (word : String) : Role :=
  if singleTests.contains word then .single
  else if doubleTests.contains word then .double
  else if word = "!" then .negation
  else if word = "-a" then .conjunction
  else if word = "-o" then .disjunction
  else if word = "(" then .opening
  else if word = ")" then .closing
  else .operand

/-- Whether a test of one operand is itself an operand before some words. -/
def isOperandBefore : List String → Bool
  | [] => true
  | [_] => false
  | word :: _ => roleOf word == .double

def firstRole : List String → Role
  | [] => .nothing
  | word :: rest =>
      match roleOf word with
      | .single => if isOperandBefore rest then .operand else .single
      | .opening => if rest.isEmpty then .operand else .opening
      | role => role

def numberOf (word : String) : Except String Int :=
  let cs := word.toList.dropWhile Sum.isBlank
  let (negative, digits) :=
    match cs with
    | '-' :: rest => (true, rest)
    | '+' :: rest => (false, rest)
    | _ => (false, cs)
  let (value, rest) := Sum.digitsIn 10 0 digits
  if rest.length == digits.length || !rest.all Sum.isBlank then .error ("Illegal number: " ++ word)
  else .ok (if negative then -(value : Int) else value)

def applySingle (kindOf : String → FileKind) (test operand : String) : Except String Bool :=
  match test with
  | "-z" => .ok (operand == "")
  | "-n" => .ok (operand != "")
  | "-t" => do
      let _ ← numberOf operand
      return false
  | "-f" => .ok (match kindOf operand with | .file _ => true | _ => false)
  | "-s" => .ok (kindOf operand == .file false || kindOf operand == .directory)
  | _ =>
      if test = "-d" || test = "-x" then .ok (kindOf operand == .directory)
      else if ["-r", "-w", "-e", "-O", "-G"].contains test then .ok (kindOf operand != .missing)
      else .ok false

/-- The outcome of a test of two operands. -/
def applyDouble (test first second : String) : Except String Bool :=
  match test with
  | "=" => .ok (first == second)
  | "!=" => .ok (first != second)
  | "<" => .ok (decide (first < second))
  | ">" => .ok (decide (second < first))
  | _ =>
      if ["-nt", "-ot", "-ef"].contains test then .ok false
      else do
        let left ← numberOf first
        let right ← numberOf second
        return match test with
          | "-eq" => left == right
          | "-ne" => left != right
          | "-ge" => decide (right ≤ left)
          | "-gt" => decide (right < left)
          | "-le" => decide (left ≤ right)
          | _ => decide (left < right)

/-- A reading: the outcome with the words from the last one that was read on. -/
abbrev Reading := Except String (Bool × List String)

mutual

/-- Reads conditions of which one must hold. -/
def readAny (kindOf : String → FileKind) : Nat → List String → Reading
  | 0, words => .ok (false, words)
  | fuel + 1, words => do
      let (first, last) ← readAll kindOf fuel words
      if firstRole (last.drop 1) == .disjunction then
        let (others, last) ← readAny kindOf fuel (last.drop 2)
        return (first || others, last)
      else return (first, last)

/-- Reads conditions all of which must hold. -/
def readAll (kindOf : String → FileKind) : Nat → List String → Reading
  | 0, words => .ok (false, words)
  | fuel + 1, words => do
      let (first, last) ← readNegated kindOf fuel words
      if firstRole (last.drop 1) == .conjunction then
        let (others, last) ← readAll kindOf fuel (last.drop 2)
        return (first && others, last)
      else return (first, last)

/-- Reads a condition that may be negated. -/
def readNegated (kindOf : String → FileKind) : Nat → List String → Reading
  | 0, words => .ok (false, words)
  | fuel + 1, words =>
      if firstRole words == .negation then
        if words.length = 1 then .ok (true, words)
        else do
          let (holds, last) ← readNegated kindOf fuel (words.drop 1)
          return (!holds, last)
      else readSingle kindOf fuel words

def readSingle (kindOf : String → FileKind) : Nat → List String → Reading
  | 0, words => .ok (false, words)
  | fuel + 1, words =>
      match firstRole words, words with
      | .nothing, _ => .ok (false, words)
      | .opening, _ => do
          if firstRole (words.drop 1) == .closing then return (false, words.drop 1)
          let (holds, last) ← readAny kindOf fuel (words.drop 1)
          if firstRole (last.drop 1) == .closing then return (holds, last.drop 1)
          else throw "closing paren expected"
      | .single, [test] => .error (test ++ ": argument expected")
      | .single, test :: operand :: rest => do
          return (← applySingle kindOf test operand, operand :: rest)
      | _, first :: test :: rest =>
          if firstRole (test :: rest) == .double then
            match rest with
            | [] => .error (test ++ ": argument expected")
            | second :: rest => do return (← applyDouble test first second, second :: rest)
          else .ok (first != "", words)
      | _, words => .ok (words.head?.any (· != ""), words)

end

/-- Reads words, of which none may be left. -/
def readWhole (kindOf : String → FileKind) (words : List String) : Except String Bool := do
  let (holds, last) ← readAny kindOf (4 * words.length + 4) words
  match last with
  | word :: _ :: _ =>
      throw (if word = "" then "unexpected operator" else word ++ ": unexpected operator")
  | _ => return holds

/-- The outcome of a test of two operands among three words. -/
def threeWords? : List String → Option (String × String × String)
  | [first, test, second] => if roleOf test == .double then some (first, test, second) else none
  | _ => none

/-- Whether words stand between brackets. -/
def isBracketed (words : List String) : Bool :=
  (words.length = 3 || words.length = 4) && words.head? == some "(" && words.getLast? == some ")"

/-- Whether a condition holds. -/
def evaluate (kindOf : String → FileKind) : Nat → List String → Except String Bool
  | 0, _ => .ok false
  | fuel + 1, words =>
      match threeWords? words with
      | some (first, test, second) => applyDouble test first second
      | none =>
          if words.isEmpty then .ok false
          else if isBracketed words then readWhole kindOf (words.drop 1).dropLast
          else if (words.length = 3 || words.length = 4) && words.head? == some "!" then do
            return !(← evaluate kindOf fuel (words.drop 1))
          else readWhole kindOf words

def holds (kindOf : String → FileKind) (words : List String) : Except String Bool :=
  evaluate kindOf (words.length + 1) words

end Condition

end WireSchema.Script
