import WireSchema.Compiler.Script.Pattern

namespace WireSchema.Script

/-!
Expressions that are searched for in lines.

An expression is a list of atoms, each of which matches one character and may be repeated.  It may
be bound to the start and to the end of a line.  The first place that matches counts, and of the
matches there the longest one for each atom in turn.
-/

/-- What matches a number of characters. -/
structure Atom where
  test : Char → Bool
  least : Nat
  /-- Whether more than one character may match. -/
  repeats : Bool
deriving Inhabited

structure Expression where
  fromStart : Bool
  atoms : List Atom
  toEnd : Bool
deriving Inhabited

namespace Expression

/-- The atom that begins an expression, with what follows it. -/
def readAtom (cs : List Char) : (Char → Bool) × List Char :=
  match cs with
  | [] => (fun _ => false, [])
  | '.' :: rest => (fun _ => true, rest)
  | '\\' :: c :: rest => ((· == c), rest)
  | '[' :: rest =>
      match Pattern.readClass? (rest.map fun c => ⟨c, false⟩) with
      | some (test, after) => (test, after.map (·.c))
      | none => ((· == '['), rest)
  | c :: rest => ((· == c), rest)

/-- An atom as often as the marks after it say. -/
def repeated (extended : Bool) (test : Char → Bool) (cs : List Char) : Atom × List Char :=
  match cs with
  | '*' :: rest => (⟨test, 0, true⟩, rest)
  | '\\' :: '+' :: rest => if extended then (⟨test, 1, false⟩, cs) else (⟨test, 1, true⟩, rest)
  | '\\' :: '?' :: rest => if extended then (⟨test, 1, false⟩, cs) else (⟨test, 0, false⟩, rest)
  | '+' :: rest => if extended then (⟨test, 1, true⟩, rest) else (⟨test, 1, false⟩, cs)
  | '?' :: rest => if extended then (⟨test, 0, false⟩, rest) else (⟨test, 1, false⟩, cs)
  | _ => (⟨test, 1, false⟩, cs)

/-- The atoms of an expression, and whether it is bound to the end. -/
def readAtoms (extended : Bool) : Nat → List Char → List Atom × Bool
  | 0, _ => ([], false)
  | _ + 1, [] => ([], false)
  | _ + 1, ['$'] => ([], true)
  | fuel + 1, cs =>
      let (test, rest) := readAtom cs
      let (atom, rest) := repeated extended test rest
      let (atoms, toEnd) := readAtoms extended fuel rest
      (atom :: atoms, toEnd)

def ofText (extended : Bool) (text : String) : Expression :=
  let fromStart := text.toList.head? == some '^'
  let (atoms, toEnd) :=
    readAtoms extended (text.length + 1) (text.toList.drop (if fromStart then 1 else 0))
  { fromStart, atoms, toEnd }

/-- The expression that matches a text itself. -/
def plain (text : String) : Expression :=
  { fromStart := false, toEnd := false
    atoms := text.toList.map fun c => ⟨(· == c), 1, false⟩ }

/-- The length of what atoms match at the start of a text. -/
def matchLength? (toEnd : Bool) : List Atom → List Char → Option Nat
  | [], cs => if toEnd && !cs.isEmpty then none else some 0
  | atom :: atoms, cs =>
      let fitting := (cs.takeWhile atom.test).length
      let most := if atom.repeats then fitting else min 1 fitting
      (List.range (most + 1)).reverse.findSome? fun count =>
        if count < atom.least then none
        else (matchLength? toEnd atoms (cs.drop count)).map (count + ·)

/-- The first match in a text: what is before it, the match, and what is after it. -/
def find? (expression : Expression) (cs : List Char) :
    Option (List Char × List Char × List Char) :=
  let starts := if expression.fromStart then [0] else List.range (cs.length + 1)
  starts.findSome? fun start =>
    (matchLength? expression.toEnd expression.atoms (cs.drop start)).map fun length =>
      (cs.take start, (cs.drop start).take length, cs.drop (start + length))

/-- A text in which matches are replaced: the first one, or all.  An empty match does not count
right after another match. -/
def replace (expression : Expression) (replacement : List Char → List Char) (all : Bool) :
    Nat → Bool → List Char → List Char
  | 0, _, cs => cs
  | fuel + 1, followsMatch, cs =>
      match expression.find? cs with
      | none => cs
      | some (before, found, after) =>
          if !all || expression.fromStart then before ++ replacement found ++ after
          else if found.isEmpty then
            let own := if followsMatch && before.isEmpty then [] else replacement found
            match after with
            | [] => before ++ own
            | c :: after =>
                before ++ own ++ c :: replace expression replacement all fuel false after
          else before ++ replacement found ++ replace expression replacement all fuel true after

end Expression

end WireSchema.Script
