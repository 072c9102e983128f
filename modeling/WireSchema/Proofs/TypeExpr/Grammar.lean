import Mathlib.Data.List.TakeWhile
import WireSchema.TypeExpr.Parser

namespace WireSchema

/-!
# The grammar of the notation of types

The reader of types tries one mark after the other and goes on where the last one ended.  The
grammar says without a reader what the notation of a type is: `Derives type source rest` means that
`source` begins with a derivation of `type`, behind which `rest` is left.  A derivation chooses
nothing but the white space.  What follows it has a part only in names, which are longest runs of
their characters and give way to the marks.

White space and the characters of names are different ones, so that a name begins where the white
space in front of it ends.
-/

namespace Text

theorem afterLeading?_eq_none_iff {mark cs : List Char} :
    afterLeading? mark cs = none ↔ ¬mark <+: cs := by
  rw [Option.eq_none_iff_forall_ne_some]
  constructor
  · rintro unmarked ⟨rest, split⟩
    exact unmarked rest (afterLeading?_eq_some_iff.mpr split.symm)
  · intro other rest marked
    exact other ⟨rest, (afterLeading?_eq_some_iff.mp marked).symm⟩

theorem breakAtLast?_of_not_mem {separator : Char} {cs : List Char} (absent : separator ∉ cs) :
    breakAtLast? separator cs = none := by
  induction cs with
  | nil => rfl
  | cons c cs ih =>
      rw [List.mem_cons, not_or] at absent
      rw [breakAtLast?, ih absent.2, if_neg (Ne.symm absent.1)]

/-- A text is broken at the separator behind which there is none. -/
theorem breakAtLast?_append {separator : Char} {after : List Char} (absent : separator ∉ after)
    (before : List Char) :
    breakAtLast? separator (before ++ separator :: after) = some (before, after) := by
  induction before with
  | nil => rw [List.nil_append, breakAtLast?, breakAtLast?_of_not_mem absent, if_pos rfl]
  | cons c before ih => rw [List.cons_append, breakAtLast?, ih]

/-- A text has a last occurrence of a separator or none at all. -/
theorem exists_last_or_not_mem (separator : Char) (cs : List Char) :
    (∃ before after, cs = before ++ separator :: after ∧ separator ∉ after) ∨ separator ∉ cs := by
  induction cs with
  | nil => exact Or.inr List.not_mem_nil
  | cons c cs ih =>
      rcases ih with ⟨before, after, rfl, absent⟩ | absent
      · exact Or.inl ⟨c :: before, after, rfl, absent⟩
      · by_cases same : separator = c
        · subst same
          exact Or.inl ⟨[], cs, rfl, absent⟩
        · exact Or.inr fun member => (List.mem_cons.mp member).elim same absent

end Text

namespace TypeExpr

/-! ## White space and names -/

/-- A run of white space. -/
def IsBlankRun (cs : List Char) : Prop :=
  ∀ c ∈ cs, Text.isBlank c = true

instance (cs : List Char) : Decidable (IsBlankRun cs) :=
  decidable_of_iff (cs.all Text.isBlank = true) List.all_eq_true

/-- The codes of white space. -/
def blankCodes : List Nat :=
  [(0x9, 0xd), (0x1c, 0x20), (0x85, 0x85), (0xa0, 0xa0), (0x1680, 0x1680), (0x2000, 0x200a),
    (0x2028, 0x2029), (0x202f, 0x202f), (0x205f, 0x205f), (0x3000, 0x3000)].flatMap
    fun range => List.range' range.1 (range.2 + 1 - range.1)

theorem mem_blankCodes {c : Char} (blank : Text.isBlank c = true) : c.toNat ∈ blankCodes := by
  rcases List.any_eq_true.mp blank with ⟨range, member, inside⟩
  rw [Bool.and_eq_true, decide_eq_true_iff, decide_eq_true_iff] at inside
  refine List.mem_flatMap.mpr ⟨range, member, List.mem_range'_1.mpr ⟨inside.1, ?_⟩⟩
  omega

/-- A code in intervals that all end before others begin, or begin after them, is in none of the
others. -/
theorem inRanges_eq_false_of_apart {ranges others : List (Nat × Nat)} {code : Nat}
    (apart : (others.all fun other => ranges.all fun range =>
      Nat.blt range.2 other.1 || Nat.blt other.2 range.1) = true)
    (inside : Text.inRanges ranges code = true) : Text.inRanges others code = false := by
  rcases List.any_eq_true.mp inside with ⟨range, member, here⟩
  refine List.any_eq_false.mpr fun other among there => ?_
  have disjoint := List.all_eq_true.mp (List.all_eq_true.mp apart other among) range member
  rw [Bool.or_eq_true_iff, Nat.blt_eq, Nat.blt_eq] at disjoint
  rw [Bool.and_eq_true, decide_eq_true_iff, decide_eq_true_iff] at here there
  omega

theorem isAlphanumeric_of_isBlank {c : Char} (blank : Text.isBlank c = true) :
    Text.isAlphanumeric c = false := by
  unfold Text.isAlphanumeric
  split
  · rename_i small
    have each : ∀ code ∈ blankCodes, code < 0x80 → (Char.ofNat code).isAlphanum = false := by
      decide +kernel
    have here := each c.toNat (mem_blankCodes blank) small
    rwa [Char.ofNat_toNat] at here
  · exact inRanges_eq_false_of_apart (by decide +kernel) blank

/-- White space is no part of a name. -/
theorem isNameChar_of_isBlank {c : Char} (blank : Text.isBlank c = true) :
    isNameChar c = false := by
  have mark : ∀ other : Char, Text.isBlank other = false → (c == other) = false := by
    rintro other solid
    refine beq_eq_false_iff_ne.mpr ?_
    rintro rfl
    rw [blank] at solid
    cases solid
  rw [isNameChar, isAlphanumeric_of_isBlank blank, mark '_' (by decide), mark '.' (by decide)]
  rfl

theorem isBlank_of_isNameChar {c : Char} (named : isNameChar c = true) :
    Text.isBlank c = false := by
  apply Bool.eq_false_iff.mpr
  intro blank
  exact Bool.eq_false_iff.mp (isNameChar_of_isBlank blank) named

/-- A text behind white space that begins with something else. -/
theorem skipBlanks_append {blanks cs : List Char} {c : Char} (blank : IsBlankRun blanks)
    (solid : Text.isBlank c = false) : skipBlanks (blanks ++ c :: cs) = c :: cs := by
  rw [skipBlanks, List.dropWhile_append_of_pos blank,
    List.dropWhile_cons_of_neg (Bool.eq_false_iff.mp solid)]

theorem skipBlanks_of_blank {blanks : List Char} (blank : IsBlankRun blanks) :
    skipBlanks blanks = [] :=
  List.dropWhile_eq_nil_iff.mpr blank

/-- A text is the white space at its start and what comes after it. -/
theorem exists_blanks (source : List Char) :
    ∃ blanks, IsBlankRun blanks ∧ source = blanks ++ skipBlanks source :=
  ⟨source.takeWhile Text.isBlank, fun _ member => List.mem_takeWhile_imp member,
    List.takeWhile_append_dropWhile.symm⟩

/-! ## Derivations -/

/-- The mark in front of the key type of a map. -/
def mapMark : List Char := ['m', 'a', 'p', '[']

/-- A name in front of a text: a longest run of its characters that begins no
mark.  The marks of a map and of the type of anything are tried first, and would
be read in its place. -/
structure IsNameBefore (name rest : List Char) : Prop where
  nonempty : name ≠ []
  chars : ∀ c ∈ name, isNameChar c = true
  longest : ∀ c ∈ rest.head?, isNameChar c = false
  noMap : ¬mapMark <+: name ++ rest
  noAny : ¬anyMarkText.toList <+: name ++ rest

theorem isNameBefore_iff {name rest : List Char} :
    name ≠ [] ∧ name.all isNameChar = true ∧ rest.head?.any isNameChar = false ∧
      ¬mapMark <+: name ++ rest ∧ ¬anyMarkText.toList <+: name ++ rest ↔
        IsNameBefore name rest := by
  rw [List.all_eq_true, Option.any_eq_false]
  constructor
  · rintro ⟨nonempty, chars, longest, noMap, noAny⟩
    exact ⟨nonempty, chars, longest, noMap, noAny⟩
  · rintro ⟨nonempty, chars, longest, noMap, noAny⟩
    exact ⟨nonempty, chars, longest, noMap, noAny⟩

instance (name rest : List Char) : Decidable (IsNameBefore name rest) :=
  decidable_of_iff _ isNameBefore_iff

mutual

/-- A text begins with a derivation of a type, and what comes after it is left.
The rest is part of the relation, because where a name ends depends on what
comes next. -/
inductive Derives : TypeExpr → List Char → List Char → Prop where
  | pointer {elem : TypeExpr} {blanks source rest : List Char} (blank : IsBlankRun blanks)
      (inner : Derives elem source rest) :
      Derives (.pointer elem) (blanks ++ '*' :: source) rest
  | sequence {elem : TypeExpr} {blanks source rest : List Char} (blank : IsBlankRun blanks)
      (inner : Derives elem source rest) :
      Derives (.sequence elem) (blanks ++ '[' :: ']' :: source) rest
  | mapping {key value : TypeExpr} {blanks gap source after rest : List Char}
      (blank : IsBlankRun blanks) (first : Derives key source (gap ++ ']' :: after))
      (gapBlank : IsBlankRun gap) (second : Derives value after rest) :
      Derives (.mapping key value) (blanks ++ (mapMark ++ source)) rest
  | any {blanks rest : List Char} (blank : IsBlankRun blanks) :
      Derives (.named anyMarkText "") (blanks ++ (anyMarkText.toList ++ rest)) rest
  /-- A name without a package. -/
  | plain {name blanks rest : List Char} (blank : IsBlankRun blanks)
      (named : IsNameBefore name rest) (pointless : '.' ∉ name) :
      Derives (.named (String.ofList name) "") (blanks ++ (name ++ rest)) rest
  /-- A name with the package in front of its last point. -/
  | qualified {package name blanks rest : List Char} (blank : IsBlankRun blanks)
      (named : IsNameBefore (package ++ '.' :: name) rest) (pointless : '.' ∉ name) :
      Derives (.named (String.ofList name) (String.ofList package))
        (blanks ++ (package ++ '.' :: name ++ rest)) rest
  | generic {args : List TypeExpr} {name blanks gap source rest : List Char}
      (blank : IsBlankRun blanks) (named : IsNameBefore name (gap ++ '[' :: source))
      (gapBlank : IsBlankRun gap) (inner : DerivesArgs args source rest) :
      Derives (.generic (String.ofList name) args) (blanks ++ (name ++ (gap ++ '[' :: source))) rest

/-- A text begins with the arguments of a generic type and their closing
bracket.  There is at least one argument, and no comma in front of the
bracket. -/
inductive DerivesArgs : List TypeExpr → List Char → List Char → Prop where
  | last {arg : TypeExpr} {gap source rest : List Char}
      (own : Derives arg source (gap ++ ']' :: rest)) (gapBlank : IsBlankRun gap) :
      DerivesArgs [arg] source rest
  | more {arg : TypeExpr} {args : List TypeExpr} {gap source after rest : List Char}
      (own : Derives arg source (gap ++ ',' :: after)) (gapBlank : IsBlankRun gap)
      (others : DerivesArgs args after rest) :
      DerivesArgs (arg :: args) source rest

end

/-- A text is a notation of a type: a derivation of it with white space behind
it.  Nothing but white space may be left of the text behind the type. -/
def IsNotation (type : TypeExpr) (text : String) : Prop :=
  ∃ trailing, IsBlankRun trailing ∧ Derives type text.toList trailing

/-! ## Names -/

theorem ofName_of_pointless {name : List Char} (pointless : '.' ∉ name) :
    ofName name = named (String.ofList name) "" := by
  rw [ofName, Text.breakAtLast?_of_not_mem pointless]

theorem ofName_of_point {package name : List Char} (pointless : '.' ∉ name) :
    ofName (package ++ '.' :: name) = named (String.ofList name) (String.ofList package) := by
  rw [ofName, Text.breakAtLast?_append pointless]

/-- A name in front of a text is a derivation of the type that it names. -/
theorem derives_ofName {name blanks rest : List Char} (blank : IsBlankRun blanks)
    (named : IsNameBefore name rest) : Derives (ofName name) (blanks ++ (name ++ rest)) rest := by
  rcases Text.exists_last_or_not_mem '.' name with ⟨package, last, rfl, pointless⟩ | pointless
  · rw [ofName_of_point pointless]
    exact .qualified blank named pointless
  · rw [ofName_of_pointless pointless]
    exact .plain blank named pointless

namespace IsNameBefore

variable {name rest : List Char}

theorem takeWhile_eq (named : IsNameBefore name rest) :
    (name ++ rest).takeWhile isNameChar = name := by
  have stop : rest.takeWhile isNameChar = [] := by
    cases rest with
    | nil => rfl
    | cons c rest => exact List.takeWhile_cons_of_neg (Bool.eq_false_iff.mp (named.longest c rfl))
  rw [List.takeWhile_append_of_pos named.chars, stop, List.append_nil]

theorem dropWhile_eq (named : IsNameBefore name rest) :
    (name ++ rest).dropWhile isNameChar = rest := by
  have stop : rest.dropWhile isNameChar = rest := by
    cases rest with
    | nil => rfl
    | cons c rest => exact List.dropWhile_cons_of_neg (Bool.eq_false_iff.mp (named.longest c rfl))
  rw [List.dropWhile_append_of_pos named.chars, stop]

theorem skipBlanks_eq (named : IsNameBefore name rest) {blanks : List Char}
    (blank : IsBlankRun blanks) : skipBlanks (blanks ++ (name ++ rest)) = name ++ rest := by
  cases name with
  | nil => exact absurd rfl named.nonempty
  | cons c name =>
      exact skipBlanks_append blank (isBlank_of_isNameChar (named.chars c List.mem_cons_self))

/-- A name begins with no mark that begins with a character of another kind. -/
theorem afterLeading?_eq_none (named : IsNameBefore name rest) {c : Char} {mark : List Char}
    (other : isNameChar c = false) : Text.afterLeading? (c :: mark) (name ++ rest) = none := by
  cases name with
  | nil => exact absurd rfl named.nonempty
  | cons d name =>
      have different : c ≠ d := by
        rintro rfl
        exact Bool.eq_false_iff.mp other (named.chars c List.mem_cons_self)
      rw [List.cons_append, Text.afterLeading?, if_neg different]

end IsNameBefore

end TypeExpr

end WireSchema
