import WireSchema.Text.CharClass

namespace WireSchema.Text

/-!
Cutting texts.

Tags, scopes, file patterns and notations are taken apart with a few operations on lists of
characters: trimming, splitting at a separator, breaking at a mark and replacing a mark.  They are
written by recursion on the text, so that nothing is assumed about where a cut may fall.  A text
that does not hold the mark is returned whole; no operation can fail.
-/

/-! ## Trimming -/

/-- Drops the leading and the trailing characters of a class. -/
def trimWhile (drop : Char → Bool) (cs : List Char) : List Char :=
  ((cs.dropWhile drop).reverse.dropWhile drop).reverse

/-- Drops the trailing characters of a class. -/
def trimEndWhile (drop : Char → Bool) (cs : List Char) : List Char :=
  (cs.reverse.dropWhile drop).reverse

/-- A text without the white space at its ends. -/
def trim (text : String) : String :=
  String.ofList (trimWhile isBlank text.toList)

/-- A text with exactly one line feed at its end. -/
def endedOnce (text : String) : String :=
  String.ofList (trimEndWhile (· == '\n') text.toList) ++ "\n"

/-! ## Splitting -/

/-- The parts of a text between the occurrences of a separator; one part more
than separators.  The empty text has one empty part, and so have two separators
in a row between them. -/
def splitAtEach (separator : Char) : List Char → List (List Char)
  | [] => [[]]
  | c :: cs =>
      if c = separator then [] :: splitAtEach separator cs
      else
        match splitAtEach separator cs with
        | [] => [[c]]
        | part :: parts => (c :: part) :: parts

/-- What follows a leading mark. -/
def afterLeading? : List Char → List Char → Option (List Char)
  | [], cs => some cs
  | _ :: _, [] => none
  | m :: mark, c :: cs => if m = c then afterLeading? mark cs else none

/-- The parts before and after the first occurrence of a mark. -/
def breakAt? (mark : List Char) : List Char → Option (List Char × List Char)
  | [] => if mark.isEmpty then some ([], []) else none
  | c :: cs =>
      match afterLeading? mark (c :: cs) with
      | some rest => some ([], rest)
      | none => (breakAt? mark cs).map fun parts => (c :: parts.1, parts.2)

/-- Whether a mark occurs in a text. -/
def containsMark (mark cs : List Char) : Bool :=
  (breakAt? mark cs).isSome

/-- The parts before and after the last occurrence of a character. -/
def breakAtLast? (separator : Char) : List Char → Option (List Char × List Char)
  | [] => none
  | c :: cs =>
      match breakAtLast? separator cs with
      | some parts => some (c :: parts.1, parts.2)
      | none => if c = separator then some ([], cs) else none

/-- The part after the last occurrence of a character, or the whole text. -/
def afterLast (separator : Char) (text : String) : String :=
  match breakAtLast? separator text.toList with
  | some parts => String.ofList parts.2
  | none => text

/-! ## Replacing -/

/-- Replaces a mark from left to right; `skip` characters belong to a mark
already replaced.  The count makes the recursion structural, where the rest
behind a mark would not be the rest of the list. -/
def replaceFrom (mark replacement : List Char) : Nat → List Char → List Char
  | _, [] => []
  | skip + 1, _ :: cs => replaceFrom mark replacement skip cs
  | 0, c :: cs =>
      if (afterLeading? mark (c :: cs)).isSome then
        replacement ++ replaceFrom mark replacement (mark.length - 1) cs
      else c :: replaceFrom mark replacement 0 cs

/-- A text with every occurrence of a nonempty mark replaced, none overlapping another. -/
def replaceAll (mark replacement : String) (text : String) : String :=
  String.ofList (replaceFrom mark.toList replacement.toList 0 text.toList)

/-! ## Tests on whole texts -/

def startsWith (text mark : String) : Bool :=
  (afterLeading? mark.toList text.toList).isSome

def endsWith (text mark : String) : Bool :=
  (afterLeading? mark.toList.reverse text.toList.reverse).isSome

def contains (text mark : String) : Bool :=
  containsMark mark.toList text.toList

/-! ## Small laws -/

/-- A broken text is its first part, the mark and its second part. -/
theorem afterLeading?_eq_some_iff {mark cs rest : List Char} :
    afterLeading? mark cs = some rest ↔ cs = mark ++ rest := by
  induction mark generalizing cs with
  | nil => simp [afterLeading?, eq_comm]
  | cons m mark ih =>
      cases cs with
      | nil => simp [afterLeading?]
      | cons c cs =>
          by_cases same : m = c
          · simp [afterLeading?, same, ih]
          · simp [afterLeading?, same, eq_comm]

/-- Splitting never yields fewer than one part. -/
theorem splitAtEach_ne_nil (separator : Char) (cs : List Char) :
    splitAtEach separator cs ≠ [] := by
  cases cs with
  | nil => simp [splitAtEach]
  | cons c cs =>
      simp only [splitAtEach]
      split
      · simp
      · split <;> simp

end WireSchema.Text
