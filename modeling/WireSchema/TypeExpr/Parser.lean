import WireSchema.TypeExpr.Basic
import WireSchema.Text.Cut

namespace WireSchema.TypeExpr

/-!
Reading the notation of types.

White space may stand before every type and around the punctuation of a generic type, but not
inside the marks `*`, `[]`, `map[` and the one of the type of all values.  The marks are tried in
this order before a name is read, so a name never begins where a mark does.  A name is a longest
run of letters and digits of any script, underscores and points; without arguments its last point
separates the package.  Every reader returns a rest that is shorter than what it was given, which
is why reading ends on every text.
-/

/-- Why a text is no type, with the position where the reader stopped. -/
inductive ParseFault where
  /-- A closing bracket was expected. -/
  | bracket (position : Nat)
  /-- A name was expected. -/
  | name (position : Nat)
  /-- Something follows a complete type. -/
  | trailing
deriving DecidableEq, Repr

/-- The mark of the type of all values. -/
def anyMarkText : String := "interface\x7b\x7d"

theorem anyMarkText_ne_nil : anyMarkText.toList ≠ [] := by decide

def isNameChar (c : Char) : Bool :=
  Text.isAlphanumeric c || c == '_' || c == '.'

/-- A text without the white space at its start. -/
def skipBlanks (cs : List Char) : List Char :=
  cs.dropWhile Text.isBlank

/-- A name without arguments: its last point separates the package from the
name.  A package may hold points itself, as the parts of a path do. -/
def ofName (cs : List Char) : TypeExpr :=
  match Text.breakAtLast? '.' cs with
  | some (package, name) => named (String.ofList name) (String.ofList package)
  | none => named (String.ofList cs) ""

/-- A value read from a text, and the rest of it.  Every reader takes at least
one character, and carries the proof of it to the calls that read on. -/
structure Parsed (α : Type) (source : List Char) where
  value : α
  rest : List Char
  shorter : rest.length < source.length

theorem length_skipBlanks_le (cs : List Char) : (skipBlanks cs).length ≤ cs.length := by
  unfold skipBlanks
  exact (List.dropWhile_suffix _).length_le

theorem length_of_afterLeading? {mark cs rest : List Char}
    (h : Text.afterLeading? mark cs = some rest) : rest.length + mark.length = cs.length := by
  rw [Text.afterLeading?_eq_some_iff] at h
  simp [h, Nat.add_comm]

theorem length_dropWhile_lt {p : Char → Bool} {cs : List Char} (h : cs.takeWhile p ≠ []) :
    (cs.dropWhile p).length < cs.length := by
  have total : (cs.takeWhile p).length + (cs.dropWhile p).length = cs.length := by
    rw [← List.length_append, List.takeWhile_append_dropWhile]
  have := List.length_pos_iff.mpr h
  omega

/-- Reading a mark shortens a text. -/
theorem length_lt_of_mark {mark source rest : List Char} (nonempty : mark ≠ [])
    (marked : Text.afterLeading? mark (skipBlanks source) = some rest) :
    rest.length < source.length := by
  have := List.length_pos_iff.mpr nonempty
  have := length_skipBlanks_le source
  have := length_of_afterLeading? marked
  omega

/-- Reading a punctuation mark shortens a text. -/
theorem length_lt_of_skip {c : Char} {source rest : List Char}
    (opened : skipBlanks source = c :: rest) : rest.length < source.length := by
  have := length_skipBlanks_le source
  rw [opened, List.length_cons] at this
  omega

/-- Reading a name shortens a text. -/
theorem length_lt_of_name {source : List Char}
    (nonempty : (skipBlanks source).takeWhile isNameChar ≠ []) :
    ((skipBlanks source).dropWhile isNameChar).length < source.length :=
  Nat.lt_of_lt_of_le (length_dropWhile_lt nonempty) (length_skipBlanks_le source)

mutual

/-- Reads a type.  Positions in faults are lengths of the text still to read. -/
def readExpr (source : List Char) : Except ParseFault (Parsed TypeExpr source) :=
  match pointerMark : Text.afterLeading? ['*'] (skipBlanks source) with
  | some inner =>
      have left : inner.length < source.length :=
        length_lt_of_mark (List.cons_ne_nil _ _) pointerMark
      match readExpr inner with
      | .ok elem => .ok ⟨pointer elem.value, elem.rest, Nat.lt_trans elem.shorter left⟩
      | .error fault => .error fault
  | none =>
  match sequenceMark : Text.afterLeading? ['[', ']'] (skipBlanks source) with
  | some inner =>
      have left : inner.length < source.length :=
        length_lt_of_mark (List.cons_ne_nil _ _) sequenceMark
      match readExpr inner with
      | .ok elem => .ok ⟨sequence elem.value, elem.rest, Nat.lt_trans elem.shorter left⟩
      | .error fault => .error fault
  | none =>
  match mapMark : Text.afterLeading? ['m', 'a', 'p', '['] (skipBlanks source) with
  | some inner =>
      have left : inner.length < source.length :=
        length_lt_of_mark (List.cons_ne_nil _ _) mapMark
      match readExpr inner with
      | .error fault => .error fault
      | .ok key =>
          match closing : skipBlanks key.rest with
          | ']' :: afterKey =>
              have leftAfterKey : afterKey.length < source.length :=
                Nat.lt_trans (length_lt_of_skip closing) (Nat.lt_trans key.shorter left)
              match readExpr afterKey with
              | .ok value =>
                  .ok ⟨mapping key.value value.value, value.rest,
                    Nat.lt_trans value.shorter leftAfterKey⟩
              | .error fault => .error fault
          | rest => .error (.bracket rest.length)
  | none =>
  match anyMark : Text.afterLeading? anyMarkText.toList (skipBlanks source) with
  | some rest =>
      .ok ⟨named anyMarkText "", rest, length_lt_of_mark anyMarkText_ne_nil anyMark⟩
  | none =>
      if nonempty : (skipBlanks source).takeWhile isNameChar = [] then
        .error (.name (skipBlanks source).length)
      else
        have left := length_lt_of_name nonempty
        match opening : skipBlanks ((skipBlanks source).dropWhile isNameChar) with
        | '[' :: inner =>
            have leftInner : inner.length < source.length :=
              Nat.lt_trans (length_lt_of_skip opening) left
            match readArgs inner with
            | .ok args =>
                let name := String.ofList ((skipBlanks source).takeWhile isNameChar)
                .ok ⟨generic name args.value, args.rest, Nat.lt_trans args.shorter leftInner⟩
            | .error fault => .error fault
        | _ =>
            .ok ⟨ofName ((skipBlanks source).takeWhile isNameChar),
              (skipBlanks source).dropWhile isNameChar, left⟩
termination_by (source.length, 0)
decreasing_by all_goals exact Prod.Lex.left _ _ (by assumption)

/-- Reads the arguments of a generic type, up to its closing bracket. -/
def readArgs (source : List Char) : Except ParseFault (Parsed (List TypeExpr) source) :=
  match readExpr source with
  | .error fault => .error fault
  | .ok first =>
      match punctuation : skipBlanks first.rest with
      | ',' :: inner =>
          have left : inner.length < source.length :=
            Nat.lt_trans (length_lt_of_skip punctuation) first.shorter
          match readArgs inner with
          | .ok others =>
              .ok ⟨first.value :: others.value, others.rest, Nat.lt_trans others.shorter left⟩
          | .error fault => .error fault
      | ']' :: rest =>
          .ok ⟨[first.value], rest,
            Nat.lt_trans (length_lt_of_skip punctuation) first.shorter⟩
      | rest => .error (.bracket rest.length)
termination_by (source.length, 1)
decreasing_by
  · exact Prod.Lex.right _ Nat.zero_lt_one
  · exact Prod.Lex.left _ _ left

end

/-- Turns the length of what is left into the position reached. -/
def ParseFault.inText (length : Nat) : ParseFault → ParseFault
  | .bracket remaining => .bracket (length - remaining)
  | .name remaining => .name (length - remaining)
  | .trailing => .trailing

def parse (text : String) : Except ParseFault TypeExpr :=
  match readExpr text.toList with
  | .error fault => .error (fault.inText text.toList.length)
  | .ok parsed =>
      if (skipBlanks parsed.rest).isEmpty then .ok parsed.value else .error .trailing

end WireSchema.TypeExpr
