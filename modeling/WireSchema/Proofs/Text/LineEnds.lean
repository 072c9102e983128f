import Mathlib.Data.List.Basic
import WireSchema.Text.Lines

namespace WireSchema

/-!
# Lines of a text read back

A text that is put together from pieces, each with a line feed at its end, has the lines of its
pieces, whatever line ends a piece holds itself: what ends a piece also ends its last line.  So a
long text is read one piece at a time.  A piece without a line end is a single line.
-/

namespace Text

/-- Whether no character of a text ends a line.  There are more of them than the
line feed, and a text is split at each when a module is examined. -/
def IsSingleLine (text : String) : Prop :=
  ∀ c ∈ text.toList, isLineEnd c = false

instance (text : String) : Decidable (IsSingleLine text) :=
  List.decidableBAll (fun c => isLineEnd c = false) text.toList

theorem IsSingleLine.append {first second : String} (single : IsSingleLine first)
    (other : IsSingleLine second) : IsSingleLine (first ++ second) := by
  intro c member
  rw [String.toList_append, List.mem_append] at member
  exact member.elim (single c) (other c)

/-! ## Single characters -/

theorem linesFrom_lineFeed (current rest : List Char) :
    linesFrom current ('\n' :: rest) = current.reverse :: linesFrom [] rest := rfl

/-- A character after which a line goes on is added to it. -/
theorem linesFrom_cons_of_goesOn {c : Char} (goesOn : isLineEnd c = false)
    (current rest : List Char) : linesFrom current (c :: rest) = linesFrom (c :: current) rest := by
  have noReturn : c ≠ '\r' := by
    rintro rfl
    cases goesOn
  rw [linesFrom, if_neg (by rw [goesOn]; decide)]
  rintro rest rfl
  exact absurd rfl noReturn

/-- A line end ends a line, but for a carriage return before a line feed. -/
theorem linesFrom_cons_of_ends {c : Char} {rest : List Char} (ends : isLineEnd c = true)
    (apart : ∀ behind, c = '\r' → rest ≠ '\n' :: behind) (current : List Char) :
    linesFrom current (c :: rest) = current.reverse :: linesFrom [] rest := by
  rw [linesFrom, if_pos ends]
  intro behind same
  exact apart behind same

theorem linesFrom_append_of_single {line : List Char} (single : ∀ c ∈ line, isLineEnd c = false)
    (current rest : List Char) :
    linesFrom current (line ++ rest) = linesFrom (line.reverse ++ current) rest := by
  induction line generalizing current with
  | nil => rfl
  | cons c line ih =>
      rw [List.cons_append, linesFrom_cons_of_goesOn (single c List.mem_cons_self),
        ih fun other member => single other (List.mem_cons_of_mem c member)]
      simp

/-! ## Pieces -/

/-- What stands behind a line feed is read apart from what stands before it. -/
theorem linesFrom_append (current first rest : List Char) :
    linesFrom current (first ++ '\n' :: rest) =
      linesFrom current (first ++ ['\n']) ++ linesFrom [] rest := by
  fun_induction linesFrom current first with
  | case1 current => rfl
  | case2 current => rfl
  | case3 current cs ih => simpa [linesFrom] using ih
  | case4 current c cs apart ends ih =>
      by_cases last : c = '\r' ∧ cs = []
      · rw [last.1, last.2]
        simp [linesFrom]
      · have apartBefore : ∀ further behind, c = '\r' → cs ++ '\n' :: further ≠ '\n' :: behind := by
          intro further behind returns same
          cases cs with
          | nil => exact last ⟨returns, rfl⟩
          | cons d cs => exact apart cs returns (by rw [(List.cons.inj same).1])
        rw [List.cons_append, List.cons_append,
          linesFrom_cons_of_ends ends (apartBefore rest), ih,
          linesFrom_cons_of_ends ends (apartBefore []), List.cons_append]
  | case5 current c cs apart goesOn ih =>
      have goesOn : isLineEnd c = false := by simpa using goesOn
      rw [List.cons_append, List.cons_append, linesFrom_cons_of_goesOn goesOn,
        linesFrom_cons_of_goesOn goesOn, ih]

theorem linesOf_append (first rest : String) :
    linesOf (first ++ "\n" ++ rest) = linesOf (first ++ "\n") ++ linesOf rest := by
  have whole : (first ++ "\n" ++ rest).toList = first.toList ++ '\n' :: rest.toList := by
    simp [String.toList_append]
  have piece : (first ++ "\n").toList = first.toList ++ ['\n'] := by
    simp [String.toList_append]
  rw [linesOf, linesOf, linesOf, whole, piece, linesFrom_append, List.map_append]

/-- Pieces that each end with a line feed are read one by one. -/
theorem linesOf_join (pieces : List String) :
    linesOf (String.join (pieces.map (· ++ "\n"))) =
      pieces.flatMap fun piece => linesOf (piece ++ "\n") := by
  induction pieces with
  | nil => rfl
  | cons piece pieces ih =>
      rw [List.map_cons, String.join_cons, linesOf_append, ih, List.flatMap_cons]

/-- A piece without a line end is a line. -/
theorem linesOf_of_single {text : String} (single : IsSingleLine text) :
    linesOf (text ++ "\n") = [text] := by
  have piece : (text ++ "\n").toList = text.toList ++ ['\n'] := by
    simp [String.toList_append]
  rw [linesOf, piece, linesFrom_append_of_single single, linesFrom_lineFeed]
  simp [linesFrom]

/-- The first line that is read goes on where the current one stands. -/
theorem exists_linesFrom_eq_cons {current cs : List Char} (given : current ++ cs ≠ []) :
    ∃ line others, linesFrom current cs = (current.reverse ++ line) :: others := by
  fun_induction linesFrom current cs with
  | case1 current empty =>
      rw [List.isEmpty_iff.mp empty] at given
      exact absurd rfl given
  | case2 current => exact ⟨[], [], by simp⟩
  | case3 current cs => exact ⟨[], _, by rw [List.append_nil]⟩
  | case4 current c cs => exact ⟨[], _, by rw [List.append_nil]⟩
  | case5 current c cs _ _ ih =>
      rcases ih (by simp) with ⟨line, others, read⟩
      exact ⟨c :: line, others, by rw [read]; simp⟩

/-- The first line of a piece begins like the piece. -/
theorem exists_linesOf_append {front : String} (single : IsSingleLine front) (rest : String) :
    ∃ line others, linesOf (front ++ rest ++ "\n") = (front ++ line) :: others := by
  have given : front.toList.reverse ++ (rest.toList ++ ['\n']) ≠ [] := by simp
  rcases exists_linesFrom_eq_cons given with ⟨line, others, read⟩
  have piece : (front ++ rest ++ "\n").toList = front.toList ++ (rest.toList ++ ['\n']) := by
    simp [String.toList_append]
  refine ⟨String.ofList line, others.map String.ofList, ?_⟩
  rw [linesOf, piece, linesFrom_append_of_single single, List.append_nil, read]
  simp [String.ofList_append]

/-! ## Blanks at the ends of a line -/

/-- Trimming leaves the front of a text alone that begins and ends with other characters. -/
theorem exists_trimWhile_append {drop : Char → Bool} {front : List Char} (given : front ≠ [])
    (first : drop (front.head given) = false) (last : drop (front.getLast given) = false)
    (rest : List Char) : ∃ tail, trimWhile drop (front ++ rest) = front ++ tail := by
  have begins : (front ++ rest).dropWhile drop = front ++ rest := by
    cases front with
    | nil => exact absurd rfl given
    | cons c inner => exact List.dropWhile_cons_of_neg (by simpa using first)
  have ends : front.reverse.dropWhile drop = front.reverse := by
    rw [← List.dropLast_append_getLast given, List.reverse_append]
    exact List.dropWhile_cons_of_neg (by simpa using last)
  rw [trimWhile, begins, List.reverse_append, List.dropWhile_append, ends]
  split
  · exact ⟨[], by rw [List.reverse_reverse, List.append_nil]⟩
  · exact ⟨(rest.reverse.dropWhile drop).reverse,
      by rw [List.reverse_append, List.reverse_reverse]⟩

/-- A text still begins with a mark after trimming when a front of it does that begins and ends with
other characters than blanks. -/
theorem startsWith_trim {text mark : String} {front rest : List Char}
    (parts : text.toList = front ++ rest) (given : front ≠ [])
    (first : isBlank (front.head given) = false) (last : isBlank (front.getLast given) = false)
    (begins : mark.toList <+: front) : startsWith (trim text) mark = true := by
  rcases exists_trimWhile_append given first last rest with ⟨tail, trimmed⟩
  rcases begins with ⟨inner, split⟩
  have read : (trim text).toList = mark.toList ++ (inner ++ tail) := by
    rw [trim, String.toList_ofList, parts, trimmed, ← split, List.append_assoc]
  rw [startsWith, afterLeading?_eq_some_iff.mpr read]
  rfl

/-- A text that begins with no blank begins with the same character after trimming. -/
theorem exists_trim_eq_cons {text : String} {c : Char} {rest : List Char}
    (begins : text.toList = c :: rest) (dark : isBlank c = false) :
    ∃ tail, (trim text).toList = c :: tail := by
  rcases exists_trimWhile_append (List.cons_ne_nil c []) dark dark rest with ⟨tail, trimmed⟩
  refine ⟨tail, ?_⟩
  rw [trim, String.toList_ofList, begins]
  exact trimmed

end Text

end WireSchema
