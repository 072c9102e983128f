import WireSchema.Proofs.TypeExpr.Grammar
import WireSchema.Text.Cut

namespace WireSchema.Text

/-!
# Segments of a text

A text is cut into segments at a separator.  Where two texts meet, the last segment of the one and
the first segment of the other become one, and a separator between them keeps them apart.  A text is
broken at a mark that does not begin earlier, and trimmed at its own ends on both sides of a
character that is kept.

When a mark that does not hold the separator is replaced, each segment stays what it is or takes in
something of what stands for the mark.  So if each segment put in has a character of some kind, each
segment of the result is an old one or has such a character too.
-/

variable {separator : Char} {mark replacement cs first : List Char} {others : List (List Char)}

/-! ## Cutting texts that meet -/

theorem exists_splitAtEach (separator : Char) (cs : List Char) :
    ∃ first others, splitAtEach separator cs = first :: others :=
  List.exists_cons_of_ne_nil (splitAtEach_ne_nil separator cs)

theorem splitAtEach_cons (c : Char)
    (split : splitAtEach separator cs = first :: others) :
    splitAtEach separator (c :: cs) =
      if c = separator then [] :: first :: others else (c :: first) :: others := by
  rw [splitAtEach, split]

/-- Where a text is followed by another one, its last segment goes on with the first one of that. -/
theorem exists_splitAtEach_append (separator : Char) (cs : List Char) :
    ∃ before last, splitAtEach separator cs = before ++ [last] ∧
      ∀ further first others, splitAtEach separator further = first :: others →
        splitAtEach separator (cs ++ further) = before ++ (last ++ first) :: others := by
  induction cs with
  | nil => exact ⟨[], [], rfl, fun _ _ _ split => split⟩
  | cons c cs ih =>
      rcases ih with ⟨before, last, own, meets⟩
      by_cases same : c = separator
      · refine ⟨[] :: before, last, ?_, fun further first others split => ?_⟩
        · rw [splitAtEach, if_pos same, own, List.cons_append]
        · rw [List.cons_append, splitAtEach, if_pos same, meets further first others split,
            List.cons_append]
      · cases before with
        | nil =>
            refine ⟨[], c :: last, ?_, fun further first others split => ?_⟩
            · rw [splitAtEach_cons c own, if_neg same, List.nil_append]
            · rw [List.cons_append, splitAtEach_cons c (meets further first others split),
                if_neg same]
              rfl
        | cons part before =>
            refine ⟨(c :: part) :: before, last, ?_, fun further first others split => ?_⟩
            · rw [List.cons_append] at own
              rw [splitAtEach_cons c own, if_neg same, List.cons_append]
            · rw [List.cons_append, splitAtEach_cons c (meets further first others split),
                if_neg same]
              rfl

theorem splitAtEach_of_notMem (absent : separator ∉ cs) : splitAtEach separator cs = [cs] := by
  induction cs with
  | nil => rfl
  | cons c cs ih =>
      rw [List.mem_cons, not_or] at absent
      rw [splitAtEach_cons c (ih absent.2), if_neg (Ne.symm absent.1)]

/-- A text without the separator becomes a part of the first segment of what follows it. -/
theorem splitAtEach_append_of_notMem
    (absent : separator ∉ mark) (split : splitAtEach separator cs = first :: others) :
    splitAtEach separator (mark ++ cs) = (mark ++ first) :: others := by
  rcases exists_splitAtEach_append separator mark with ⟨before, last, own, meets⟩
  rw [splitAtEach_of_notMem absent] at own
  rcases List.append_eq_singleton_iff.mp own.symm with ⟨rfl, same⟩ | ⟨-, impossible⟩
  · cases same
    exact meets cs first others split
  · cases impossible

/-- A separator between two texts keeps their segments apart. -/
theorem splitAtEach_append_cons (separator : Char) (front cs : List Char) :
    splitAtEach separator (front ++ separator :: cs) =
      splitAtEach separator front ++ splitAtEach separator cs := by
  rcases exists_splitAtEach_append separator front with ⟨before, last, own, meets⟩
  have begun : splitAtEach separator (separator :: cs) = [] :: splitAtEach separator cs := by
    rw [splitAtEach, if_pos rfl]
  rw [meets _ _ _ begun, own, List.append_nil, List.append_assoc, List.singleton_append]

/-! ## Breaking at a mark -/

section Breaking

variable {m : Char} {front rest : List Char}

theorem breakAt?_of_notMem (absent : m ∉ cs) : breakAt? (m :: mark) cs = none := by
  induction cs with
  | nil => rfl
  | cons c cs ih =>
      rw [List.mem_cons, not_or] at absent
      rw [breakAt?, afterLeading?, if_neg absent.1, ih absent.2]
      rfl

/-- A text is broken at a mark that does not begin earlier. -/
theorem breakAt?_append (absent : m ∉ front) :
    breakAt? (m :: mark) (front ++ (m :: mark) ++ rest) = some (front, rest) := by
  induction front with
  | nil =>
      have found : afterLeading? (m :: mark) (m :: (mark ++ rest)) = some rest :=
        afterLeading?_eq_some_iff.mpr rfl
      rw [List.nil_append, List.cons_append, breakAt?, found]
  | cons c front ih =>
      rw [List.mem_cons, not_or] at absent
      rw [List.cons_append, List.cons_append, breakAt?, afterLeading?, if_neg absent.1, ih absent.2]
      rfl

end Breaking

/-! ## Trimming -/

section Trimming

variable {drop : Char → Bool} {dropped : List Char}

/-- Dropping stops at a character that is kept. -/
theorem dropWhile_append_cons {c : Char} (kept : drop c = false) (front rest : List Char) :
    (front ++ c :: rest).dropWhile drop = front.dropWhile drop ++ c :: rest := by
  rw [List.dropWhile_append, List.dropWhile_cons_of_neg (Bool.eq_false_iff.mp kept)]
  split
  · rename_i none
    rw [List.isEmpty_iff.mp none, List.nil_append]
  · rfl

/-- A text that begins and ends with characters that are kept is kept as a whole. -/
theorem trimWhile_of_ends {cs : List Char}
    (first : ∀ c ∈ cs.head?, drop c = false) (last : ∀ c ∈ cs.getLast?, drop c = false) :
    trimWhile drop cs = cs := by
  have kept : ∀ {items : List Char}, (∀ c ∈ items.head?, drop c = false) →
      items.dropWhile drop = items := by
    intro items begins
    cases items with
    | nil => rfl
    | cons c items => exact List.dropWhile_cons_of_neg (Bool.eq_false_iff.mp (begins c rfl))
  rw [trimWhile, kept first, kept (by rwa [List.head?_reverse]), List.reverse_reverse]

theorem trimWhile_between {first last : Char} (kept : drop first = false)
    (keptLast : drop last = false) (cs : List Char) :
    trimWhile drop (first :: (cs ++ [last])) = first :: (cs ++ [last]) := by
  apply trimWhile_of_ends
  · rintro c ⟨⟩
    exact kept
  · intro c member
    rw [← List.cons_append, List.getLast?_concat] at member
    cases member
    exact keptLast

/-- On both sides of a character that is kept, a text is trimmed at its own end. -/
theorem trimWhile_append_cons {c : Char} (kept : drop c = false) (front rest : List Char) :
    trimWhile drop (front ++ c :: rest) = front.dropWhile drop ++ c :: trimEndWhile drop rest := by
  rw [trimWhile, dropWhile_append_cons kept, List.reverse_append, List.reverse_cons,
    List.append_assoc, List.singleton_append, dropWhile_append_cons kept, List.reverse_append,
    List.reverse_cons, List.reverse_reverse, List.append_assoc, List.singleton_append]
  rfl

theorem trimWhile_dropped_append (each : ∀ c ∈ dropped, drop c = true) (cs : List Char) :
    trimWhile drop (dropped ++ cs) = trimWhile drop cs := by
  rw [trimWhile, List.dropWhile_append_of_pos each]
  rfl

theorem trimEndWhile_append_dropped (each : ∀ c ∈ dropped, drop c = true) (cs : List Char) :
    trimEndWhile drop (cs ++ dropped) = trimEndWhile drop cs := by
  rw [trimEndWhile, List.reverse_append,
    List.dropWhile_append_of_pos fun c member => each c (List.mem_reverse.mp member)]
  rfl

theorem trimWhile_append_dropped (each : ∀ c ∈ dropped, drop c = true) (cs : List Char) :
    trimWhile drop (cs ++ dropped) = trimWhile drop cs := by
  change trimEndWhile drop ((cs ++ dropped).dropWhile drop) = trimEndWhile drop (cs.dropWhile drop)
  rw [List.dropWhile_append]
  split
  · rename_i none
    rw [List.isEmpty_iff.mp none, List.dropWhile_eq_nil_iff.mpr each]
  · exact trimEndWhile_append_dropped each _

/-- A text is what is dropped at its end, behind what is left. -/
theorem exists_eq_trimEndWhile_append (drop : Char → Bool) (cs : List Char) :
    ∃ dropped, (∀ c ∈ dropped, drop c = true) ∧ cs = trimEndWhile drop cs ++ dropped := by
  refine ⟨(cs.reverse.takeWhile drop).reverse,
    fun c member => List.mem_takeWhile_imp (List.mem_reverse.mp member), ?_⟩
  rw [trimEndWhile, ← List.reverse_append, List.takeWhile_append_dropWhile, List.reverse_reverse]

theorem trimWhile_dropWhile (drop : Char → Bool) (cs : List Char) :
    trimWhile drop (cs.dropWhile drop) = trimWhile drop cs := by
  have each : ∀ c ∈ cs.takeWhile drop, drop c = true := fun _ => List.mem_takeWhile_imp
  have same := trimWhile_dropped_append each (cs.dropWhile drop)
  rw [List.takeWhile_append_dropWhile] at same
  exact same.symm

theorem trimWhile_trimEndWhile (drop : Char → Bool) (cs : List Char) :
    trimWhile drop (trimEndWhile drop cs) = trimWhile drop cs := by
  rcases exists_eq_trimEndWhile_append drop cs with ⟨dropped, each, whole⟩
  have same := trimWhile_append_dropped each (trimEndWhile drop cs)
  rw [← whole] at same
  exact same.symm

/-- A text is what is left of it between what is dropped at its ends. -/
theorem exists_eq_append_trimWhile_append (drop : Char → Bool) (cs : List Char) :
    ∃ before after, (∀ c ∈ before, drop c = true) ∧ (∀ c ∈ after, drop c = true) ∧
      cs = before ++ (trimWhile drop cs ++ after) := by
  rcases exists_eq_trimEndWhile_append drop (cs.dropWhile drop) with ⟨after, blank, whole⟩
  refine ⟨cs.takeWhile drop, after, fun c => List.mem_takeWhile_imp, blank, ?_⟩
  have parts : cs = cs.takeWhile drop ++ cs.dropWhile drop := List.takeWhile_append_dropWhile.symm
  rw [whole] at parts
  exact parts

end Trimming

/-! ## Replacing -/

/-- A text and what becomes of it when some occurrences of a mark are replaced.
Which ones are is left open: the invariants that are drawn from it hold for any
choice. -/
inductive Replaces (mark replacement : List Char) : List Char → List Char → Prop where
  | nil : Replaces mark replacement [] []
  | keep (c : Char) {cs made : List Char} (rest : Replaces mark replacement cs made) :
      Replaces mark replacement (c :: cs) (c :: made)
  | swap {cs made : List Char} (rest : Replaces mark replacement cs made) :
      Replaces mark replacement (mark ++ cs) (replacement ++ made)

theorem replaceFrom_eq_drop (skip : Nat) (cs : List Char) :
    replaceFrom mark replacement skip cs = replaceFrom mark replacement 0 (cs.drop skip) := by
  induction skip generalizing cs with
  | zero => rfl
  | succ skip ih =>
      cases cs with
      | nil => rfl
      | cons c cs => rw [replaceFrom, ih, List.drop_succ_cons]

theorem replaces_replaceFrom (given : mark ≠ []) (cs : List Char) :
    Replaces mark replacement cs (replaceFrom mark replacement 0 cs) := by
  -- A mark is skipped as a whole, so what follows it need not be the rest of the list.
  induction size : cs.length using Nat.strongRecOn generalizing cs with
  | ind length ih =>
      subst size
      cases cs with
      | nil => exact .nil
      | cons c cs =>
          rw [replaceFrom]
          split
          · rename_i marked
            rcases Option.isSome_iff_exists.mp marked with ⟨rest, found⟩
            have whole := afterLeading?_eq_some_iff.mp found
            rcases List.exists_cons_of_ne_nil given with ⟨m, others, rfl⟩
            rw [List.cons_append, List.cons.injEq] at whole
            rcases whole with ⟨rfl, rfl⟩
            rw [replaceFrom_eq_drop, List.length_cons, Nat.add_sub_cancel, List.drop_left]
            have shorter : rest.length < (c :: (others ++ rest)).length := by
              rw [List.length_cons, List.length_append]
              omega
            exact .swap (ih _ shorter rest rfl)
          · exact .keep c (ih _ (Nat.lt_succ_self _) cs rfl)

/-! ## Segments of what has been replaced -/

/-- A segment with a character of a kind. -/
def HasKind (kind : Char → Prop) (part : List Char) : Prop :=
  ∃ c ∈ part, kind c

theorem HasKind.of_subset {kind : Char → Prop} {part whole : List Char}
    (has : HasKind kind part) (subset : part ⊆ whole) : HasKind kind whole := by
  rcases has with ⟨c, member, own⟩
  exact ⟨c, subset member, own⟩

/-- Segments that are those of another text, but for new ones with a character of a kind: the first
one corresponds to the first one, and none is missing unless there is a new one. -/
structure AreReshaped (kind : Char → Prop) (first : List Char) (others : List (List Char))
    (start : List Char) (further : List (List Char)) : Prop where
  head : start = first ∨ HasKind kind start
  rest : ∀ part ∈ further, part ∈ others ∨ HasKind kind part
  kept : ∀ part ∈ others, part ∈ further ∨ ∃ other ∈ start :: further, HasKind kind other

namespace AreReshaped

variable {kind : Char → Prop} {start : List Char} {further : List (List Char)}

/-- A character in front of both texts. -/
theorem cons (reshaped : AreReshaped kind first others start further) (c : Char) :
    AreReshaped kind (c :: first) others (c :: start) further := by
  refine ⟨?_, reshaped.rest, fun part member => ?_⟩
  · rcases reshaped.head with rfl | new
    · exact Or.inl rfl
    · exact Or.inr (new.of_subset (List.subset_cons_self c start))
  · rcases reshaped.kept part member with still | ⟨other, among, new⟩
    · exact Or.inl still
    · rcases List.mem_cons.mp among with rfl | later
      · exact Or.inr ⟨_, List.mem_cons_self, new.of_subset (List.subset_cons_self c other)⟩
      · exact Or.inr ⟨other, List.mem_cons_of_mem _ later, new⟩

/-- A separator in front of both texts. -/
theorem separate (reshaped : AreReshaped kind first others start further) :
    AreReshaped kind [] (first :: others) [] (start :: further) := by
  refine ⟨Or.inl rfl, fun part member => ?_, fun part member => ?_⟩
  · rcases List.mem_cons.mp member with rfl | later
    · rcases reshaped.head with rfl | new
      · exact Or.inl List.mem_cons_self
      · exact Or.inr new
    · exact (reshaped.rest part later).imp (List.mem_cons_of_mem _) id
  · rcases List.mem_cons.mp member with rfl | later
    · rcases reshaped.head with same | new
      · exact Or.inl (same ▸ List.mem_cons_self)
      · exact Or.inr ⟨start, List.mem_cons_of_mem _ List.mem_cons_self, new⟩
    · rcases reshaped.kept part later with still | ⟨other, among, new⟩
      · exact Or.inl (List.mem_cons_of_mem _ still)
      · exact Or.inr ⟨other, List.mem_cons_of_mem _ among, new⟩

/-- Segments put in front, of which the last one goes on with the first one. -/
theorem put {before : List (List Char)} {last front : List Char}
    (reshaped : AreReshaped kind first others start further)
    (each : ∀ part ∈ before ++ [last], HasKind kind part) :
    ∃ head rest, before ++ (last ++ start) :: further = head :: rest ∧
      AreReshaped kind (front ++ first) others head rest := by
  have joined : HasKind kind (last ++ start) :=
    (each last (List.mem_append_right _ List.mem_cons_self)).of_subset
      (List.subset_append_left last start)
  cases before with
  | nil =>
      exact ⟨_, _, rfl, Or.inr joined, reshaped.rest,
        fun _ _ => Or.inr ⟨_, List.mem_cons_self, joined⟩⟩
  | cons part before =>
      have own := each part List.mem_cons_self
      refine ⟨part, _, rfl, Or.inr own, fun other member => ?_,
        fun _ _ => Or.inr ⟨_, List.mem_cons_self, own⟩⟩
      rcases List.mem_append.mp member with early | late
      · exact Or.inr (each other (List.mem_cons_of_mem _ (List.mem_append_left _ early)))
      · rcases List.mem_cons.mp late with rfl | later
        · exact Or.inr joined
        · exact reshaped.rest other later

end AreReshaped

/-- When a mark without the separator is replaced by segments with characters of a kind, all new
segments have one. -/
theorem Replaces.areReshaped {kind : Char → Prop} {made : List Char} (absent : separator ∉ mark)
    (each : ∀ part ∈ splitAtEach separator replacement, HasKind kind part)
    (replaces : Replaces mark replacement cs made)
    (split : splitAtEach separator cs = first :: others) :
    ∃ start further, splitAtEach separator made = start :: further ∧
      AreReshaped kind first others start further := by
  induction replaces generalizing first others with
  | nil => exact ⟨first, others, split, Or.inl rfl, fun _ => Or.inl, fun _ => Or.inl⟩
  | @keep c cs made _ ih =>
      rcases exists_splitAtEach separator cs with ⟨part, parts, own⟩
      rcases ih own with ⟨start, further, done, reshaped⟩
      rw [splitAtEach_cons c own] at split
      rw [splitAtEach_cons c done]
      by_cases same : c = separator
      · rw [if_pos same] at split ⊢
        cases split
        exact ⟨_, _, rfl, reshaped.separate⟩
      · rw [if_neg same] at split ⊢
        cases split
        exact ⟨_, _, rfl, reshaped.cons c⟩
  | @swap cs made _ ih =>
      rcases exists_splitAtEach separator cs with ⟨part, parts, own⟩
      rcases ih own with ⟨start, further, done, reshaped⟩
      rcases exists_splitAtEach_append separator replacement with ⟨before, last, ofText, meets⟩
      rw [splitAtEach_append_of_notMem absent own] at split
      cases split
      rw [meets made start further done]
      rw [ofText] at each
      exact reshaped.put each

end WireSchema.Text
