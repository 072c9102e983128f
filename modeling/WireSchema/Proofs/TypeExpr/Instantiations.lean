import WireSchema.Proofs.TypeExpr.Printing

namespace WireSchema.TypeExpr

/-!
# What the notation of an instantiation tells

A type that is read from a text is known by its notation, but for the nodes that printing loses.
The name of a template in front of arguments need not have been read: any text may stand there, and
there may be no arguments.  Such an instantiation is still known by its notation.  Brackets come in
pairs in the notations of types that were read, so that the last bracket of the whole is the partner
of the one in front of the arguments.  A name without an opening bracket cannot hold this partner.
-/

/-- A type that is read from some text and has no node that printing loses.  Such
types are equal when their notations are, by which instantiations are
compared. -/
structure IsWritten (type : TypeExpr) : Prop where
  parsed : ∃ text, parse text = .ok type
  faithful : IsFaithful type.nodes

/-! ## Types that are read -/

/-- A text of which a type is derived has characters. -/
theorem Derives.ne_nil {type : TypeExpr} {source rest : List Char}
    (derivation : Derives type source rest) : source ≠ [] := by
  cases derivation with
  | any blank =>
      have mark := List.append_ne_nil_of_left_ne_nil anyMarkText_ne_nil rest
      exact List.append_ne_nil_of_right_ne_nil _ mark
  | plain blank named pointless => simp [named.nonempty]
  | pointer | sequence | mapping | qualified | generic => simp [mapMark]

theorem isWritten_of_derives {type : TypeExpr} {source rest : List Char}
    (derivation : Derives type source rest) (faithful : IsFaithful type.nodes) :
    IsWritten type := by
  have nothing : IsStop [] := nofun
  have own := derives_print type derivation faithful nothing
  rw [List.append_nil] at own
  exact ⟨⟨type.print, parse_eq_ok_iff.mpr ⟨[], List.forall_mem_nil _, own⟩⟩, faithful⟩

/-- The arguments of a derivation are types that are read. -/
theorem isWritten_of_derivesArgs {args : List TypeExpr} {source rest : List Char}
    (derivation : DerivesArgs args source rest) (faithful : IsFaithful (nodesAll args)) :
    ∀ arg ∈ args, IsWritten arg := by
  induction args generalizing source with
  | nil => exact List.forall_mem_nil _
  | cons arg args ih =>
      rcases isFaithful_append.mp faithful with ⟨ofArg, ofArgs⟩
      cases derivation with
      | last own gapBlank =>
          exact List.forall_mem_singleton.mpr (isWritten_of_derives own ofArg)
      | more own gapBlank others =>
          exact List.forall_mem_cons.mpr ⟨isWritten_of_derives own ofArg, ih others ofArgs⟩

namespace IsWritten

variable {type other elem key value : TypeExpr} {name package : String} {args : List TypeExpr}

theorem exists_derives (written : IsWritten type) : ∃ source rest, Derives type source rest := by
  rcases written.parsed with ⟨text, parsed⟩
  rcases parse_eq_ok_iff.mp parsed with ⟨trailing, -, derivation⟩
  exact ⟨text.toList, trailing, derivation⟩

/-- A type is derived from its notation in front of a closing bracket, a comma or nothing. -/
theorem derives (written : IsWritten type) {after : List Char} (stop : IsStop after) :
    Derives type (type.print.toList ++ after) after := by
  rcases written.exists_derives with ⟨source, rest, derivation⟩
  exact derives_print type derivation written.faithful stop

theorem derives_nil (written : IsWritten type) : Derives type type.print.toList [] := by
  have nothing : IsStop [] := nofun
  have own := written.derives nothing
  rwa [List.append_nil] at own

theorem print_ne_nil (written : IsWritten type) : type.print.toList ≠ [] :=
  written.derives_nil.ne_nil

theorem eq_of_print_eq (written : IsWritten type) (others : IsWritten other)
    (same : type.print = other.print) : type = other := by
  have own := parse_eq_ok_iff.mpr ⟨[], List.forall_mem_nil _, written.derives_nil⟩
  have second := parse_eq_ok_iff.mpr ⟨[], List.forall_mem_nil _, others.derives_nil⟩
  rw [same] at own
  exact Except.ok.inj (own.symm.trans second)

/-! ### Parts -/

theorem of_pointer (written : IsWritten (pointer elem)) : IsWritten elem := by
  have faithful := (isFaithful_cons.mp written.faithful).2
  rcases written.exists_derives with ⟨source, rest, derivation⟩
  cases derivation with
  | pointer blank own => exact isWritten_of_derives own faithful

theorem of_sequence (written : IsWritten (sequence elem)) : IsWritten elem := by
  have faithful := (isFaithful_cons.mp written.faithful).2
  rcases written.exists_derives with ⟨source, rest, derivation⟩
  cases derivation with
  | sequence blank own => exact isWritten_of_derives own faithful

theorem of_mapping (written : IsWritten (mapping key value)) : IsWritten key ∧ IsWritten value := by
  rcases isFaithful_append.mp (isFaithful_cons.mp written.faithful).2 with ⟨ofKey, ofValue⟩
  rcases written.exists_derives with ⟨source, rest, derivation⟩
  cases derivation with
  | mapping blank first gapBlank second =>
      exact ⟨isWritten_of_derives first ofKey, isWritten_of_derives second ofValue⟩

theorem of_generic (written : IsWritten (generic name args)) :
    (∀ c ∈ name.toList, isNameChar c = true) ∧ ∀ arg ∈ args, IsWritten arg := by
  have faithful := (isFaithful_cons.mp written.faithful).2
  rcases written.exists_derives with ⟨source, rest, derivation⟩
  cases derivation with
  | generic blank named gapBlank own =>
      rw [String.toList_ofList]
      exact ⟨named.chars, isWritten_of_derivesArgs own faithful⟩

end IsWritten

/-- The type inside pointers and sequences is read when the whole is. -/
theorem IsWritten.unwrap : ∀ {type : TypeExpr}, type.IsWritten → type.unwrap.IsWritten
  | .named _ _, written | .mapping _ _, written | .generic _ _, written => by
      rw [TypeExpr.unwrap]
      · exact written
      all_goals nofun
  | .pointer elem, written => by
      rw [TypeExpr.unwrap]
      exact written.of_pointer.unwrap
  | .sequence elem, written => by
      rw [TypeExpr.unwrap]
      split
      · exact written
      · exact written.of_sequence.unwrap

/-! ### Names and instantiations -/

/-- An unqualified name is a type that is read. -/
theorem isWritten_named {name : String} (nonempty : name ≠ "")
    (chars : name.toList.all isNameChar = true) (pointless : '.' ∉ name.toList) :
    IsWritten (named name "") := by
  have nothing : IsStop [] := nofun
  have given : name.toList ≠ [] := by simpa using nonempty
  have derivation := Derives.plain (List.forall_mem_nil _)
    (nothing.isNameBefore given (List.all_eq_true.mp chars)) pointless
  rw [String.ofList_toList] at derivation
  refine isWritten_of_derives derivation (isFaithful_cons.mpr ⟨⟨nofun, ?_⟩, List.forall_mem_nil _⟩)
  intro void
  rw [named.injEq] at void
  exact nonempty void.1

/-- A pointer to a type that is read is one too. -/
theorem isWritten_pointer {elem : TypeExpr} (written : IsWritten elem) :
    IsWritten (pointer elem) :=
  isWritten_of_derives (.pointer (List.forall_mem_nil _) written.derives_nil)
    (isFaithful_cons.mpr ⟨⟨nofun, nofun⟩, written.faithful⟩)

theorem isWritten_sequence {elem : TypeExpr} (written : IsWritten elem) :
    IsWritten (sequence elem) :=
  isWritten_of_derives (.sequence (List.forall_mem_nil _) written.derives_nil)
    (isFaithful_cons.mpr ⟨⟨nofun, nofun⟩, written.faithful⟩)

theorem print_generic_text (name : String) (args : List TypeExpr) :
    (generic name args).print.toList = name.toList ++ '[' :: (printedArgs args ++ [']']) := by
  have printed := print_generic name.toList args
  rwa [String.ofList_toList] at printed

/-- Types that are read are derived, as arguments, from their notations. -/
theorem derivesArgs_of_isWritten {args : List TypeExpr} (given : args ≠ [])
    (written : ∀ arg ∈ args, IsWritten arg) (after : List Char) :
    DerivesArgs args (printedArgs args ++ ']' :: after) after := by
  have none : IsBlankRun [] := List.forall_mem_nil _
  induction args with
  | nil => exact absurd rfl given
  | cons arg args ih =>
      rcases List.forall_mem_cons.mp written with ⟨own, others⟩
      cases args with
      | nil =>
          have closed : IsStop (']' :: after) := fun c next => Or.inl (Option.some.inj next).symm
          rw [printedArgs_last]
          exact .last (own.derives closed) none
      | cons next args =>
          have more := List.cons_ne_nil next args
          have stop : IsStop (',' :: ' ' :: (printedArgs (next :: args) ++ ']' :: after)) :=
            fun c next => Or.inr (Option.some.inj next).symm
          rw [printedArgs_more arg more, List.append_assoc, List.cons_append, List.cons_append]
          exact .more (own.derives stop) none (ih more others).blank_cons

theorem isFaithful_nodesAll {args : List TypeExpr} (written : ∀ arg ∈ args, IsWritten arg) :
    IsFaithful (nodesAll args) := by
  induction args with
  | nil => exact List.forall_mem_nil _
  | cons arg args ih =>
      rcases List.forall_mem_cons.mp written with ⟨own, others⟩
      exact isFaithful_append.mpr ⟨own.faithful, ih others⟩

/-- An instantiation with arguments is a type that is read, but for the name `map`. -/
theorem isWritten_generic {name : String} {args : List TypeExpr} (nonempty : name ≠ "")
    (chars : name.toList.all isNameChar = true) (other : name ≠ "map")
    (given : args ≠ []) (written : ∀ arg ∈ args, IsWritten arg) :
    IsWritten (generic name args) := by
  have none : IsBlankRun [] := List.forall_mem_nil _
  have nothing : IsStop [] := nofun
  have letters : name.toList ≠ [] := by simpa using nonempty
  have unmarked : name.toList ≠ ['m', 'a', 'p'] :=
    fun same => other (String.toList_inj.mp same)
  have named : IsNameBefore name.toList ([] ++ '[' :: (printedArgs args ++ ']' :: [])) :=
    isNameBefore_bracket (nothing.isNameBefore letters (List.all_eq_true.mp chars)) unmarked
  have derivation := Derives.generic none named none (derivesArgs_of_isWritten given written [])
  rw [String.ofList_toList] at derivation
  refine isWritten_of_derives derivation
    (isFaithful_cons.mpr ⟨⟨fun lost same => ?_, nofun⟩, isFaithful_nodesAll written⟩)
  rw [generic.injEq] at same
  exact other same.1

/-! ## Brackets -/

/-- A name has no characters of other kinds. -/
theorem notMem_of_chars {cs : List Char} (chars : ∀ c ∈ cs, isNameChar c = true) {c : Char}
    (other : isNameChar c = false) : c ∉ cs :=
  fun member => Bool.eq_false_iff.mp other (chars c member)

/-- Brackets come in pairs: there are as many closing as opening ones, and the end of the text from
any place on has no more opening than closing ones. -/
structure IsBalanced (cs : List Char) : Prop where
  whole : cs.count '[' = cs.count ']'
  ends : ∀ {rest}, rest <:+ cs → rest.count '[' ≤ rest.count ']'

theorem isBalanced_nil : IsBalanced [] where
  whole := rfl
  ends inside := by rw [List.suffix_nil.mp inside]; exact Nat.le_refl _

namespace IsBalanced

variable {cs first second : List Char}

theorem of_notMem (unopened : '[' ∉ cs) (unclosed : ']' ∉ cs) : IsBalanced cs where
  whole := by rw [List.count_eq_zero.mpr unopened, List.count_eq_zero.mpr unclosed]
  ends inside := by
    rw [List.count_eq_zero.mpr fun member => unopened (inside.subset member)]
    exact Nat.zero_le _

theorem append (left : IsBalanced first) (right : IsBalanced second) :
    IsBalanced (first ++ second) where
  whole := by rw [List.count_append, List.count_append, left.whole, right.whole]
  ends := by
    rintro rest ⟨before, split⟩
    rcases List.append_eq_append_iff.mp split with ⟨more, own, rfl⟩ | ⟨more, -, own⟩
    · have inside := left.ends ⟨before, own.symm⟩
      rw [List.count_append, List.count_append, right.whole]
      exact Nat.add_le_add_right inside _
    · exact right.ends ⟨more, own.symm⟩

theorem bracketed (inner : IsBalanced cs) : IsBalanced ('[' :: (cs ++ [']'])) := by
  have whole : ('[' :: (cs ++ [']'])).count '[' = ('[' :: (cs ++ [']'])).count ']' := by
    simp [inner.whole]
  refine ⟨whole, ?_⟩
  intro rest inside
  rcases List.suffix_cons_iff.mp inside with rfl | inside
  · exact Nat.le_of_eq whole
  · rcases List.suffix_concat_iff.mp inside with rfl | ⟨more, rfl, own⟩
    · exact Nat.le_refl _
    · rw [List.count_append, List.count_append]
      exact Nat.add_le_add (inner.ends own) (by decide)

theorem of_chars (chars : ∀ c ∈ cs, isNameChar c = true) : IsBalanced cs :=
  .of_notMem (notMem_of_chars chars (by decide)) (notMem_of_chars chars (by decide))

end IsBalanced

theorem isBalanced_named {name package : String} (written : IsWritten (named name package)) :
    IsBalanced (named name package).print.toList := by
  rcases written.exists_derives with ⟨source, rest, derivation⟩
  cases derivation with
  | any blank => exact .of_notMem (by decide) (by decide)
  | plain blank named pointless =>
      rw [print_plain]
      exact .of_chars named.chars
  | qualified blank named pointless =>
      exact .of_chars fun c member => named.chars c ((print_qualified_suffix _ _).subset member)

mutual

/-- Brackets come in pairs in the notation of a type that is read. -/
theorem isBalanced_print : (type : TypeExpr) → IsWritten type → IsBalanced type.print.toList
  | .named name package, written => isBalanced_named written
  | .pointer elem, written => by
      have mark : IsBalanced ['*'] := .of_notMem (by decide) (by decide)
      rw [print_pointer]
      exact mark.append (isBalanced_print elem written.of_pointer)
  | .sequence elem, written => by
      have mark : IsBalanced ['[', ']'] := isBalanced_nil.bracketed
      rw [print_sequence]
      exact mark.append (isBalanced_print elem written.of_sequence)
  | .mapping key value, written => by
      have word : IsBalanced ['m', 'a', 'p'] := .of_notMem (by decide) (by decide)
      have inner := (isBalanced_print key written.of_mapping.1).bracketed
      have whole := word.append (inner.append (isBalanced_print value written.of_mapping.2))
      rw [print_mapping]
      simpa [mapMark] using whole
  | .generic name args, written => by
      rcases written.of_generic with ⟨chars, own⟩
      have inner := (isBalanced_printedArgs args own).bracketed
      rw [print_generic_text]
      exact (IsBalanced.of_chars chars).append inner

theorem isBalanced_printedArgs : (args : List TypeExpr) → (∀ arg ∈ args, IsWritten arg) →
    IsBalanced (printedArgs args)
  | [], _ => isBalanced_nil
  | [arg], written => by
      rw [printedArgs_last]
      exact isBalanced_print arg (written arg List.mem_cons_self)
  | arg :: next :: args, written => by
      rcases List.forall_mem_cons.mp written with ⟨own, others⟩
      have comma : IsBalanced [',', ' '] := .of_notMem (by decide) (by decide)
      have later := comma.append (isBalanced_printedArgs (next :: args) others)
      rw [printedArgs_more arg (List.cons_ne_nil next args)]
      exact (isBalanced_print arg own).append later

end

/-! ## The last bracket and its partner -/

/-- What stands between the last bracket and its partner is known when nothing in front of it has an
opening bracket in one of two texts. -/
theorem eq_of_bracketed_eq {name other inner others : List Char} (unopened : '[' ∉ name)
    (balanced : IsBalanced inner) (balancedOthers : IsBalanced others)
    (same : other ++ '[' :: (others ++ [']']) = name ++ '[' :: (inner ++ [']'])) :
    other = name ∧ others = inner := by
  rcases List.append_eq_append_iff.mp same with ⟨more, rfl, later⟩ | ⟨more, rfl, later⟩
  · cases more with
    | nil =>
        rw [List.nil_append, List.cons.injEq] at later
        exact ⟨(List.append_nil _).symm, List.append_cancel_right later.2⟩
    | cons c more =>
        rw [List.cons_append, List.cons.injEq] at later
        exact absurd (List.mem_append_right other (later.1 ▸ List.mem_cons_self)) unopened
  · cases more with
    | nil =>
        rw [List.nil_append, List.cons.injEq] at later
        exact ⟨List.append_nil _, (List.append_cancel_right later.2).symm⟩
    | cons c more =>
        -- The bracket in front of the others would stand among balanced ones without its partner.
        rw [List.cons_append, List.cons.injEq, ← List.cons_append, ← List.append_assoc] at later
        have whole := List.append_cancel_right later.2
        have fewer := balanced.ends ⟨more, whole.symm⟩
        rw [List.count_cons_self, List.count_cons_of_ne (by decide), balancedOthers.whole] at fewer
        omega

theorem printedArgs_ne_nil {arg : TypeExpr} {args : List TypeExpr} (written : IsWritten arg) :
    printedArgs (arg :: args) ≠ [] := by
  cases args with
  | nil =>
      rw [printedArgs_last]
      exact written.print_ne_nil
  | cons next args =>
      rw [printedArgs_more arg (List.cons_ne_nil next args)]
      exact List.append_ne_nil_of_left_ne_nil written.print_ne_nil _

/-- Arguments that are read are known by how they are printed. -/
theorem eq_of_printedArgs_eq {args others : List TypeExpr} (written : ∀ arg ∈ args, IsWritten arg)
    (writtenOthers : ∀ arg ∈ others, IsWritten arg) (same : printedArgs args = printedArgs others) :
    args = others := by
  cases args with
  | nil =>
      cases others with
      | nil => rfl
      | cons other others =>
          exact absurd same.symm (printedArgs_ne_nil (writtenOthers other List.mem_cons_self))
  | cons arg args =>
      cases others with
      | nil => exact absurd same (printedArgs_ne_nil (written arg List.mem_cons_self))
      | cons other others =>
          -- Both stand as arguments of one template, and what is printed then is read back.
          have instantiated : ∀ {args : List TypeExpr}, args ≠ [] → (∀ arg ∈ args, IsWritten arg) →
              IsWritten (generic "T" args) :=
            isWritten_generic (by decide) (by decide) (by decide)
          have whole := (instantiated (List.cons_ne_nil arg args) written).eq_of_print_eq
            (instantiated (List.cons_ne_nil other others) writtenOthers)
            (String.toList_inj.mp (by rw [print_generic_text, print_generic_text, same]))
          rw [generic.injEq] at whole
          exact whole.2

/-- An instantiation is known by its notation, whatever text is the name of its template, among
those of templates whose name has no opening bracket. -/
theorem eq_of_print_generic_eq {name other : String} {args others : List TypeExpr}
    (unopened : '[' ∉ name.toList) (written : ∀ arg ∈ args, IsWritten arg)
    (writtenOthers : ∀ arg ∈ others, IsWritten arg)
    (same : (generic other others).print = (generic name args).print) :
    other = name ∧ others = args := by
  have chars := congrArg String.toList same
  rw [print_generic_text, print_generic_text] at chars
  rcases eq_of_bracketed_eq unopened (isBalanced_printedArgs args written)
    (isBalanced_printedArgs others writtenOthers) chars with ⟨names, printed⟩
  exact ⟨String.toList_inj.mp names, eq_of_printedArgs_eq writtenOthers written printed⟩

end WireSchema.TypeExpr
