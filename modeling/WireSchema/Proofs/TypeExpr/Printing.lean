import Mathlib.Data.List.Chain
import WireSchema.Proofs.TypeExpr.Reading

namespace WireSchema.TypeExpr

/-!
# Printing undoes reading

A type that was read is printed to a notation of it, two kinds of nodes excepted.  A generic type
named `map` was written with white space in front of its bracket, which printing drops, so that the
bracket becomes a part of the mark of maps.  The text `.` is a name with nothing on either side of
the point, and printing drops the point.

That these nodes are lost wherever they occur needs an argument about the whole printed text, since
a part that is read differently might be made up for by its surroundings.  It compares the printed
text with what a derivation takes.  A derivation of a name without characters takes a point that no
name prints.  A derivation of a generic type named `map` takes white space behind a letter, and
white space is printed behind commas only.
-/

/-! ## Nodes -/

mutual

def nodes : TypeExpr → List TypeExpr
  | named name package => [named name package]
  | pointer elem => pointer elem :: elem.nodes
  | sequence elem => sequence elem :: elem.nodes
  | mapping key value => mapping key value :: (key.nodes ++ value.nodes)
  | generic name args => generic name args :: nodesAll args

def nodesAll : List TypeExpr → List TypeExpr
  | [] => []
  | arg :: args => arg.nodes ++ nodesAll args

end

/-- No node is a generic type named `map` or a name with nothing in it.  The
first is printed like a map and the second like nothing, so that neither comes
back from its notation. -/
def IsFaithful (nodes : List TypeExpr) : Prop :=
  ∀ node ∈ nodes, (∀ args, node ≠ generic "map" args) ∧ node ≠ named "" ""

theorem isFaithful_cons {node : TypeExpr} {nodes : List TypeExpr} :
    IsFaithful (node :: nodes) ↔
      ((∀ args, node ≠ generic "map" args) ∧ node ≠ named "" "") ∧ IsFaithful nodes :=
  List.forall_mem_cons

theorem isFaithful_append {first second : List TypeExpr} :
    IsFaithful (first ++ second) ↔ IsFaithful first ∧ IsFaithful second :=
  List.forall_mem_append

/-! ## Printed texts -/

/-- The notations of the arguments of a generic type, as they are printed between its brackets. -/
def printedArgs (args : List TypeExpr) : List Char :=
  (String.intercalate ", " (printAll args)).toList

theorem printedArgs_last (arg : TypeExpr) : printedArgs [arg] = arg.print.toList := by
  rw [printedArgs, String.toList_intercalate, printAll, printAll]
  exact List.intercalate_singleton

theorem printedArgs_more (arg : TypeExpr) {args : List TypeExpr} (others : args ≠ []) :
    printedArgs (arg :: args) = arg.print.toList ++ ',' :: ' ' :: printedArgs args := by
  cases args with
  | nil => exact absurd rfl others
  | cons next args =>
      rw [printedArgs, printedArgs, String.toList_intercalate, String.toList_intercalate, printAll,
        printAll, List.map_cons, List.map_cons, List.intercalate_cons_cons, List.append_assoc]
      rfl

theorem print_pointer (elem : TypeExpr) :
    (pointer elem).print.toList = '*' :: elem.print.toList := by
  rw [print, String.toList_append]
  rfl

theorem print_sequence (elem : TypeExpr) :
    (sequence elem).print.toList = '[' :: ']' :: elem.print.toList := by
  rw [print, String.toList_append]
  rfl

theorem print_mapping (key value : TypeExpr) :
    (mapping key value).print.toList =
      mapMark ++ (key.print.toList ++ ']' :: value.print.toList) := by
  rw [print, String.toList_append, String.toList_append, String.toList_append, List.append_assoc,
    List.append_assoc]
  rfl

theorem print_generic (name : List Char) (args : List TypeExpr) :
    (generic (String.ofList name) args).print.toList =
      name ++ '[' :: (printedArgs args ++ [']']) := by
  rw [print, String.toList_append, String.toList_append, String.toList_append, String.toList_ofList,
    List.append_assoc, List.append_assoc]
  rfl

theorem print_plain (name : List Char) :
    (named (String.ofList name) "").print.toList = name := by
  rw [print, qualify, if_pos rfl, String.toList_ofList]

theorem print_qualified {package : List Char} (nonempty : package ≠ []) (name : List Char) :
    (named (String.ofList name) (String.ofList package)).print.toList = package ++ '.' :: name := by
  have present : String.ofList package ≠ "" := by
    rw [← String.ofList_nil]
    exact fun same => nonempty (String.ofList_inj.mp same)
  rw [print, qualify, if_neg present, String.toList_append, String.toList_append,
    String.toList_ofList, String.toList_ofList, String.toList_ofList, List.append_assoc]
  rfl

/-- A name with a package is printed as it is written, or without the point if the package has
nothing in it. -/
theorem print_qualified_suffix (package name : List Char) :
    (named (String.ofList name) (String.ofList package)).print.toList <:+
      package ++ '.' :: name := by
  cases package with
  | nil =>
      rw [String.ofList_nil, print_plain]
      exact List.suffix_cons '.' name
  | cons c package => exact ⟨[], print_qualified (List.cons_ne_nil c package) name⟩

theorem DerivesArgs.ne_nil {args : List TypeExpr} {source rest : List Char}
    (derivation : DerivesArgs args source rest) : args ≠ [] := by
  cases derivation with
  | last own gapBlank => exact List.cons_ne_nil _ _
  | more own gapBlank others => exact List.cons_ne_nil _ _

/-! ## A faithful type is derived from its notation -/

/-- A closing bracket, a comma or nothing comes next.  Behind a type nothing else
is accepted, so the reader of a printed type ends where the printer did. -/
def IsStop (rest : List Char) : Prop :=
  ∀ c ∈ rest.head?, c = ']' ∨ c = ','

/-- A mark with a character that no name has does not begin a text that begins with a name, unless
what comes after the name is a character of the mark. -/
theorem not_prefix_of_foreign {mark name rest : List Char}
    (chars : ∀ c ∈ name, isNameChar c = true) (foreign : ∃ c ∈ mark, isNameChar c = false)
    (next : ∀ c ∈ rest.head?, c ∉ mark) : ¬mark <+: name ++ rest := by
  rintro ⟨others, split⟩
  rcases foreign with ⟨c, member, other⟩
  have outside : c ∉ name := fun inside => Bool.eq_false_iff.mp other (chars c inside)
  rcases List.append_eq_append_iff.mp split with ⟨more, whole, -⟩ | ⟨more, whole, left⟩
  · exact outside (whole ▸ List.mem_append_left more member)
  · cases more with
    | nil => exact outside (by rwa [whole, List.append_nil] at member)
    | cons first more =>
        refine next first (by rw [left]; rfl) ?_
        rw [whole]
        exact List.mem_append_right name List.mem_cons_self

theorem IsStop.isNameBefore {name after : List Char} (stop : IsStop after) (nonempty : name ≠ [])
    (chars : ∀ c ∈ name, isNameChar c = true) : IsNameBefore name after where
  nonempty := nonempty
  chars := chars
  longest c first := by
    rcases stop c first with rfl | rfl <;> decide
  noMap := by
    refine not_prefix_of_foreign chars ⟨'[', by decide, by decide⟩ fun c first => ?_
    rcases stop c first with rfl | rfl <;> decide
  noAny := by
    refine not_prefix_of_foreign chars ⟨'\x7b', by decide, by decide⟩ fun c first => ?_
    rcases stop c first with rfl | rfl <;> decide

/-- A name other than `map` is one in front of an opening bracket too. -/
theorem isNameBefore_bracket {name rest inner : List Char} (named : IsNameBefore name rest)
    (other : name ≠ ['m', 'a', 'p']) : IsNameBefore name ('[' :: inner) where
  nonempty := named.nonempty
  chars := named.chars
  longest c first := by
    cases first
    decide
  noMap := by
    rintro ⟨more, split⟩
    have run : (name ++ '[' :: inner).takeWhile isNameChar = name := by
      rw [List.takeWhile_append_of_pos named.chars, List.takeWhile_cons_of_neg (by decide),
        List.append_nil]
    rw [← split] at run
    exact other run.symm
  noAny := by
    refine not_prefix_of_foreign named.chars ⟨'\x7b', by decide, by decide⟩ fun c first => ?_
    cases first
    decide

/-- A derivation may begin with one more character of white space. -/
theorem Derives.blank_cons {type : TypeExpr} {source rest : List Char}
    (derivation : Derives type source rest) : Derives type (' ' :: source) rest := by
  have more : ∀ {blanks}, IsBlankRun blanks → IsBlankRun (' ' :: blanks) :=
    fun blank => List.forall_mem_cons.mpr ⟨by decide, blank⟩
  cases derivation with
  | pointer blank own => exact .pointer (more blank) own
  | sequence blank own => exact .sequence (more blank) own
  | mapping blank first gapBlank second => exact .mapping (more blank) first gapBlank second
  | any blank => exact .any (more blank)
  | plain blank named pointless => exact .plain (more blank) named pointless
  | qualified blank named pointless => exact .qualified (more blank) named pointless
  | generic blank named gapBlank own => exact .generic (more blank) named gapBlank own

theorem DerivesArgs.blank_cons {args : List TypeExpr} {source rest : List Char}
    (derivation : DerivesArgs args source rest) : DerivesArgs args (' ' :: source) rest := by
  cases derivation with
  | last own gapBlank => exact .last own.blank_cons gapBlank
  | more own gapBlank others => exact .more own.blank_cons gapBlank others

mutual

/-- A faithful type that a derivation gives is derived from its notation, wherever that stands in
front of a closing bracket, a comma or nothing.  The induction is on the type. -/
theorem derives_print : (type : TypeExpr) → {source rest after : List Char} →
    Derives type source rest → IsFaithful type.nodes → IsStop after →
      Derives type (type.print.toList ++ after) after
  | .named name package, _, _, after, derivation, faithful, stop => by
      have none : IsBlankRun [] := List.forall_mem_nil _
      cases derivation with
      | any blank => exact .any none
      | @plain name _ _ blank named pointless =>
          rw [print_plain]
          exact .plain none (stop.isNameBefore named.nonempty named.chars) pointless
      | @qualified package name _ _ blank named pointless =>
          cases package with
          | nil =>
              -- The point is not printed, and the name alone is read as the same type.
              have nonempty : name ≠ [] := by
                rintro rfl
                exact (faithful _ List.mem_cons_self).2 rfl
              rw [String.ofList_nil, print_plain]
              refine .plain none (stop.isNameBefore nonempty fun c member => ?_) pointless
              exact named.chars c (List.mem_cons_of_mem _ member)
          | cons c package =>
              rw [print_qualified (List.cons_ne_nil c package)]
              exact .qualified none (stop.isNameBefore named.nonempty named.chars) pointless
  | .pointer elem, _, _, after, derivation, faithful, stop => by
      cases derivation with
      | pointer blank own =>
          rw [print_pointer]
          exact .pointer (List.forall_mem_nil _)
            (derives_print elem own (isFaithful_cons.mp faithful).2 stop)
  | .sequence elem, _, _, after, derivation, faithful, stop => by
      cases derivation with
      | sequence blank own =>
          rw [print_sequence]
          exact .sequence (List.forall_mem_nil _)
            (derives_print elem own (isFaithful_cons.mp faithful).2 stop)
  | .mapping key value, _, _, after, derivation, faithful, stop => by
      cases derivation with
      | mapping blank first gapBlank second =>
          have none : IsBlankRun [] := List.forall_mem_nil _
          rcases isFaithful_append.mp (isFaithful_cons.mp faithful).2 with ⟨ofKey, ofValue⟩
          have closed : IsStop (']' :: (value.print.toList ++ after)) :=
            fun c next => Or.inl (Option.some.inj next).symm
          rw [print_mapping, List.append_assoc, List.append_assoc, List.cons_append]
          exact .mapping none (derives_print key first ofKey closed) none
            (derives_print value second ofValue stop)
  | .generic name args, _, _, after, derivation, faithful, stop => by
      cases derivation with
      | @generic _ name _ _ _ _ blank named gapBlank own =>
          have none : IsBlankRun [] := List.forall_mem_nil _
          rcases isFaithful_cons.mp faithful with ⟨node, ofArgs⟩
          have other : name ≠ ['m', 'a', 'p'] := by
            rintro rfl
            exact node.1 args rfl
          rw [print_generic, List.append_assoc, List.cons_append, List.append_assoc]
          exact .generic none (isNameBefore_bracket named other) none
            (derivesArgs_print args own ofArgs after)

theorem derivesArgs_print : (args : List TypeExpr) → {source rest : List Char} →
    DerivesArgs args source rest → IsFaithful (nodesAll args) → (after : List Char) →
      DerivesArgs args (printedArgs args ++ ']' :: after) after
  | [], _, _, derivation, _, _ => by cases derivation
  | arg :: args, _, _, derivation, faithful, after => by
      have none : IsBlankRun [] := List.forall_mem_nil _
      rcases isFaithful_append.mp faithful with ⟨ofArg, ofArgs⟩
      cases derivation with
      | last own gapBlank =>
          have closed : IsStop (']' :: after) := fun c next => Or.inl (Option.some.inj next).symm
          rw [printedArgs_last]
          exact .last (derives_print arg own ofArg closed) none
      | more own gapBlank others =>
          have stop : IsStop (',' :: ' ' :: (printedArgs args ++ ']' :: after)) :=
            fun c next => Or.inr (Option.some.inj next).symm
          rw [printedArgs_more arg others.ne_nil, List.append_assoc, List.cons_append,
            List.cons_append]
          exact .more (derives_print arg own ofArg stop) none
            (derivesArgs_print args others ofArgs after).blank_cons

end

/-! ## A name with nothing in it -/

/-- Whether a node is a name with nothing in it. -/
def isVoid : TypeExpr → Bool
  | named name package => name == "" && package == ""
  | _ => false

/-- The number of characters of names in a text. -/
def nameLength (cs : List Char) : Nat :=
  cs.countP isNameChar

theorem nameLength_append (first second : List Char) :
    nameLength (first ++ second) = nameLength first + nameLength second :=
  List.countP_append

theorem nameLength_mark {c : Char} (mark : isNameChar c = false) (cs : List Char) :
    nameLength (c :: cs) = nameLength cs :=
  List.countP_cons_of_neg (Bool.eq_false_iff.mp mark)

theorem nameLength_name {name : List Char} (chars : ∀ c ∈ name, isNameChar c = true) :
    nameLength name = name.length :=
  List.countP_eq_length.mpr chars

/-- A name prints its characters, and a name with nothing in it has a character in front. -/
theorem nameLength_print_ofName {name : List Char} (nonempty : name ≠ [])
    (chars : ∀ c ∈ name, isNameChar c = true) :
    nameLength (ofName name).print.toList + (ofName name).nodes.countP isVoid ≤ name.length := by
  rcases Text.exists_last_or_not_mem '.' name with ⟨package, last, rfl, pointless⟩ | pointless
  · rw [ofName_of_point pointless]
    cases package with
    | nil =>
        have node : (named (String.ofList last) (String.ofList [])).nodes.countP isVoid ≤ 1 :=
          List.countP_le_length
        have printed : nameLength last ≤ last.length := List.countP_le_length
        rw [String.ofList_nil] at node ⊢
        rw [print_plain, List.nil_append, List.length_cons]
        omega
    | cons c package =>
        have void : (named (String.ofList last) (String.ofList (c :: package))).nodes.countP isVoid
            = 0 := by
          rw [nodes, List.countP_singleton, isVoid]
          simp
        rw [print_qualified (List.cons_ne_nil c package), nameLength_name chars, void]
        omega
  · have void : (named (String.ofList name) "").nodes.countP isVoid = 0 := by
      rw [nodes, List.countP_singleton, isVoid]
      simp [nonempty]
    rw [ofName_of_pointless pointless, print_plain, nameLength_name chars, void]
    omega

mutual

/-- A notation has at most the characters of names that a derivation takes.  Every name with nothing
in it takes one more than it prints. -/
theorem nameLength_print_le : (type : TypeExpr) → {source rest : List Char} →
    Derives type source rest →
      nameLength type.print.toList + type.nodes.countP isVoid + nameLength rest ≤ nameLength source
  | .named name package, _, rest, derivation => by
      cases derivation with
      | any blank =>
          have print : (named anyMarkText "").print.toList = anyMarkText.toList := rfl
          have void : (named anyMarkText "").nodes.countP isVoid = 0 := by decide
          rw [print, void, nameLength_append, nameLength_append]
          omega
      | plain blank named pointless =>
          have own := nameLength_print_ofName named.nonempty named.chars
          rw [ofName_of_pointless pointless] at own
          rw [nameLength_append, nameLength_append, nameLength_name named.chars]
          omega
      | qualified blank named pointless =>
          have own := nameLength_print_ofName named.nonempty named.chars
          rw [ofName_of_point pointless] at own
          rw [nameLength_append, nameLength_append, nameLength_name named.chars]
          omega
  | .pointer elem, _, _, derivation => by
      cases derivation with
      | pointer blank own =>
          have inner := nameLength_print_le elem own
          have mark : isNameChar '*' = false := by decide
          rw [print_pointer, nodes, List.countP_cons_of_neg (Bool.eq_false_iff.mp rfl),
            nameLength_append, nameLength_mark mark, nameLength_mark mark]
          omega
  | .sequence elem, _, _, derivation => by
      cases derivation with
      | sequence blank own =>
          have inner := nameLength_print_le elem own
          have opening : isNameChar '[' = false := by decide
          have closing : isNameChar ']' = false := by decide
          rw [print_sequence, nodes, List.countP_cons_of_neg (Bool.eq_false_iff.mp rfl),
            nameLength_append, nameLength_mark opening, nameLength_mark opening,
            nameLength_mark closing, nameLength_mark closing]
          omega
  | .mapping key value, _, _, derivation => by
      cases derivation with
      | mapping blank first gapBlank second =>
          have ofKey := nameLength_print_le key first
          have ofValue := nameLength_print_le value second
          have closing : isNameChar ']' = false := by decide
          rw [nameLength_append, nameLength_mark closing] at ofKey
          rw [print_mapping, nodes, List.countP_cons_of_neg (Bool.eq_false_iff.mp rfl),
            List.countP_append, nameLength_append, nameLength_append, nameLength_append,
            nameLength_append, nameLength_mark closing]
          omega
  | .generic name args, _, _, derivation => by
      cases derivation with
      | generic blank named gapBlank own =>
          have inner := nameLength_printedArgs_le args own
          have opening : isNameChar '[' = false := by decide
          have closing : nameLength [']'] = 0 := by decide
          rw [print_generic, nodes, List.countP_cons_of_neg (Bool.eq_false_iff.mp rfl),
            nameLength_append, nameLength_append, nameLength_append, nameLength_append,
            nameLength_mark opening, nameLength_mark opening, nameLength_append, closing]
          omega

theorem nameLength_printedArgs_le : (args : List TypeExpr) → {source rest : List Char} →
    DerivesArgs args source rest →
      nameLength (printedArgs args) + (nodesAll args).countP isVoid + nameLength rest ≤
        nameLength source
  | [], _, _, derivation => by cases derivation
  | arg :: args, _, _, derivation => by
      cases derivation with
      | last own gapBlank =>
          have inner := nameLength_print_le arg own
          have closing : isNameChar ']' = false := by decide
          rw [nameLength_append, nameLength_mark closing] at inner
          rw [printedArgs_last, nodesAll, nodesAll, List.append_nil]
          omega
      | more own gapBlank others =>
          have ofArg := nameLength_print_le arg own
          have ofArgs := nameLength_printedArgs_le args others
          have comma : isNameChar ',' = false := by decide
          have blank : isNameChar ' ' = false := by decide
          rw [nameLength_append, nameLength_mark comma] at ofArg
          rw [printedArgs_more arg others.ne_nil, nodesAll, List.countP_append, nameLength_append,
            nameLength_mark comma, nameLength_mark blank]
          omega

end

/-! ## A generic type named `map` -/

theorem suffix_behind (first second cs : List Char) : cs <:+ first ++ (second ++ cs) :=
  (List.suffix_append second cs).trans (List.suffix_append first _)

mutual

/-- What a derivation leaves is the end of what it began with. -/
theorem Derives.suffix : (type : TypeExpr) → {source rest : List Char} →
    Derives type source rest → rest <:+ source
  | .named _ _, _, _, derivation => by
      cases derivation with
      | any blank | plain blank named pointless | qualified blank named pointless =>
          exact suffix_behind _ _ _
  | .pointer elem, _, _, derivation => by
      cases derivation with
      | pointer blank own => exact (Derives.suffix elem own).trans (suffix_behind _ ['*'] _)
  | .sequence elem, _, _, derivation => by
      cases derivation with
      | sequence blank own => exact (Derives.suffix elem own).trans (suffix_behind _ ['[', ']'] _)
  | .mapping key value, _, _, derivation => by
      cases derivation with
      | mapping blank first gapBlank second =>
          have later := (suffix_behind _ [']'] _).trans (Derives.suffix key first)
          exact (Derives.suffix value second).trans (later.trans (suffix_behind _ mapMark _))
  | .generic _ args, _, _, derivation => by
      cases derivation with
      | generic blank named gapBlank own =>
          exact (DerivesArgs.suffix args own).trans
            ((suffix_behind _ ['['] _).trans (suffix_behind _ _ _))

theorem DerivesArgs.suffix : (args : List TypeExpr) → {source rest : List Char} →
    DerivesArgs args source rest → rest <:+ source
  | [], _, _, derivation => by cases derivation
  | arg :: args, _, _, derivation => by
      cases derivation with
      | last own gapBlank => exact (suffix_behind _ [']'] _).trans (Derives.suffix arg own)
      | more own gapBlank others =>
          have later := (suffix_behind _ [','] _).trans (Derives.suffix arg own)
          exact (DerivesArgs.suffix args others).trans later

end

/-- White space stands behind a letter.  It is looked for behind the last letter
of the mark of a map, where it makes the difference between a map and a generic
type. -/
def HasGap (cs : List Char) : Prop :=
  ∃ blank, Text.isBlank blank = true ∧ ['p', blank] <:+: cs

theorem HasGap.of_suffix {cs source : List Char} (gap : HasGap cs) (inside : cs <:+ source) :
    HasGap source := by
  rcases gap with ⟨blank, isBlank, here⟩
  exact ⟨blank, isBlank, here.trans inside.isInfix⟩

theorem hasGap_of_name {blanks gap source : List Char}
    (named : IsNameBefore ['m', 'a', 'p'] (gap ++ '[' :: source)) (gapBlank : IsBlankRun gap) :
    HasGap (blanks ++ (['m', 'a', 'p'] ++ (gap ++ '[' :: source))) := by
  cases gap with
  | nil => exact absurd ⟨source, rfl⟩ named.noMap
  | cons blank gap =>
      refine ⟨blank, gapBlank blank List.mem_cons_self, blanks ++ ['m', 'a'],
        gap ++ '[' :: source, ?_⟩
      rw [List.append_assoc, List.append_assoc]
      rfl

mutual

theorem hasGap_of_mem_nodes : (type : TypeExpr) → {source rest : List Char} →
    {lost : List TypeExpr} → Derives type source rest → generic "map" lost ∈ type.nodes →
      HasGap source
  | .named _ _, _, _, _, _, member => by cases List.mem_singleton.mp member
  | .pointer elem, _, _, _, derivation, member => by
      cases derivation with
      | pointer blank own =>
          rcases List.mem_cons.mp member with here | inside
          · cases here
          · exact (hasGap_of_mem_nodes elem own inside).of_suffix (suffix_behind _ ['*'] _)
  | .sequence elem, _, _, _, derivation, member => by
      cases derivation with
      | sequence blank own =>
          rcases List.mem_cons.mp member with here | inside
          · cases here
          · exact (hasGap_of_mem_nodes elem own inside).of_suffix (suffix_behind _ ['[', ']'] _)
  | .mapping key value, _, _, _, derivation, member => by
      cases derivation with
      | mapping blank first gapBlank second =>
          rcases List.mem_cons.mp member with here | inside
          · cases here
          · rcases List.mem_append.mp inside with ofKey | ofValue
            · exact (hasGap_of_mem_nodes key first ofKey).of_suffix (suffix_behind _ mapMark _)
            · have later := (suffix_behind _ [']'] _).trans (Derives.suffix key first)
              exact (hasGap_of_mem_nodes value second ofValue).of_suffix
                (later.trans (suffix_behind _ mapMark _))
  | .generic _ args, _, _, _, derivation, member => by
      cases derivation with
      | generic blank named gapBlank own =>
          rcases List.mem_cons.mp member with here | inside
          · rename_i name _ _ _
            have isMap : String.ofList name = String.ofList ['m', 'a', 'p'] := by
              rw [generic.injEq] at here
              exact here.1.symm
            rw [String.ofList_inj] at isMap
            subst isMap
            exact hasGap_of_name named gapBlank
          · exact (hasGap_of_mem_nodesAll args own inside).of_suffix
              ((suffix_behind _ ['['] _).trans (suffix_behind _ _ _))

theorem hasGap_of_mem_nodesAll : (args : List TypeExpr) → {source rest : List Char} →
    {lost : List TypeExpr} → DerivesArgs args source rest → generic "map" lost ∈ nodesAll args →
      HasGap source
  | [], _, _, _, derivation, _ => by cases derivation
  | arg :: args, _, _, _, derivation, member => by
      rcases List.mem_append.mp member with ofArg | ofArgs
      · cases derivation with
        | last own gapBlank => exact hasGap_of_mem_nodes arg own ofArg
        | more own gapBlank others => exact hasGap_of_mem_nodes arg own ofArg
      · cases derivation with
        | last own gapBlank => cases ofArgs
        | more own gapBlank others =>
            exact (hasGap_of_mem_nodesAll args others ofArgs).of_suffix
              ((suffix_behind _ [','] _).trans (Derives.suffix arg own))

end

/-- White space stands behind commas only.  Printed notations are of this form,
and it tells them from those notations that a reader accepts besides. -/
structure IsTight (cs : List Char) : Prop where
  first : ∀ c ∈ cs.head?, Text.isBlank c = false
  others : cs.IsChain fun before c => Text.isBlank c = true → before = ','

theorem IsTight.append {first second : List Char} (left : IsTight first) (right : IsTight second) :
    IsTight (first ++ second) where
  first c begins := by
    cases first with
    | nil => exact right.first c begins
    | cons d first => exact left.first c begins
  others := by
    refine List.isChain_append.mpr ⟨left.others, right.others, fun before _ c begins blank => ?_⟩
    exact absurd blank (Bool.eq_false_iff.mp (right.first c begins))

theorem IsTight.of_solid {cs : List Char} (solid : ∀ c ∈ cs, Text.isBlank c = false) :
    IsTight cs where
  first c begins := solid c (List.mem_of_mem_head? begins)
  others := by
    refine List.Pairwise.isChain
      (List.pairwise_of_forall_mem_list fun before _ c member blank => ?_)
    exact absurd blank (Bool.eq_false_iff.mp (solid c member))

theorem IsTight.of_mark {mark : List Char} (solid : mark.any Text.isBlank = false) : IsTight mark :=
  of_solid fun c member => Bool.eq_false_iff.mpr (List.any_eq_false.mp solid c member)

theorem IsTight.comma {cs : List Char} (tight : IsTight cs) : IsTight (',' :: ' ' :: cs) where
  first c begins := by
    cases begins
    decide
  others := by
    refine .cons_cons (fun _ => rfl) (List.isChain_cons.mpr
      ⟨fun c begins blank => ?_, tight.others⟩)
    exact absurd blank (Bool.eq_false_iff.mp (tight.first c begins))

mutual

theorem isTight_print : (type : TypeExpr) → {source rest : List Char} →
    Derives type source rest → IsTight type.print.toList
  | .named _ _, _, _, derivation => by
      refine .of_solid fun c member => ?_
      cases derivation with
      | any blank =>
          have solid : anyMarkText.toList.any Text.isBlank = false := by decide
          exact Bool.eq_false_iff.mpr (List.any_eq_false.mp solid c member)
      | plain blank named pointless =>
          rw [print_plain] at member
          exact isBlank_of_isNameChar (named.chars c member)
      | qualified blank named pointless =>
          have inside := (print_qualified_suffix _ _).subset member
          exact isBlank_of_isNameChar (named.chars c inside)
  | .pointer elem, _, _, derivation => by
      cases derivation with
      | pointer blank own =>
          have mark : IsTight ['*'] := .of_mark (by decide)
          rw [print_pointer]
          exact mark.append (isTight_print elem own)
  | .sequence elem, _, _, derivation => by
      cases derivation with
      | sequence blank own =>
          have mark : IsTight ['[', ']'] := .of_mark (by decide)
          rw [print_sequence]
          exact mark.append (isTight_print elem own)
  | .mapping key value, _, _, derivation => by
      cases derivation with
      | mapping blank first gapBlank second =>
          have mark : IsTight mapMark := .of_mark (by decide)
          have closing : IsTight [']'] := .of_mark (by decide)
          have afterKey := closing.append (isTight_print value second)
          rw [print_mapping]
          exact mark.append ((isTight_print key first).append afterKey)
  | .generic _ args, _, _, derivation => by
      cases derivation with
      | generic blank named gapBlank own =>
          have opening : IsTight ['['] := .of_mark (by decide)
          have closing : IsTight [']'] := .of_mark (by decide)
          have name := IsTight.of_solid fun c member => isBlank_of_isNameChar (named.chars c member)
          rw [print_generic]
          exact name.append (opening.append ((isTight_printedArgs args own).append closing))

theorem isTight_printedArgs : (args : List TypeExpr) → {source rest : List Char} →
    DerivesArgs args source rest → IsTight (printedArgs args)
  | [], _, _, derivation => by cases derivation
  | arg :: args, _, _, derivation => by
      cases derivation with
      | last own gapBlank =>
          rw [printedArgs_last]
          exact isTight_print arg own
      | more own gapBlank others =>
          rw [printedArgs_more arg others.ne_nil]
          exact (isTight_print arg own).append (isTight_printedArgs args others).comma

end

/-! ## The exact condition -/

theorem parse_print_iff {text : String} {type : TypeExpr} (parsed : parse text = .ok type) :
    parse type.print = .ok type ↔ IsFaithful type.nodes := by
  rcases parse_eq_ok_iff.mp parsed with ⟨trailing, -, derivation⟩
  constructor
  · intro again
    rcases parse_eq_ok_iff.mp again with ⟨rest, -, ofPrint⟩
    intro node member
    constructor
    · rintro args rfl
      rcases hasGap_of_mem_nodes type ofPrint member with ⟨blank, isBlank, here⟩
      have tight := List.IsChain.infix (isTight_print type derivation).others here
      rcases List.isChain_cons_cons.mp tight with ⟨onlyComma, -⟩
      exact absurd (onlyComma isBlank) (by decide)
    · rintro rfl
      have length := nameLength_print_le type ofPrint
      have void : 0 < type.nodes.countP isVoid := List.countP_pos_iff.mpr ⟨_, member, rfl⟩
      omega
  · intro faithful
    have nothing : IsStop [] := nofun
    have own := derives_print type derivation faithful nothing
    rw [List.append_nil] at own
    exact parse_eq_ok_iff.mpr ⟨[], List.forall_mem_nil _, own⟩

/-- Printing undoes reading for exactly the types without a generic type named `map` and without a
name with nothing in it.  Two such types that are read from texts are printed differently. -/
theorem parse_print (text : String) (type : TypeExpr) (parsed : parse text = .ok type) :
    (parse type.print = .ok type ↔ IsFaithful type.nodes) ∧
      ∀ otherText other, parse otherText = .ok other →
        IsFaithful type.nodes → IsFaithful other.nodes → type.print = other.print →
          type = other := by
  refine ⟨parse_print_iff parsed, ?_⟩
  intro otherText other otherParsed faithful otherFaithful same
  have own := (parse_print_iff parsed).mpr faithful
  have others := (parse_print_iff otherParsed).mpr otherFaithful
  rw [same] at own
  exact Except.ok.inj (own.symm.trans others)

/-- What `map [K]`, with white space in front of the bracket, is a notation of. -/
def spacedMap : TypeExpr :=
  .generic "map" [.named "K" ""]

theorem isNotation_spacedMap :
    IsNotation spacedMap (String.ofList ['m', 'a', 'p', ' ', '[', 'K', ']']) := by
  have none : IsBlankRun [] := by decide
  have key : Derives (.named "K" "") ['K', ']'] [']'] :=
    .plain none (show IsNameBefore ['K'] [']'] by decide) (by decide)
  have args : DerivesArgs [.named "K" ""] ['K', ']'] [] :=
    .last (show Derives _ _ ([] ++ ']' :: []) from key) none
  refine ⟨[], none, ?_⟩
  rw [String.toList_ofList]
  exact .generic none (show IsNameBefore ['m', 'a', 'p'] ([' '] ++ '[' :: ['K', ']']) by decide)
    (by decide) args

theorem parse_print_spacedType :
    (parse (String.ofList spacedText) = .ok spacedType ∧
      parse spacedType.print = .ok spacedType) ∧
    parse (String.ofList ['m', 'a', 'p', ' ', '[', 'K', ']']) = .ok spacedMap ∧
      parse spacedMap.print ≠ .ok spacedMap := by
  have parsed := parse_eq_ok_iff.mpr isNotation_spacedText
  have parsedMap := parse_eq_ok_iff.mpr isNotation_spacedMap
  refine ⟨⟨parsed, ?_⟩, parsedMap, ?_⟩
  · refine (parse_print _ spacedType parsed).1.mpr ?_
    simp [IsFaithful, spacedType, nodes, nodesAll]
  · intro again
    have faithful := (parse_print _ spacedMap parsedMap).1.mp again
    exact (faithful spacedMap List.mem_cons_self).1 _ rfl

end WireSchema.TypeExpr
