import Mathlib
import WireSchema.Proofs.Document.Asked
import WireSchema.Proofs.Document.Table
import WireSchema.Proofs.TypeExpr.Instantiations
import WireSchema.Schema.TypeTable

namespace WireSchema

/-!
# The alias of an instantiation

The table of aliases goes by notations: an instantiation is looked up under how it is printed, and
what an alias stands for is printed too.  Neither is ever read back.  The look-up still finds what a
comparison of types would find, the first alias declared for the template with these arguments,
since the notation of an instantiation tells its template and its arguments.  Nothing is assumed of
the names of templates in aliases, which may be any texts.
-/

open Asked

/-- A composite type is an alias for the template of a name with certain arguments. -/
def Composite.IsAliasOf (composite : Composite) (name : String) (args : List TypeExpr) : Prop :=
  ∃ target, composite.target? = some target ∧ target.display = name ∧ composite.aliasArgs = args

/-- The first alias that a model declares for the template of a name with
certain arguments.  Later ones are messages too, but no instantiation is written
as one of them. -/
structure Model.IsFirstAlias (model : Model) (name : String) (args : List TypeExpr)
    (aliased : Composite) : Prop where
  own : aliased.IsAliasOf name args
  first : ∃ before after, model.composites = before ++ aliased :: after ∧
    ∀ earlier ∈ before, ¬earlier.IsAliasOf name args

/-- The arguments of all aliases are types that are read.  Instantiations are
compared by their notation, which is the same for some types that no text stands
for. -/
def Model.HasWrittenArgs (model : Model) : Prop :=
  ∀ composite ∈ model.composites, ∀ arg ∈ composite.aliasArgs, arg.IsWritten

namespace TypeTable

variable {composites : List Composite} {name : String} {args : List TypeExpr}

theorem aliasesOf_append (before after : List Composite) :
    aliasesOf (before ++ after) = aliasesOf before ++ aliasesOf after :=
  List.filterMap_append

/-- Nothing is found under the notation of an instantiation that no alias stands for. -/
theorem lookupKey?_aliasesOf_eq_none (unopened : '[' ∉ name.toList)
    (written : ∀ arg ∈ args, arg.IsWritten)
    (aliasArgs : ∀ composite ∈ composites, ∀ arg ∈ composite.aliasArgs, arg.IsWritten)
    (none : ∀ composite ∈ composites, ¬composite.IsAliasOf name args) :
    lookupKey? (TypeExpr.generic name args).print (aliasesOf composites) = .none := by
  rw [lookupKey?, Option.map_eq_none_iff, List.find?_eq_none]
  intro entry member found
  rcases List.mem_filterMap.mp member with ⟨composite, declared, stands⟩
  rcases Option.map_eq_some_iff.mp stands with ⟨target, isAlias, rfl⟩
  have parts := TypeExpr.eq_of_print_generic_eq unopened written (aliasArgs composite declared)
    (beq_iff_eq.mp found)
  exact none composite declared ⟨target, isAlias, parts⟩

theorem lookupKey?_aliasesOf_cons {aliased : Composite} (own : aliased.IsAliasOf name args)
    (after : List Composite) :
    lookupKey? (TypeExpr.generic name args).print (aliasesOf (aliased :: after)) =
      some aliased.name := by
  rcases own with ⟨target, isAlias, rfl, rfl⟩
  have entry : aliasesOf (aliased :: after) =
      ((TypeExpr.generic target.display aliased.aliasArgs).print, aliased.name)
        :: aliasesOf after := by
    rw [aliasesOf, List.filterMap_cons, isAlias]
    rfl
  simp [entry, lookupKey?]

/-- What is found under the notation of an instantiation is the name of the first alias for it. -/
theorem lookupKey?_aliasesOf_of_isFirstAlias {model : Model} {aliased : Composite}
    (unopened : '[' ∉ name.toList) (written : ∀ arg ∈ args, arg.IsWritten)
    (aliasArgs : model.HasWrittenArgs) (alone : model.IsFirstAlias name args aliased) :
    lookupKey? (TypeExpr.generic name args).print (aliasesOf model.composites) =
      some aliased.name := by
  rcases alone with ⟨own, before, after, declared, others⟩
  have earlier : lookupKey? (TypeExpr.generic name args).print (aliasesOf before) = none := by
    refine lookupKey?_aliasesOf_eq_none unopened written (fun composite member => ?_) others
    exact aliasArgs composite (declared ▸ List.mem_append_left _ member)
  rw [declared, aliasesOf_append, lookupKey?_append, earlier, lookupKey?_aliasesOf_cons own]
  rfl

/-! ## The schema type of an instantiation -/

variable {table : TypeTable}

/-- The name that is composed from that of a template and the schema types of
arguments.  Of each schema type only the part behind the last point is taken, so
that packages do not show. -/
def composedName (table : TypeTable) (name : String) (args : List TypeExpr) : Asked Value := do
  let parts ← args.mapM fun arg => do
    return Text.toPascalCase (Text.afterLast '.' (← (← table.schemaType arg).askText))
  return .text (name ++ String.join parts)

theorem argumentNames_eq (table : TypeTable) (args : List TypeExpr) :
    table.argumentNames args = (do
      let parts ← args.mapM fun arg => do
        return Text.toPascalCase (Text.afterLast '.' (← (← table.schemaType arg).askText))
      return String.join parts) := by
  induction args with
  | nil =>
      rw [argumentNames]
      rfl
  | cons arg args ih =>
      rw [argumentNames, List.mapM_cons, ih]
      simp only [argumentName, bind_assoc, pure_bind, String.join_cons]

theorem schemaType_generic_of_aliasFor?_eq_none
    (unnamed : table.aliasFor? (.generic name args) = none) :
    table.schemaType (.generic name args) = table.composedName name args := by
  rw [schemaType, unnamed, composedName]
  simp only [argumentNames_eq, bind_assoc, pure_bind]

theorem schemaType_generic_of_lookup {aliasName : Value}
    (found : lookupKey? (TypeExpr.generic name args).print table.aliases = some aliasName) :
    table.schemaType (.generic name args) =
      if aliasName.isTruthy then .ok aliasName else table.composedName name args := by
  by_cases named : aliasName.isTruthy = true
  · have aliasFor : table.aliasFor? (.generic name args) = some aliasName := by
      rw [aliasFor?, found, Option.filter_some, if_pos named]
    rw [schemaType, aliasFor, if_pos named]
  · have unnamed : table.aliasFor? (.generic name args) = none := by
      rw [aliasFor?, found, Option.filter_some, if_neg named]
    rw [schemaType_generic_of_aliasFor?_eq_none unnamed, if_neg named]

/-- The schema type of an instantiation is the name of the first alias for its template and its
arguments, compared as types.  Without such an alias, or when the first one has no name, it is the
composed name. -/
theorem schemaType_generic_exact (options : Options) {model : Model}
    (aliasArgs : model.HasWrittenArgs) (written : (TypeExpr.generic name args).IsWritten) :
    (∀ aliased, model.IsFirstAlias name args aliased →
      (ofOptions options model).schemaType (.generic name args) =
        if aliased.name.isTruthy then .ok aliased.name
        else (ofOptions options model).composedName name args) ∧
    ((∀ composite ∈ model.composites, ¬composite.IsAliasOf name args) →
      (ofOptions options model).schemaType (.generic name args) =
        (ofOptions options model).composedName name args) := by
  rcases written.of_generic with ⟨chars, each⟩
  have unopened := TypeExpr.notMem_of_chars chars (c := '[') (by decide)
  constructor
  · intro aliased alone
    exact schemaType_generic_of_lookup
      (lookupKey?_aliasesOf_of_isFirstAlias unopened each aliasArgs alone)
  · intro none
    have unfound : (ofOptions options model).aliasFor? (.generic name args) = .none := by
      rw [aliasFor?, ofOptions, lookupKey?_aliasesOf_eq_none unopened each aliasArgs none]
      rfl
    exact schemaType_generic_of_aliasFor?_eq_none unfound

def pairArg : TypeExpr :=
  .generic "Pair" [.named "A" "", .pointer (.named "B" "")]

/-- Two aliases for one instantiation, and one that has no name. -/
def aliasedModel : Model :=
  { composites :=
      [{ name := .text "PairPage", isAlias := .bool true, aliasTarget := .text "Page"
         aliasArgs := [pairArg] },
        { name := .text "OtherPage", isAlias := .bool true, aliasTarget := .text "Page"
          aliasArgs := [pairArg] },
        { name := .text "", isAlias := .bool true, aliasTarget := .text "Box"
          aliasArgs := [.named "A" ""] }] }

private theorem isWritten_letter {name : String} (letter : name = "A" ∨ name = "B") :
    (TypeExpr.named name "").IsWritten := by
  rcases letter with rfl | rfl
  · exact TypeExpr.isWritten_named (by decide) (by decide) (by decide)
  · exact TypeExpr.isWritten_named (by decide) (by decide) (by decide)

private theorem isWritten_pairArg : pairArg.IsWritten := by
  refine TypeExpr.isWritten_generic (by decide) (by decide) (by decide) (List.cons_ne_nil _ _) ?_
  refine List.forall_mem_cons.mpr ⟨isWritten_letter (.inl rfl), ?_⟩
  exact List.forall_mem_singleton.mpr (TypeExpr.isWritten_pointer (isWritten_letter (.inr rfl)))

private theorem hasWrittenArgs_aliasedModel : aliasedModel.HasWrittenArgs := by
  have pair := List.forall_mem_singleton.mpr isWritten_pairArg
  refine List.forall_mem_cons.mpr ⟨pair, List.forall_mem_cons.mpr ⟨pair, ?_⟩⟩
  exact List.forall_mem_singleton.mpr
    (List.forall_mem_singleton.mpr (isWritten_letter (.inl rfl)))

/-- The first of two aliases counts, an alias without a name does not, and the arguments have to be
those of the alias. -/
theorem schemaType_generic_exact_aliasedModel :
    aliasedModel.HasWrittenArgs ∧ (TypeExpr.generic "Page" [pairArg]).IsWritten ∧
      (ofOptions {} aliasedModel).schemaType (.generic "Page" [pairArg]) = .ok (.text "PairPage") ∧
      (ofOptions {} aliasedModel).schemaType (.generic "Box" [.named "A" ""]) =
        .ok (.text "BoxA") ∧
      (ofOptions {} aliasedModel).schemaType (.generic "Page" [.named "A" ""]) =
        .ok (.text "PageA") := by
  have aliasArgs := hasWrittenArgs_aliasedModel
  have letter : (TypeExpr.named "A" "").IsWritten := isWritten_letter (.inl rfl)
  have page : ∀ arg : TypeExpr, arg.IsWritten → (TypeExpr.generic "Page" [arg]).IsWritten :=
    fun arg written => TypeExpr.isWritten_generic (by decide) (by decide) (by decide)
      (List.cons_ne_nil _ _) (List.forall_mem_singleton.mpr written)
  have box : (TypeExpr.generic "Box" [.named "A" ""]).IsWritten :=
    TypeExpr.isWritten_generic (by decide) (by decide) (by decide)
      (List.cons_ne_nil _ _) (List.forall_mem_singleton.mpr letter)
  refine ⟨aliasArgs, page pairArg isWritten_pairArg, ?_, ?_, ?_⟩
  · have exactly := schemaType_generic_exact {} aliasArgs (page pairArg isWritten_pairArg)
    exact exactly.1 _ ⟨⟨_, rfl, rfl, rfl⟩, [], _, rfl, List.forall_mem_nil _⟩
  · have exactly := schemaType_generic_exact {} aliasArgs box
    have composed : (ofOptions {} aliasedModel).composedName "Box" [.named "A" ""] =
        .ok (.text "BoxA") := by cbv
    rw [exactly.1 _ ⟨⟨_, rfl, rfl, rfl⟩, aliasedModel.composites.take 2, [], rfl, ?_⟩]
    · exact composed
    · intro earlier member
      have target : earlier.target? = some (.text "Page") := by
        rcases List.mem_pair.mp member with rfl | rfl <;> rfl
      rintro ⟨other, isAlias, named, -⟩
      cases target.symm.trans isAlias
      exact absurd named (by decide)
  · have exactly := schemaType_generic_exact {} aliasArgs (page (.named "A" "") letter)
    rw [exactly.2 ?_]
    · cbv
    · rintro composite member ⟨target, isAlias, named, args⟩
      rcases List.mem_cons.mp member with rfl | member
      · cases args
      · rcases List.mem_pair.mp member with rfl | rfl
        · cases args
        · cases isAlias
          exact absurd named (by decide)

end TypeTable

end WireSchema
