import WireSchema.Proofs.Schema.AliasLookup
import WireSchema.Proofs.Schema.References
import WireSchema.Proofs.Schema.Substitution

namespace WireSchema

/-!
# Templates that refer to themselves

A template may have fields of its own type, instantiated with its own parameters.  In an alias the
parameters give way to the arguments of the alias, so that such a field has the very type that the
alias stands for, and the table of aliases gives it the name of the alias.  Pointers and sequences
around the type stay where they are and are looked through.
-/

open Asked

namespace TypeExpr

/-! ## Parameters and their arguments -/

/-- Parameters are instantiated with the arguments in their places when no two have the same name.
The induction leaves pairs behind it, which stand in front of the ones to come. -/
theorem forall₂_instantiates_parameters (before : List (Value × TypeExpr))
    {parameters : List String}
    {args : List TypeExpr} (distinct : parameters.Nodup)
    (count : args.length = parameters.length) :
    List.Forall₂ (Instantiates (before ++ (parameters.map Value.text).zip args))
      (parameters.map (named · "")) args := by
  induction parameters generalizing before args with
  | nil =>
      rw [List.length_eq_zero_iff.mp count]
      exact .nil
  | cons parameter parameters ih =>
      cases args with
      | nil => cases count
      | cons arg args =>
          rcases List.nodup_cons.mp distinct with ⟨alone, others⟩
          rw [List.map_cons, List.map_cons, List.zip_cons_cons]
          refine .cons (.parameter ⟨before, _, rfl, fun later member => ?_⟩) ?_
          · intro same
            rcases List.mem_map.mp (List.of_mem_zip member).1 with ⟨name, among, named⟩
            rw [← named, Value.text.injEq] at same
            exact alone (same ▸ among)
          · have rest := ih (before ++ [(.text parameter, arg)]) others (Nat.succ.inj count)
            rwa [List.append_assoc, List.singleton_append] at rest

theorem substituteAll_parameters {parameters : List String} {args : List TypeExpr}
    (distinct : parameters.Nodup) (count : args.length = parameters.length) :
    substituteAll (setKeys ((parameters.map Value.text).zip args)) (parameters.map (named · "")) =
      args :=
  (forall₂_instantiates_iff.mp (forall₂_instantiates_parameters [] distinct count)).symm

/-! ## Pointers and sequences -/

/-- A sequence of instantiations is no sequence of bytes. -/
theorem isByteSequence_of_unwrap {name : String} {params : List TypeExpr} {elem : TypeExpr}
    (inside : elem.unwrap = generic name params) : (sequence elem).isByteSequence = false := by
  cases elem with
  | named other package => cases inside
  | pointer | sequence | mapping | generic => rfl

/-- Pointers and sequences around an instantiation stay when names are replaced in it. -/
theorem unwrap_substitute (bindings : Bindings) {name : String} {params : List TypeExpr}
    {type : TypeExpr} (inside : type.unwrap = generic name params) :
    (type.substitute bindings).unwrap = generic name (substituteAll bindings params) := by
  fun_induction unwrap type with
  | case1 elem ih => rw [substitute, unwrap, ih inside]
  | case2 elem bytes => cases inside
  | case3 elem other ih =>
      have own := ih inside
      rw [substitute, unwrap, if_neg (Bool.eq_false_iff.mp (isByteSequence_of_unwrap own)), own]
  | case4 type notPointer notSequence =>
      rw [inside, substitute]
      rfl

end TypeExpr

namespace Model

/-! ## Fields of an alias -/

/-- The types of all fields and the arguments of all aliases are types that are
read.  For those, equal notations mean equal types, so an alias is found by its
notation. -/
structure HasWrittenTypes (model : Model) : Prop where
  fields : ∀ composite ∈ model.composites, ∀ field ∈ composite.fields, field.type.IsWritten
  args : model.HasWrittenArgs

variable {model : Model} {template aliased : Composite} {parameters : List String}

/-- Texts can be the keys of a binding. -/
theorem bindArguments_of_text (declared : template.typeParams = parameters.map Value.text) :
    bindArguments template aliased =
      .ok (setKeys ((parameters.map Value.text).zip aliased.aliasArgs)) := by
  have keys : (Value.askKeys (((parameters.map Value.text).zip aliased.aliasArgs).map
      (·.1))).Succeeds := by
    refine succeeds_mapM fun key member => ?_
    rcases List.mem_map.mp member with ⟨pair, among, rfl⟩
    rcases List.mem_map.mp (List.of_mem_zip among).1 with ⟨name, -, named⟩
    rw [← named]
    exact succeeds_ok _
  rcases keys with ⟨_, asked⟩
  rw [bindArguments, declared, asked]
  rfl

/-- An alias without fields of its own has those of its template with arguments put in. -/
theorem resolvedFields_of_template (target : aliased.target? = some template.name)
    (found : model.composite? template.name = some template)
    (declared : template.typeParams = parameters.map Value.text)
    (inherits : aliased.fields = []) :
    model.resolvedFields aliased = .ok (template.fields.map fun field =>
      { field with
        type := field.type.substitute
          (setKeys ((parameters.map Value.text).zip aliased.aliasArgs)) }) := by
  simp only [resolvedFields, aliasBinding?, target, found, bindArguments_of_text declared, inherits,
    ok_bind, pure_eq_ok]
  rfl

/-- A template that refers to itself does so in its aliases.  In the first alias for some arguments,
which has a name and no fields of its own, every field whose type is the template with its own
parameters, inside any pointers and sequences, gets the name of the alias as its schema type. -/
theorem schemaType_resolvedFields_self (options : Options)
    (found : model.composite? template.name = some template)
    (declared : template.typeParams = parameters.map Value.text) (distinct : parameters.Nodup)
    (target : aliased.target? = some template.name)
    (alone : model.IsFirstAlias template.name.display aliased.aliasArgs aliased)
    (count : aliased.aliasArgs.length = parameters.length)
    (named : aliased.name.isTruthy = true) (inherits : aliased.fields = [])
    (written : model.HasWrittenTypes) :
    ∃ fields, model.resolvedFields aliased = .ok fields ∧
      List.Forall₂ (fun before after =>
        after = { before with type := after.type } ∧
          (before.type.unwrap = .generic template.name.display (parameters.map (.named · "")) →
            (TypeTable.ofOptions options model).schemaType after.type = .ok aliased.name))
        template.fields fields := by
  refine ⟨_, resolvedFields_of_template target found declared inherits, ?_⟩
  rw [List.forall₂_map_right_iff, List.forall₂_same]
  intro field among
  refine ⟨rfl, fun self => ?_⟩
  have own := TypeExpr.unwrap_substitute
    (setKeys ((parameters.map Value.text).zip aliased.aliasArgs)) self
  rw [TypeExpr.substituteAll_parameters distinct count] at own
  have declaredTemplate := List.mem_of_find?_eq_some found
  have unwrapped := (written.fields template declaredTemplate field among).unwrap
  rw [self] at unwrapped
  have unopened := TypeExpr.notMem_of_chars unwrapped.of_generic.1 (c := '[') (by decide)
  have ownArgs : ∀ arg ∈ aliased.aliasArgs, arg.IsWritten := by
    rcases alone.first with ⟨before, after, whole, -⟩
    exact written.args aliased (whole ▸ List.mem_append_right _ List.mem_cons_self)
  have looked := TypeTable.lookupKey?_aliasesOf_of_isFirstAlias unopened ownArgs written.args alone
  rw [← TypeTable.schemaType_unwrap, own, TypeTable.schemaType_generic_of_lookup looked,
    if_pos named]

/-- A tree with two parameters, some fields of which are trees with the same parameters. -/
def treeTemplate : Composite where
  name := .text "Tree"
  typeParams := [.text "K", .text "V"]
  fields :=
    [{ name := .text "Left", type := .pointer (.generic "Tree" [.named "K" "", .named "V" ""]) },
      { name := .text "Rows"
        type := .sequence (.pointer (.generic "Tree" [.named "K" "", .named "V" ""])) },
      { name := .text "Turned", type := .generic "Tree" [.named "V" "", .named "K" ""] }]

/-- An alias whose arguments mention the names of the parameters. -/
def indexTree : Composite where
  name := .text "IndexTree"
  isAlias := .bool true
  aliasTarget := .text "Tree"
  aliasArgs := [.pointer (.named "V" ""), .named "K" ""]

def treeModel : Model := { composites := [treeTemplate, indexTree] }

def indexTreeFields : List DeclaredField :=
  [{ name := .text "Left"
     type := .pointer (.generic "Tree" [.pointer (.named "V" ""), .named "K" ""]) },
    { name := .text "Rows"
      type := .sequence (.pointer (.generic "Tree" [.pointer (.named "V" ""), .named "K" ""])) },
    { name := .text "Turned"
      type := .generic "Tree" [.named "K" "", .pointer (.named "V" "")] }]

private theorem hasWrittenTypes_treeModel : treeModel.HasWrittenTypes := by
  have key : (TypeExpr.named "K" "").IsWritten :=
    TypeExpr.isWritten_named (by decide) (by decide) (by decide)
  have value : (TypeExpr.named "V" "").IsWritten :=
    TypeExpr.isWritten_named (by decide) (by decide) (by decide)
  have tree : ∀ first second : TypeExpr, first.IsWritten → second.IsWritten →
      (TypeExpr.generic "Tree" [first, second]).IsWritten := by
    intro first second own other
    refine TypeExpr.isWritten_generic (by decide) (by decide) (by decide) (List.cons_ne_nil _ _) ?_
    exact List.forall_mem_cons.mpr ⟨own, List.forall_mem_singleton.mpr other⟩
  have pointer := TypeExpr.isWritten_pointer (tree _ _ key value)
  refine ⟨fun composite member field among => ?_, fun composite member arg among => ?_⟩
  · rcases List.mem_pair.mp member with rfl | rfl
    · rcases List.mem_cons.mp among with rfl | among
      · exact pointer
      · rcases List.mem_pair.mp among with rfl | rfl
        · exact TypeExpr.isWritten_sequence pointer
        · exact tree _ _ value key
    · cases among
  · rcases List.mem_pair.mp member with rfl | rfl
    · cases among
    · rcases List.mem_pair.mp among with rfl | rfl
      · exact TypeExpr.isWritten_pointer value
      · exact key

/-- The fields that are trees with the same parameters refer to the alias; the one that has them the
other way round does not. -/
theorem schemaType_resolvedFields_self_indexTree :
    treeModel.HasWrittenTypes ∧
      treeModel.composite? (.text "Tree") = some treeTemplate ∧
      treeModel.IsFirstAlias "Tree" indexTree.aliasArgs indexTree ∧
      treeModel.resolvedFields indexTree = .ok indexTreeFields ∧
      indexTreeFields.map (fun field =>
          (TypeTable.ofOptions {} treeModel).schemaType field.type) =
        [.ok (.text "IndexTree"), .ok (.text "IndexTree"), .ok (.text "TreeKV")] := by
  have written := hasWrittenTypes_treeModel
  have found : treeModel.composite? (.text "Tree") = some treeTemplate := by cbv
  have alone : treeModel.IsFirstAlias "Tree" indexTree.aliasArgs indexTree := by
    refine ⟨⟨_, rfl, rfl, rfl⟩, [treeTemplate], [], rfl, List.forall_mem_singleton.mpr ?_⟩
    rintro ⟨target, isAlias, -⟩
    cases isAlias
  have resolved : treeModel.resolvedFields indexTree = .ok indexTreeFields := by cbv
  rcases @schemaType_resolvedFields_self treeModel treeTemplate indexTree ["K", "V"] {} found rfl
    (by decide) rfl alone rfl rfl rfl written with ⟨fields, resolvedAgain, each⟩
  cases resolved.symm.trans resolvedAgain
  rcases each with _ | ⟨⟨-, left⟩, _ | ⟨⟨-, rows⟩, -⟩⟩
  refine ⟨written, found, alone, resolved, ?_⟩
  have turned : (TypeTable.ofOptions {} treeModel).schemaType
      (.generic "Tree" [.named "K" "", .pointer (.named "V" "")]) = .ok (.text "TreeKV") := by cbv
  rw [indexTreeFields, List.map_cons, List.map_cons, List.map_singleton, left rfl, rows rfl, turned]
  rfl

end Model

end WireSchema
