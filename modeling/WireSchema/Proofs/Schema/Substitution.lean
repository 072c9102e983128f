import Mathlib.Data.List.Forall2
import WireSchema.Proofs.Document.Table
import WireSchema.Proofs.Schema.Outcome
import WireSchema.Schema.Alias

namespace WireSchema

/-!
# What it is to put arguments in for parameters

An alias gives arguments in the places of the parameters of its template.  A type is instantiated
with them by replacing each name that is the name of a parameter, wherever it stands and as long as
it has no package, and by changing nothing else; of several parameters of one name the last one
counts.  This is said here as a relation between types, rule by rule, and the replacement that the
library computes is the only one that obeys the rules.
-/

open Asked

/-! ## The argument of a parameter -/

/-- A name is that of a parameter with an argument, and no later parameter has
this name.  Where parameters repeat, the last one counts. -/
def Gives (pairs : List (Value × TypeExpr)) (name : String) (arg : TypeExpr) : Prop :=
  ∃ before after, pairs = before ++ (.text name, arg) :: after ∧
    ∀ later ∈ after, later.1 ≠ .text name

section Pairs

variable {pairs : List (Value × TypeExpr)} {name : String}

theorem lookupKey?_setKeys_of_gives {arg : TypeExpr} (given : Gives pairs name arg) :
    lookupKey? (.text name) (setKeys pairs) = some arg := by
  rcases given with ⟨before, after, rfl, last⟩
  exact lookupKey?_setKeys_of_last last

/-- A name is that of a parameter with an argument or of none. -/
theorem gives_or_forall_ne (pairs : List (Value × TypeExpr)) (name : String) :
    (∃ arg, Gives pairs name arg) ∨ ∀ pair ∈ pairs, pair.1 ≠ .text name := by
  induction pairs with
  | nil => exact .inr (List.forall_mem_nil _)
  | cons pair pairs ih =>
      rcases ih with ⟨arg, before, after, rfl, last⟩ | none
      · exact .inl ⟨arg, pair :: before, after, rfl, last⟩
      · by_cases own : pair.1 = .text name
        · exact .inl ⟨pair.2, [], pairs, by rw [← own]; rfl, none⟩
        · exact .inr (List.forall_mem_cons.mpr ⟨own, none⟩)

end Pairs

/-! ## Types -/

namespace TypeExpr

/-- A type is another one with arguments put in for parameters.  An argument is
put in as it is: its own names are not looked at again, even where they are
names of parameters. -/
inductive Instantiates (pairs : List (Value × TypeExpr)) : TypeExpr → TypeExpr → Prop where
  | parameter {name : String} {arg : TypeExpr} (given : Gives pairs name arg) :
      Instantiates pairs (.named name "") arg
  | free {name : String} (other : ∀ pair ∈ pairs, pair.1 ≠ .text name) :
      Instantiates pairs (.named name "") (.named name "")
  | qualified {name package : String} (present : package ≠ "") :
      Instantiates pairs (.named name package) (.named name package)
  | pointer {elem inner : TypeExpr} (elems : Instantiates pairs elem inner) :
      Instantiates pairs (.pointer elem) (.pointer inner)
  | sequence {elem inner : TypeExpr} (elems : Instantiates pairs elem inner) :
      Instantiates pairs (.sequence elem) (.sequence inner)
  | mapping {key value newKey newValue : TypeExpr} (keys : Instantiates pairs key newKey)
      (values : Instantiates pairs value newValue) :
      Instantiates pairs (.mapping key value) (.mapping newKey newValue)
  | generic {name : String} {args others : List TypeExpr}
      (each : List.Forall₂ (Instantiates pairs) args others) :
      Instantiates pairs (.generic name args) (.generic name others)

variable {pairs : List (Value × TypeExpr)}

theorem instantiates_named_iff {name package : String} {other : TypeExpr} :
    Instantiates pairs (.named name package) other ↔
      other = (named name package).substitute (setKeys pairs) := by
  rw [substitute]
  constructor
  · intro rule
    cases rule with
    | parameter given => rw [if_pos rfl, lookupKey?_setKeys_of_gives given, Option.getD_some]
    | free others => rw [if_pos rfl, lookupKey?_setKeys_of_forall_ne others, Option.getD_none]
    | qualified present => rw [if_neg present]
  · rintro rfl
    by_cases plain : package = ""
    · subst plain
      rw [if_pos rfl]
      rcases gives_or_forall_ne pairs name with ⟨arg, given⟩ | others
      · rw [lookupKey?_setKeys_of_gives given, Option.getD_some]
        exact .parameter given
      · rw [lookupKey?_setKeys_of_forall_ne others, Option.getD_none]
        exact .free others
    · rw [if_neg plain]
      exact .qualified plain

mutual

theorem instantiates_iff : ∀ {type other : TypeExpr},
    Instantiates pairs type other ↔ other = type.substitute (setKeys pairs)
  | .named name package, other => instantiates_named_iff
  | .pointer elem, other => by
      rw [substitute]
      constructor
      · rintro ⟨⟩
        rename_i elems
        rw [instantiates_iff.mp elems]
      · rintro rfl
        exact .pointer (instantiates_iff.mpr rfl)
  | .sequence elem, other => by
      rw [substitute]
      constructor
      · rintro ⟨⟩
        rename_i elems
        rw [instantiates_iff.mp elems]
      · rintro rfl
        exact .sequence (instantiates_iff.mpr rfl)
  | .mapping key value, other => by
      rw [substitute]
      constructor
      · rintro ⟨⟩
        rename_i keys values
        rw [instantiates_iff.mp keys, instantiates_iff.mp values]
      · rintro rfl
        exact .mapping (instantiates_iff.mpr rfl) (instantiates_iff.mpr rfl)
  | .generic name args, other => by
      rw [substitute]
      constructor
      · rintro ⟨⟩
        rename_i each
        rw [forall₂_instantiates_iff.mp each]
      · rintro rfl
        exact .generic (forall₂_instantiates_iff.mpr rfl)

theorem forall₂_instantiates_iff : ∀ {args others : List TypeExpr},
    List.Forall₂ (Instantiates pairs) args others ↔ others = substituteAll (setKeys pairs) args
  | [], others => by rw [substituteAll, List.forall₂_nil_left_iff]
  | arg :: args, others => by
      rw [substituteAll, List.forall₂_cons_left_iff]
      constructor
      · rintro ⟨first, rest, own, each, rfl⟩
        rw [instantiates_iff.mp own, forall₂_instantiates_iff.mp each]
      · rintro rfl
        exact ⟨_, _, instantiates_iff.mpr rfl, forall₂_instantiates_iff.mpr rfl, rfl⟩

end

end TypeExpr

/-! ## Fields of an alias -/

/-- A field is another one whose type has arguments put in for parameters.  Its
name, tag and annotations are those of the template. -/
def DeclaredField.Instantiates (pairs : List (Value × TypeExpr)) (declared field : DeclaredField) :
    Prop :=
  ∃ type, declared.type.Instantiates pairs type ∧ field = { declared with type }

theorem DeclaredField.instantiates_iff {pairs : List (Value × TypeExpr)}
    {declared field : DeclaredField} :
    declared.Instantiates pairs field ↔
      field = { declared with type := declared.type.substitute (setKeys pairs) } := by
  simp only [Instantiates, TypeExpr.instantiates_iff, exists_eq_left]

/-- The fields of an alias are its own, or those of its template when it has none, with its
arguments in the places of the parameters. -/
theorem Model.resolvedFields_alias {model : Model} {aliased template : Composite} {target : Value}
    {fields : List DeclaredField} (isAlias : aliased.target? = some target)
    (found : model.composite? target = some template)
    (binds : (bindArguments template aliased).Succeeds)
    (instantiated : List.Forall₂
      (DeclaredField.Instantiates (template.typeParams.zip aliased.aliasArgs))
      (if aliased.fields.isEmpty then template.fields else aliased.fields) fields) :
    model.resolvedFields aliased = .ok fields := by
  rcases binds with ⟨bindings, bound⟩
  have given : bindings = setKeys (template.typeParams.zip aliased.aliasArgs) := by
    rcases bind_eq_ok_iff.mp bound with ⟨_, _, final⟩
    exact (Except.ok.inj final).symm
  have computed : fields = (if aliased.fields.isEmpty then template.fields else aliased.fields).map
      fun field => { field with type := field.type.substitute bindings } := by
    rw [given]
    generalize (if aliased.fields.isEmpty then template.fields else aliased.fields) = declared
      at instantiated ⊢
    induction instantiated with
    | nil => rfl
    | cons first _ ih => rw [List.map_cons, ih, DeclaredField.instantiates_iff.mp first]
  rw [resolvedFields, aliasBinding?, isAlias, computed]
  simp only [found, bound, ok_bind, pure_eq_ok]
  rfl

end WireSchema
