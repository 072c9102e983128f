import Mathlib.Logic.Equiv.Basic
import WireSchema.Proofs.Document.Table
import WireSchema.Schema.Alias

namespace WireSchema

/-!
# One replacement after another

Names in a type are replaced all at once: what is put in for a name is not looked at again.  So two
replacements in a row are one replacement, by a binding that puts in for each name of the first
binding what the second one makes of it.  Only unqualified names that stand for a type by themselves
are ever read; these are the parameters of a type.  The head of a generic type is none of them, nor
is a name with a package.
-/

namespace TypeExpr

mutual

/-- The unqualified names that stand for types inside a type, in order.  The head
of a generic type is none of them, as nothing is ever put in for it. -/
def parameters : TypeExpr → List String
  | named name package => if package = "" then [name] else []
  | pointer elem => parameters elem
  | sequence elem => parameters elem
  | mapping key value => parameters key ++ parameters value
  | generic _ args => parametersOfAll args

def parametersOfAll : List TypeExpr → List String
  | [] => []
  | arg :: args => parameters arg ++ parametersOfAll args

end

theorem substituteAll_eq_map (bindings : Bindings) (args : List TypeExpr) :
    substituteAll bindings args = args.map (substitute bindings) := by
  induction args with
  | nil => rfl
  | cons arg args ih => rw [substituteAll, ih, List.map_cons]

namespace Bindings

/-- What a binding puts in for a name: the name itself when it is not bound.  So
a binding acts on every name, and two of them compose as functions do. -/
def image (bindings : Bindings) (name : String) : TypeExpr :=
  (lookupKey? (.text name) bindings).getD (named name "")

theorem image_eq_named {bindings : Bindings} {name : String}
    (free : lookupKey? (.text name) bindings = none) : bindings.image name = named name "" := by
  rw [image, free, Option.getD_none]

theorem image_nil (name : String) : image [] name = named name "" := rfl

end Bindings

variable {first second both : Bindings}

theorem substitute_named_plain (bindings : Bindings) (name : String) :
    (named name "").substitute bindings = bindings.image name := by
  rw [substitute, if_pos rfl, Bindings.image]

theorem substitute_named_qualified (bindings : Bindings) (name : String) {package : String}
    (present : package ≠ "") : (named name package).substitute bindings = named name package := by
  rw [substitute, if_neg present]

/-! ## What is put in -/

mutual

/-- Two replacements are one when its binding puts in for each parameter what the second one makes
of what the first one puts in. -/
theorem substitute_substitute_of_image : ∀ {type : TypeExpr},
    (∀ name ∈ type.parameters, (first.image name).substitute second = both.image name) →
      (type.substitute first).substitute second = type.substitute both
  | .named name package, images => by
      by_cases plain : package = ""
      · subst plain
        rw [substitute_named_plain, substitute_named_plain]
        exact images name (by simp [parameters])
      · rw [substitute_named_qualified first name plain,
          substitute_named_qualified second name plain, substitute_named_qualified both name plain]
  | .pointer elem, images => by
      rw [parameters] at images
      rw [substitute, substitute, substitute, substitute_substitute_of_image images]
  | .sequence elem, images => by
      rw [parameters] at images
      rw [substitute, substitute, substitute, substitute_substitute_of_image images]
  | .mapping key value, images => by
      rw [parameters, List.forall_mem_append] at images
      rw [substitute, substitute, substitute, substitute_substitute_of_image images.1,
        substitute_substitute_of_image images.2]
  | .generic name args, images => by
      rw [substitute, substitute, substitute, substituteAll_substituteAll_of_image images]

theorem substituteAll_substituteAll_of_image : ∀ {args : List TypeExpr},
    (∀ name ∈ parametersOfAll args, (first.image name).substitute second = both.image name) →
      substituteAll second (substituteAll first args) = substituteAll both args
  | [], _ => rfl
  | arg :: args, images => by
      rw [parametersOfAll, List.forall_mem_append] at images
      rw [substituteAll, substituteAll, substituteAll, substitute_substitute_of_image images.1,
        substituteAll_substituteAll_of_image images.2]

end

mutual

/-- A binding without names replaces nothing. -/
theorem substitute_nil : ∀ type : TypeExpr, type.substitute [] = type
  | .named name package => by
      rw [substitute]
      split
      · rfl
      · rfl
  | .pointer elem => by rw [substitute, substitute_nil elem]
  | .sequence elem => by rw [substitute, substitute_nil elem]
  | .mapping key value => by rw [substitute, substitute_nil key, substitute_nil value]
  | .generic name args => by rw [substitute, substituteAll_nil args]

theorem substituteAll_nil : ∀ args : List TypeExpr, substituteAll [] args = args
  | [] => rfl
  | arg :: args => by rw [substituteAll, substitute_nil arg, substituteAll_nil args]

end

/-- A replacement reads nothing of a binding but what it puts in for parameters. -/
theorem substitute_congr {type : TypeExpr}
    (images : ∀ name ∈ type.parameters, first.image name = second.image name) :
    type.substitute first = type.substitute second := by
  rw [← substitute_nil (type.substitute first)]
  apply substitute_substitute_of_image
  intro name member
  rw [substitute_nil, images name member]

theorem substitute_eq_self {type : TypeExpr}
    (free : ∀ name ∈ type.parameters, lookupKey? (.text name) first = none) :
    type.substitute first = type := by
  have images : ∀ name ∈ type.parameters, first.image name = Bindings.image [] name := by
    intro name member
    rw [Bindings.image_eq_named (free name member), Bindings.image_nil]
  rw [substitute_congr images, substitute_nil]

mutual

/-- Every parameter makes way, where it stands, for the parameters of what is put in. -/
theorem parameters_substitute (bindings : Bindings) : ∀ type : TypeExpr,
    (type.substitute bindings).parameters =
      type.parameters.flatMap fun name => (bindings.image name).parameters
  | .named name package => by
      by_cases plain : package = ""
      · subst plain
        rw [substitute_named_plain, parameters, if_pos rfl, List.flatMap_singleton]
      · rw [substitute_named_qualified bindings name plain, parameters, if_neg plain,
          List.flatMap_nil]
  | .pointer elem => parameters_substitute bindings elem
  | .sequence elem => parameters_substitute bindings elem
  | .mapping key value => by
      rw [substitute, parameters, parameters, parameters_substitute bindings key,
        parameters_substitute bindings value, List.flatMap_append]
  | .generic name args => parametersOfAll_substituteAll bindings args

theorem parametersOfAll_substituteAll (bindings : Bindings) : ∀ args : List TypeExpr,
    parametersOfAll (substituteAll bindings args) =
      (parametersOfAll args).flatMap fun name => (bindings.image name).parameters
  | [] => rfl
  | arg :: args => by
      rw [substituteAll, parametersOfAll, parametersOfAll, parameters_substitute bindings arg,
        parametersOfAll_substituteAll bindings args, List.flatMap_append]

end

/-! ## Bindings in a row -/

namespace Bindings

/-- The binding that does the work of two in a row: it has the names of the first one, with what the
second one makes of their types, and then the other names of the second one. -/
def andThen (first second : Bindings) : Bindings :=
  first.map (fun bound => (bound.1, bound.2.substitute second)) ++
    second.filter fun bound => !first.any (·.1 == bound.1)

theorem lookupKey?_map_substitute (bindings second : Bindings) (key : Value) :
    lookupKey? key (bindings.map fun bound => (bound.1, bound.2.substitute second)) =
      (lookupKey? key bindings).map (substitute second) := by
  rw [lookupKey?, lookupKey?, List.find?_map, Option.map_map, Option.map_map]
  rfl

/-- A name that the first binding leaves alone is found among the others of the second one. -/
theorem lookupKey?_filter_of_free {name : String}
    (free : lookupKey? (.text name) first = none) (second : Bindings) :
    lookupKey? (.text name) (second.filter fun bound => !first.any (·.1 == bound.1)) =
      lookupKey? (.text name) second := by
  have absent : first.any (·.1 == Value.text name) = false := by
    rw [lookupKey?, Option.map_eq_none_iff, List.find?_eq_none] at free
    rw [List.any_eq_false]
    exact free
  rw [lookupKey?, lookupKey?, List.find?_filter]
  congr 2
  funext bound
  by_cases own : bound.1 = .text name
  · rw [own, absent]
    simp
  · have other : (bound.1 == Value.text name) = false :=
      Bool.eq_false_iff.mpr fun same => own (Value.beq_text_iff.mp same)
    simp [other]

theorem lookupKey?_andThen (first second : Bindings) (name : String) :
    lookupKey? (.text name) (first.andThen second) =
      ((lookupKey? (.text name) first).map (substitute second)).or
        (lookupKey? (.text name) second) := by
  rw [andThen, lookupKey?_append, lookupKey?_map_substitute]
  cases own : lookupKey? (.text name) first with
  | none => rw [lookupKey?_filter_of_free own, Option.map_none, Option.none_or]
  | some type => rfl

theorem image_andThen (first second : Bindings) (name : String) :
    (first.andThen second).image name = (first.image name).substitute second := by
  rw [image, lookupKey?_andThen]
  cases own : lookupKey? (.text name) first with
  | none => rw [image_eq_named own, substitute_named_plain, Option.map_none, Option.none_or, image]
  | some type =>
      rw [image, own, Option.map_some, Option.some_or, Option.getD_some, Option.getD_some]

/-! ## Two names for each other -/

/-- The binding that puts in each of two names for the other one. -/
def swap (name other : String) : Bindings :=
  [(.text name, named other ""), (.text other, named name "")]

theorem image_swap (name other candidate : String) :
    (swap name other).image candidate = named (Equiv.swap name other candidate) "" := by
  rw [image, swap]
  by_cases own : candidate = name
  · rw [own, lookupKey?_text_cons_self, Equiv.swap_apply_left, Option.getD_some]
  · rw [lookupKey?_text_cons_of_ne fun same => own (Value.text.inj same).symm]
    by_cases second : candidate = other
    · rw [second, lookupKey?_text_cons_self, Equiv.swap_apply_right, Option.getD_some]
    · rw [lookupKey?_text_cons_of_ne fun same => second (Value.text.inj same).symm,
        Equiv.swap_apply_of_ne_of_ne own second]
      rfl

end Bindings

theorem parameters_substitute_swap (name other : String) (type : TypeExpr) :
    (type.substitute (Bindings.swap name other)).parameters =
      type.parameters.map (Equiv.swap name other) := by
  rw [parameters_substitute, ← List.flatMap_pure_eq_map]
  congr 1
  funext candidate
  rw [Bindings.image_swap, parameters, if_pos rfl]
  rfl

/-- Two names that are put in for each other twice stand where they stood. -/
theorem substitute_swap_swap (name other : String) (type : TypeExpr) :
    (type.substitute (Bindings.swap name other)).substitute (Bindings.swap name other) = type := by
  have images : ∀ candidate ∈ type.parameters,
      ((Bindings.swap name other).image candidate).substitute (Bindings.swap name other) =
        Bindings.image [] candidate := by
    intro candidate _
    rw [Bindings.image_swap, substitute_named_plain, Bindings.image_swap, Equiv.swap_apply_self,
      Bindings.image_nil]
  rw [substitute_substitute_of_image images, substitute_nil]

/-! ## Composition -/

/-- Replacements compose.  Two of them in a row are one, by the binding that has for each name of
the first one what the second one makes of its type, and for every other name what the second one
has. A type stays as it is when no parameter of it is bound; a qualified name stays in any case, and
so does the head of a generic type.  Two names put in for each other change places in one pass,
wherever they stand, and a second pass puts them back. -/
theorem substitute_substitute (first second : Bindings) (type : TypeExpr) :
    (type.substitute first).substitute second = type.substitute (first.andThen second) ∧
      (∀ name, lookupKey? (.text name) (first.andThen second) =
        ((lookupKey? (.text name) first).map (substitute second)).or
          (lookupKey? (.text name) second)) ∧
      ((∀ name ∈ type.parameters, lookupKey? (.text name) first = none) →
        type.substitute first = type) ∧
      (∀ name package, package ≠ "" →
        (named name package).substitute first = named name package) ∧
      (∀ name args, (generic name args).substitute first =
        generic name (args.map (substitute first))) ∧
      ∀ name other,
        (type.substitute (.swap name other)).parameters =
            type.parameters.map (Equiv.swap name other) ∧
          (type.substitute (.swap name other)).substitute (.swap name other) = type := by
  refine ⟨?_, Bindings.lookupKey?_andThen first second, substitute_eq_self, ?_, ?_, ?_⟩
  · apply substitute_substitute_of_image
    intro name _
    exact (Bindings.image_andThen first second name).symm
  · intro name package present
    exact substitute_named_qualified first name present
  · intro name args
    rw [substitute, substituteAll_eq_map]
  · intro name other
    exact ⟨parameters_substitute_swap name other type, substitute_swap_swap name other type⟩

/-- A type with two parameters, one of which is also the name of a type in a package. -/
def pairType : TypeExpr :=
  generic "Pair" [named "T" "", named "T" "pkg", sequence (named "U" "")]

/-- The parameters change places, and then a list of `T` is put in for `U`; in this list `T`
stays. -/
theorem substitute_substitute_pairType :
    pairType.substitute (.swap "T" "U") =
        generic "Pair" [named "U" "", named "T" "pkg", sequence (named "T" "")] ∧
      (pairType.substitute (.swap "T" "U")).substitute [(.text "U", sequence (named "T" ""))] =
        generic "Pair" [sequence (named "T" ""), named "T" "pkg", sequence (named "T" "")] ∧
      pairType.substitute [(.text "V", pairType)] = pairType ∧
      (named "T" "pkg").substitute (.swap "T" "U") = named "T" "pkg" := by
  have swapped := substitute_substitute (.swap "T" "U")
      [(.text "U", sequence (named "T" ""))] pairType
  have other := substitute_substitute [(.text "V", pairType)] [] pairType
  refine ⟨by rfl, ?_, other.2.2.1 (by decide), swapped.2.2.2.1 "T" "pkg" (by decide)⟩
  rw [swapped.1]
  rfl

end TypeExpr

end WireSchema
