import WireSchema.Proofs.Annotation.Query
import WireSchema.Proofs.ProtoText.Lines

namespace WireSchema

/-!
# A model without its documentation

Documentation of a declaration is its own text and the parameters `description` of its annotations.
Here it is taken away from every declaration.  No reader of annotations but the one of descriptions
notices: each of them reads parameters of other names, and finds the same annotations in the same
places.  The rewriting rules here say so once for every reader.
-/

open Asked

namespace Asked

variable {α β γ : Type}

@[simp] theorem map_ok (view : α → β) (value : α) :
    Except.map view (.ok value : Asked α) = .ok (view value) := rfl

/-- A step that goes on from a view of a result. -/
@[simp] theorem map_bind (view : α → β) (step : Asked α) (next : β → Asked γ) :
    (step.map view >>= next) = step >>= fun value => next (view value) := by
  cases step with
  | error fault => rfl
  | ok value => rfl

theorem map_bind_eq (view : β → γ) (step : Asked α) (next : α → Asked β) :
    (step >>= next).map view = step >>= fun value => (next value).map view := by
  cases step with
  | error fault => rfl
  | ok value => rfl

/-- The same step twice is followed by steps that are related on the result that it has. -/
theorem Related.bind_same {δ : Type} {related : γ → δ → Prop} {step other : Asked α}
    {next : α → Asked γ} {otherNext : α → Asked δ} (same : other = step)
    (rest : ∀ value, step = .ok value → Related related (next value) (otherNext value)) :
    Related related (step >>= next) (other >>= otherNext) := by
  subst same
  cases other with
  | error fault => exact .error fault
  | ok value => exact rest value rfl

end Asked

/-! ## Annotations -/

/-- An annotation without the parameter `description`.  Nothing else is taken
away, for the other parameters may decide how something is written. -/
def Annotation.undescribed (note : Annotation) : Annotation :=
  { note with params := note.params.filter (·.1 != "description") }

/-- Annotations without descriptions.  Their other parameters stay, and so does
an annotation that has no other one. -/
def undescribed (notes : List Annotation) : List Annotation :=
  notes.map Annotation.undescribed

namespace Annotation

@[simp] theorem hasTextName_undescribed (note : Annotation) :
    note.undescribed.hasTextName = note.hasTextName := rfl

@[simp] theorem isNamed_undescribed (note : Annotation) (names : List String) :
    note.undescribed.isNamed names = note.isNamed names := rfl

@[simp] theorem goesBy_undescribed (note : Annotation) (names : List String) :
    note.undescribed.goesBy names = note.goesBy names := rfl

section

variable {param : String}

@[simp] theorem get?_undescribed (note : Annotation) (other : param ≠ "description") :
    note.undescribed.get? param = note.get? param := by
  simp only [get?, lookupKey?, undescribed, List.find?_filter]
  congr 2
  funext entry
  by_cases same : entry.1 = param
  · simp [same, other]
  · simp [same]

theorem get?_undescribed_self (note : Annotation) : note.undescribed.get? "description" = none := by
  rw [get?, lookupKey?, undescribed, Option.map_eq_none_iff, List.find?_eq_none]
  intro entry member
  have other := (List.mem_filter.mp member).2
  simpa using other

@[simp] theorem has_undescribed (note : Annotation) (other : param ≠ "description") :
    note.undescribed.has param = note.has param := by
  simp [has, other]

@[simp] theorem string?_undescribed (note : Annotation) (other : param ≠ "description") :
    note.undescribed.string? param = note.string? param := by
  simp [string?, other]

@[simp] theorem string_undescribed (note : Annotation) (other : param ≠ "description") :
    note.undescribed.string param = note.string param := by
  simp [string, other]

@[simp] theorem flag_undescribed (note : Annotation) (other : param ≠ "description") :
    note.undescribed.flag param = note.flag param := by
  simp [flag, bool?, other]

@[simp] theorem integer?_undescribed (note : Annotation) (other : param ≠ "description") :
    note.undescribed.integer? param = note.integer? param := by
  simp [integer?, other]

@[simp] theorem list?_undescribed (note : Annotation) (other : param ≠ "description") :
    note.undescribed.list? param = note.list? param := by
  simp [list?, other]

@[simp] theorem paramSelects_undescribed (note : Annotation) (message : Value)
    (other : param ≠ "description") :
    note.undescribed.paramSelects param message = note.paramSelects param message := by
  simp [paramSelects, other]

end

@[simp] theorem appliesTo_undescribed (note : Annotation) (message : Value) (default : Bool) :
    note.undescribed.appliesTo message default = note.appliesTo message default := by
  simp [appliesTo]

end Annotation

/-! ## Lists of annotations -/

section

variable (names : List String) (notes : List Annotation)

@[simp] theorem isEmpty_undescribed : (undescribed notes).isEmpty = notes.isEmpty := by
  rw [undescribed, List.isEmpty_map]

@[simp] theorem undescribed_eq_nil_iff : undescribed notes = [] ↔ notes = [] :=
  List.map_eq_nil_iff

@[simp] theorem any_undescribed (test : Annotation → Bool) :
    (undescribed notes).any test = notes.any fun note => test note.undescribed := by
  rw [undescribed, List.any_map]
  rfl

@[simp] theorem filter_undescribed (test : Annotation → Bool) :
    (undescribed notes).filter test =
      undescribed (notes.filter fun note => test note.undescribed) := by
  rw [undescribed, List.filter_map]
  rfl

@[simp] theorem find?_undescribed (test : Annotation → Bool) :
    (undescribed notes).find? test =
      (notes.find? fun note => test note.undescribed).map Annotation.undescribed := by
  rw [undescribed, List.find?_map]
  rfl

@[simp] theorem findSome?_undescribed {α : Type} (read : Annotation → Option α) :
    (undescribed notes).findSome? read = notes.findSome? fun note => read note.undescribed := by
  rw [undescribed, List.findSome?_map]
  rfl

@[simp] theorem flatMap_undescribed {α : Type} (read : Annotation → List α) :
    (undescribed notes).flatMap read = notes.flatMap fun note => read note.undescribed := by
  rw [undescribed, List.flatMap_map]

@[simp] theorem filterMap_undescribed {α : Type} (read : Annotation → Option α) :
    (undescribed notes).filterMap read = notes.filterMap fun note => read note.undescribed := by
  rw [undescribed, List.filterMap_map]
  rfl

@[simp] theorem undescribed_append (others : List Annotation) :
    undescribed notes ++ undescribed others = undescribed (notes ++ others) :=
  List.map_append.symm

@[simp] theorem all_hasTextName_undescribed :
    (undescribed notes).all Annotation.hasTextName = notes.all Annotation.hasTextName := by
  rw [undescribed, List.all_map]
  rfl

/-- The same annotations are found by name. -/
@[simp] theorem annotationsNamed_undescribed :
    annotationsNamed names (undescribed notes) =
      (annotationsNamed names notes).map undescribed := by
  rw [annotationsNamed_eq, annotationsNamed_eq, all_hasTextName_undescribed]
  by_cases named : notes.all Annotation.hasTextName = true
  · rw [if_pos named, if_pos named, undescribed, List.filter_map]
    rfl
  · rw [if_neg named, if_neg named]
    rfl

@[simp] theorem annotationNamed?_undescribed :
    annotationNamed? names (undescribed notes) =
      (annotationNamed? names notes).map (Option.map Annotation.undescribed) := by
  induction notes with
  | nil => rfl
  | cons note notes ih =>
      rw [undescribed, List.map_cons, annotationNamed?, annotationNamed?, map_bind_eq,
        note.goesBy_undescribed]
      congr 1
      funext found
      cases found with
      | true => rfl
      | false => exact ih

@[simp] theorem isAnnotated_undescribed :
    isAnnotated names (undescribed notes) = isAnnotated names notes := by
  simp only [isAnnotated, annotationNamed?_undescribed, map_bind, Option.isSome_map]

@[simp] theorem firstString?_undescribed {param : String} (other : param ≠ "description") :
    firstString? names param (undescribed notes) = firstString? names param notes := by
  simp only [firstString?, annotationsNamed_undescribed, map_bind, findSome?_undescribed,
    Annotation.string?_undescribed _ other]

@[simp] theorem renamed_undescribed (declared : Value) :
    renamed names (undescribed notes) declared = renamed names notes declared := by
  simp [renamed]

@[simp] theorem isSkipped_undescribed : isSkipped (undescribed notes) = isSkipped notes :=
  isAnnotated_undescribed _ notes

@[simp] theorem isService_undescribed : isService (undescribed notes) = isService notes :=
  isAnnotated_undescribed _ notes

end

/-! ## Descriptions -/

/-- The words by which an annotation goes that only documents. -/
def documentingWords : List String :=
  ["description", "doc", "documentation"]

/-- The texts with which an annotation may describe something have no line feed.
The value counts only for annotations that do nothing but document. -/
structure Annotation.DescribesInLine (note : Annotation) : Prop where
  description : '\n' ∉ (note.string "description").toList
  value : note.isNamed documentingWords = true → '\n' ∉ (note.string "value").toList

/-- Everything that may describe a declaration is of one line: any of its
annotations, or its documentation.  Which of them is taken is not asked here. -/
structure IsDescribedInLine (notes : List Annotation) (doc : Value) : Prop where
  notes : ∀ note ∈ notes, note.DescribesInLine
  doc : doc.IsOneLine

theorem Annotation.DescribesInLine.undescribed {note : Annotation} (inLine : note.DescribesInLine) :
    note.undescribed.DescribesInLine where
  description := by
    rw [string, string?, get?_undescribed_self]
    simp
  value named := by
    rw [note.string_undescribed (by decide)]
    exact inLine.value named

theorem IsDescribedInLine.undescribed {notes : List Annotation} {doc : Value}
    (inLine : IsDescribedInLine notes doc) : IsDescribedInLine (undescribed notes) (.text "") where
  notes := by
    intro note member
    rcases List.mem_map.mp member with ⟨original, declared, rfl⟩
    exact (inLine.notes original declared).undescribed
  doc := by simp [Value.IsOneLine]

theorem Value.isOneLine_orElse {value other : Value} (own : value.IsOneLine)
    (otherOwn : other.IsOneLine) : (value.orElse other).IsOneLine := by
  unfold orElse
  split
  · exact own
  · exact otherOwn

theorem nonempty?_eq_some {text found : String} (some : nonempty? text = some found) :
    found = text := by
  unfold nonempty? at some
  split at some
  · cases some
  · exact (Option.some.inj some).symm

/-- Of a text that a parameter gives more is known from the parameter read as a text. -/
theorem Annotation.string_of_bind {note : Annotation} {param found : String}
    (given : (note.string? param).bind nonempty? = some found) : note.string param = found := by
  rcases Option.bind_eq_some_iff.mp given with ⟨text, read, kept⟩
  rw [string, read, nonempty?_eq_some kept]
  rfl

theorem exists_describedBy {notes : List Annotation}
    (named : notes.all Annotation.hasTextName = true)
    (inLine : ∀ note ∈ notes, note.DescribesInLine) :
    ∃ text, describedBy notes = .ok text ∧ '\n' ∉ text.toList := by
  unfold describedBy
  cases described : notes.findSome? fun note => (note.string? "description").bind nonempty? with
  | some text =>
      rcases List.exists_of_findSome?_eq_some described with ⟨note, declared, given⟩
      refine ⟨text, rfl, ?_⟩
      rw [← Annotation.string_of_bind given]
      exact (inLine note declared).description
  | none =>
      simp only [firstString?, annotationsNamed_of_text named, ok_bind, pure_eq_ok]
      refine ⟨_, rfl, ?_⟩
      cases documented : List.findSome? (fun note => (note.string? "value").bind nonempty?)
          (notes.filter (·.isNamed ["description", "doc", "documentation"])) with
      | none => simp
      | some text =>
          rcases List.exists_of_findSome?_eq_some documented with ⟨note, found, given⟩
          have parts := List.mem_filter.mp found
          rw [Option.getD_some, ← Annotation.string_of_bind given]
          exact (inLine note parts.1).value parts.2

/-- Annotations with texts for names give a description, and one of a single line when everything
that may describe is. -/
theorem exists_descriptionOf {notes : List Annotation} {doc : Value}
    (named : notes.all Annotation.hasTextName = true) (inLine : IsDescribedInLine notes doc) :
    ∃ description, descriptionOf notes doc = .ok description ∧ description.IsOneLine := by
  rcases exists_describedBy named inLine.notes with ⟨text, found, single⟩
  have own : (Value.text text).IsOneLine := single
  exact ⟨_, by rw [descriptionOf, found, ok_bind, pure_eq_ok],
    Value.isOneLine_orElse own inLine.doc⟩

def AreInLine (first second : Value) : Prop :=
  first.IsOneLine ∧ second.IsOneLine

theorem related_descriptionOf {notes : List Annotation} {doc : Value}
    (named : notes.all Annotation.hasTextName = true) (inLine : IsDescribedInLine notes doc) :
    Related AreInLine (descriptionOf notes doc) (descriptionOf (undescribed notes) (.text "")) := by
  rcases exists_descriptionOf named inLine with ⟨description, found, single⟩
  rcases exists_descriptionOf (by simpa using named) inLine.undescribed with
    ⟨further, foundAgain, singleAgain⟩
  rw [found, foundAgain]
  exact .ok ⟨single, singleAgain⟩

/-- A description that cannot be had fails like a query by name. -/
theorem descriptionOf_eq_ok_or (notes : List Annotation) (doc : Value) :
    (∃ description, descriptionOf notes doc = .ok description) ∨
      descriptionOf notes doc = .error .noOperation := by
  unfold descriptionOf describedBy
  cases described : notes.findSome? fun note => (note.string? "description").bind nonempty? with
  | some text => exact Or.inl ⟨_, rfl⟩
  | none =>
      simp only [firstString?, annotationsNamed_eq]
      split
      · exact Or.inl ⟨_, rfl⟩
      · exact Or.inr rfl

/-! ## Declarations -/

def DeclaredField.undocumented (field : DeclaredField) : DeclaredField :=
  { field with annotations := undescribed field.annotations, doc := .text "" }

def Composite.undocumented (composite : Composite) : Composite :=
  { composite with
    fields := composite.fields.map DeclaredField.undocumented
    annotations := undescribed composite.annotations
    doc := .text "" }

def EnumValue.undocumented (value : EnumValue) : EnumValue :=
  { value with annotations := undescribed value.annotations, doc := .text "" }

def EnumType.undocumented (enum : EnumType) : EnumType :=
  { enum with
    values := enum.values.map EnumValue.undocumented
    annotations := undescribed enum.annotations
    doc := .text "" }

def Method.undocumented (method : Method) : Method :=
  { method with annotations := undescribed method.annotations, doc := .text "" }

def ServiceContract.undocumented (contract : ServiceContract) : ServiceContract :=
  { contract with
    methods := contract.methods.map Method.undocumented
    annotations := undescribed contract.annotations
    doc := .text "" }

def ModelFunction.undocumented (function : ModelFunction) : ModelFunction :=
  { function with toMethod := function.toMethod.undocumented }

def LevelAnnotations.undescribed (level : LevelAnnotations) : LevelAnnotations :=
  level.map fun entry => (entry.1, WireSchema.undescribed entry.2)

def Model.undocumented (model : Model) : Model :=
  { model with
    composites := model.composites.map Composite.undocumented
    enums := model.enums.map EnumType.undocumented
    services := model.services.map ServiceContract.undocumented
    functions := model.functions.map ModelFunction.undocumented
    fileAnnotations := model.fileAnnotations.undescribed
    packageAnnotations := model.packageAnnotations.undescribed }

/-- A unit of which nothing is documented, neither what it declares nor anything
in its model.  It declares what the unit does, and its file is compared with that
of the unit. -/
def SchemaUnit.undocumented (schema : SchemaUnit) : SchemaUnit :=
  { schema with
    model := schema.model.undocumented
    composites := schema.composites.map Composite.undocumented
    enums := schema.enums.map EnumType.undocumented
    services := schema.services.map ServiceContract.undocumented }

/-! ## Declarations that are described in one line each -/

structure Composite.IsInLine (composite : Composite) : Prop where
  own : IsDescribedInLine composite.annotations composite.doc
  fields : ∀ field ∈ composite.fields, IsDescribedInLine field.annotations field.doc

structure EnumType.IsInLine (enum : EnumType) : Prop where
  own : IsDescribedInLine enum.annotations enum.doc
  values : ∀ value ∈ enum.values, IsDescribedInLine value.annotations value.doc

structure ServiceContract.IsInLine (contract : ServiceContract) : Prop where
  own : IsDescribedInLine contract.annotations contract.doc
  methods : ∀ method ∈ contract.methods, IsDescribedInLine method.annotations method.doc

/-- A unit in which everything that can be written of it is described in one line each: its own
declarations, the templates of its aliases, and the methods of its composite types. -/
structure SchemaUnit.IsInLine (schema : SchemaUnit) : Prop where
  composites : ∀ composite ∈ schema.composites, composite.IsInLine
  templates : ∀ composite ∈ schema.model.composites, composite.IsInLine
  enums : ∀ enum ∈ schema.enums, enum.IsInLine
  services : ∀ contract ∈ schema.services, contract.IsInLine
  functions : ∀ function ∈ schema.model.functions,
    IsDescribedInLine function.toMethod.annotations function.toMethod.doc

end WireSchema
