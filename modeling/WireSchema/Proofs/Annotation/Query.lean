import Mathlib.Data.List.TakeWhile
import WireSchema.Proofs.Document.Asked
import WireSchema.Proofs.Document.Pointwise
import WireSchema.Schema.Inclusion

namespace WireSchema

/-!
# What queries on annotations find

Every query reads names first, and a name that is no text stops it.  So a query is a plain
selection whenever all names are texts, and has no result otherwise; nothing else of an annotation
can make it fail.  The lemmas here put the queries into that form.  After them no proof opens a
query again: it reads `isNamed`, which is a truth value, and `hasTextName`, which is the only way
to fail.

The words by which annotations go contain no point.  An annotation therefore goes by at most one
of them, the part of its name after the last point, and the selections for different words never
overlap.
-/

def Value.IsText (value : Value) : Prop :=
  ∃ content, value = .text content

def DeclaredField.withAnnotations (field : DeclaredField) (annotations : List Annotation) :
    DeclaredField :=
  { field with annotations }

theorem bind_nonempty?_eq_some_iff {text : Option String} {found : String} :
    text.bind nonempty? = some found ↔ text = some found ∧ found ≠ "" := by
  rw [Option.bind_eq_some_iff]
  constructor
  · rintro ⟨content, rfl, given⟩
    rw [nonempty?] at given
    split at given
    · cases given
    · rename_i other
      cases given
      exact ⟨rfl, other⟩
  · rintro ⟨rfl, other⟩
    exact ⟨found, rfl, if_neg other⟩

namespace Annotation

def hasTextName (note : Annotation) : Bool :=
  note.name.text?.isSome

/-- Whether an annotation whose name is a text goes by one of the names, by
itself or behind a point.  Without the failure that `goesBy` has for other names,
so that it can stand in filters. -/
def isNamed (names : List String) (note : Annotation) : Bool :=
  match note.name with
  | .text name =>
      names.any fun word => Text.lower name = word || Text.endsWith (Text.lower name) ("." ++ word)
  | _ => false

/-- To go by a name is to have a text for a name that ends in it. -/
theorem goesBy_eq (names : List String) (note : Annotation) :
    note.goesBy names =
      if note.hasTextName then .ok (note.isNamed names) else .error .noOperation := by
  unfold goesBy hasTextName isNamed
  cases note.name <;> rfl

theorem goesBy_eq_ok_iff {names : List String} {note : Annotation} {answer : Bool} :
    note.goesBy names = .ok answer ↔ note.hasTextName = true ∧ note.isNamed names = answer := by
  rw [goesBy_eq]
  by_cases named : note.hasTextName = true
  · simp [named]
  · simp [named]

theorem goesBy_eq_ok_true_iff {names : List String} {note : Annotation} :
    note.goesBy names = .ok true ↔ note.isNamed names = true := by
  rw [goesBy_eq_ok_iff]
  refine ⟨And.right, fun named => ⟨?_, named⟩⟩
  unfold isNamed at named
  unfold hasTextName
  split at named
  · rename_i name text
    rw [text]
    rfl
  · cases named

/-! ## Texts that are not empty -/

/-- A parameter as a text is given when it is there and not empty. -/
theorem nonempty?_string (note : Annotation) (param : String) :
    nonempty? (note.string param) = (note.string? param).bind nonempty? := by
  rw [string]
  cases note.string? param <;> rfl

/-! ## The one word of a name -/

/-- The part of a name after its last point, or all of it when it has none.  An
annotation goes by this word as well, so that a prefix does not change what it
is. -/
def lastWord (name : List Char) : List Char :=
  (name.reverse.takeWhile (· != '.')).reverse

private theorem isPlain_of_mem_reverse {word : List Char} (plain : '.' ∉ word) :
    ∀ c ∈ word.reverse, (c != '.') = true := by
  intro c member
  have different : c ≠ '.' := fun same => plain (same ▸ List.mem_reverse.mp member)
  simpa using different

theorem lastWord_of_plain {word : List Char} (plain : '.' ∉ word) : lastWord word = word := by
  have whole := List.takeWhile_eq_self_iff.mpr (isPlain_of_mem_reverse plain)
  rw [lastWord, whole, List.reverse_reverse]

theorem lastWord_append {qualifier word : List Char} (plain : '.' ∉ word) :
    lastWord (qualifier ++ '.' :: word) = word := by
  have reversed : (qualifier ++ '.' :: word).reverse =
      word.reverse ++ '.' :: qualifier.reverse := by
    simp
  rw [lastWord, reversed, List.takeWhile_append_of_pos (isPlain_of_mem_reverse plain)]
  simp

/-- A name that goes by a word without points has that word last. -/
theorem lastWord_of_goesByWord {lowered word : String} (plain : '.' ∉ word.toList)
    (goes : (decide (lowered = word) || Text.endsWith lowered ("." ++ word)) = true) :
    lastWord lowered.toList = word.toList := by
  rcases Bool.or_eq_true_iff.mp goes with whole | ending
  · rw [of_decide_eq_true whole]
    exact lastWord_of_plain plain
  · rcases Option.isSome_iff_exists.mp ending with ⟨rest, found⟩
    have reversed := Text.afterLeading?_eq_some_iff.mp found
    have split : lowered.toList = rest.reverse ++ '.' :: word.toList := by
      have turned := congrArg List.reverse reversed
      simpa using turned
    rw [split]
    exact lastWord_append plain

/-- An annotation that goes by one of some words goes by none of any others. -/
theorem isNamed_eq_false {names others : List String} {note : Annotation}
    (plain : ∀ word ∈ names ++ others, '.' ∉ word.toList) (disjoint : ∀ word ∈ names, word ∉ others)
    (named : note.isNamed names = true) : note.isNamed others = false := by
  apply Bool.eq_false_iff.mpr
  intro otherwise
  unfold isNamed at named otherwise
  cases text : note.name with
  | text name =>
      rw [text] at named otherwise
      rcases List.any_eq_true.mp named with ⟨word, member, goes⟩
      rcases List.any_eq_true.mp otherwise with ⟨other, otherMember, otherGoes⟩
      have last := lastWord_of_goesByWord (plain word (List.mem_append_left _ member)) goes
      have otherLast :=
        lastWord_of_goesByWord (plain other (List.mem_append_right _ otherMember)) otherGoes
      have same : word = other := String.toList_inj.mp (last.symm.trans otherLast)
      exact disjoint word member (same ▸ otherMember)
  | _ =>
      rw [text] at named
      cases named

end Annotation

/-! ## Selections -/

theorem annotationsNamed_eq_keepWhere (names : List String) (notes : List Annotation) :
    annotationsNamed names notes = keepWhere (·.goesBy names) notes := by
  induction notes with
  | nil => rfl
  | cons note notes ih => rw [annotationsNamed, keepWhere, ih]

/-- The annotations that go by one of the names are a selection by name. -/
theorem annotationsNamed_eq (names : List String) (notes : List Annotation) :
    annotationsNamed names notes =
      if notes.all Annotation.hasTextName then .ok (notes.filter (·.isNamed names))
      else .error .noOperation := by
  rw [annotationsNamed_eq_keepWhere]
  exact Asked.keepWhere_eq (fun note => note.goesBy_eq names) notes

theorem annotationsNamed_eq_ok_iff {names : List String} {notes found : List Annotation} :
    annotationsNamed names notes = .ok found ↔
      notes.all Annotation.hasTextName = true ∧ notes.filter (·.isNamed names) = found := by
  rw [annotationsNamed_eq]
  by_cases named : notes.all Annotation.hasTextName = true
  · simp only [named, if_true, true_and, Except.ok.injEq]
  · simp only [named, Bool.false_eq_true, if_false, false_and, reduceCtorEq]

theorem annotationsNamed_of_text {names : List String} {notes : List Annotation}
    (named : notes.all Annotation.hasTextName = true) :
    annotationsNamed names notes = .ok (notes.filter (·.isNamed names)) :=
  annotationsNamed_eq_ok_iff.mpr ⟨named, rfl⟩

/-- The annotations that go by a name among some of a list are some of those in the list. -/
theorem annotationsNamed_filter {names : List String} {notes found : List Annotation}
    (keep : Annotation → Bool) (named : annotationsNamed names notes = .ok found) :
    annotationsNamed names (notes.filter keep) = .ok (found.filter keep) := by
  rcases annotationsNamed_eq_ok_iff.mp named with ⟨texts, rfl⟩
  refine annotationsNamed_eq_ok_iff.mpr ⟨?_, List.filter_comm _ _ notes⟩
  exact List.all_eq_true.mpr fun note member =>
    List.all_eq_true.mp texts note (List.mem_of_mem_filter member)

/-- What no annotation of a list gives, none of some of them gives. -/
theorem findSome?_filter_eq_none {α β : Type} {read : α → Option β} {items : List α}
    (keep : α → Bool) (none : items.findSome? read = none) :
    (items.filter keep).findSome? read = Option.none :=
  List.findSome?_eq_none_iff.mpr fun item member =>
    List.findSome?_eq_none_iff.mp none item (List.mem_of_mem_filter member)

theorem firstString?_filter_eq_none {names : List String} {param : String} {notes : List Annotation}
    (keep : Annotation → Bool) (none : firstString? names param notes = .ok none) :
    firstString? names param (notes.filter keep) = .ok Option.none := by
  rcases Asked.bind_eq_ok_iff.mp none with ⟨found, named, final⟩
  rw [firstString?, annotationsNamed_filter keep named, Asked.ok_bind,
    findSome?_filter_eq_none keep (Except.ok.inj final)]
  rfl

/-! ## Annotations with the same names -/

section Names

variable {relation : Annotation → Annotation → Prop} {notes others : List Annotation}

theorem Annotation.isNamed_of_name_eq {note other : Annotation} (same : other.name = note.name)
    (names : List String) : other.isNamed names = note.isNamed names := by
  unfold isNamed
  rw [same]

theorem Annotation.hasTextName_of_name_eq {note other : Annotation}
    (same : other.name = note.name) : other.hasTextName = note.hasTextName := by
  unfold hasTextName
  rw [same]

/-- Annotations by name: whether a query has a result does not change, and what it finds stands in
the same places. -/
theorem annotationsNamed_of_forall₂ (names : List String)
    (same : ∀ {note other}, relation note other → other.name = note.name)
    (related : List.Forall₂ relation notes others) :
    Asked.Related (List.Forall₂ fun note other => relation note other ∧ note.isNamed names = true)
      (annotationsNamed names notes) (annotationsNamed names others) := by
  have text : others.all Annotation.hasTextName = notes.all Annotation.hasTextName :=
    all_of_forall₂ _ (fun pair => Annotation.hasTextName_of_name_eq (same pair)) related
  rw [annotationsNamed_eq, annotationsNamed_eq, text]
  split
  · exact .ok (filter_of_forall₂ _ (fun pair => Annotation.isNamed_of_name_eq (same pair) names)
      related)
  · exact .error _

/-- A query that no change falls into finds what it found. -/
theorem annotationsNamed_eq_of_forall₂ (names : List String)
    (same : ∀ {note other}, relation note other →
      other = note ∨ other.name = note.name ∧ note.isNamed names = false)
    (related : List.Forall₂ relation notes others) :
    annotationsNamed names others = annotationsNamed names notes := by
  have name : ∀ {note other}, relation note other → other.name = note.name := by
    intro note other pair
    rcases same pair with rfl | ⟨kept, -⟩
    · rfl
    · exact kept
  have text : others.all Annotation.hasTextName = notes.all Annotation.hasTextName :=
    all_of_forall₂ _ (fun pair => Annotation.hasTextName_of_name_eq (name pair)) related
  have found : others.filter (·.isNamed names) = notes.filter (·.isNamed names) := by
    refine filter_eq_of_forall₂ _ ?_ related
    intro note other pair
    rcases same pair with rfl | ⟨kept, passed⟩
    · exact Or.inl rfl
    · have named := Annotation.isNamed_of_name_eq kept names
      exact Or.inr ⟨passed, named.trans passed⟩
  rw [annotationsNamed_eq, annotationsNamed_eq, text, found]

end Names

namespace DeclaredField

/-- Whether a message sees an annotation whose name is a text.  Only `field`
annotations are hidden by their scope; those that leave a field out are asked
for their scope on their own. -/
def isSeenBy (message : Value) (note : Annotation) : Bool :=
  !note.isNamed ["field"] || note.appliesTo message true

theorem concernsMessage_eq (message : Value) (note : Annotation) :
    concernsMessage message note =
      if note.hasTextName then .ok (isSeenBy message note) else .error .noOperation := by
  rw [concernsMessage, Annotation.goesBy_eq]
  by_cases named : note.hasTextName = true
  · simp only [named, if_true, Asked.ok_bind, Asked.pure_eq_ok, isSeenBy]
  · simp only [named, Bool.false_eq_true, if_false, Asked.error_bind]

/-- A field as a message sees it has a selection of the annotations, and all else unchanged. -/
theorem forMessage_eq (field : DeclaredField) (message : Value) :
    field.forMessage message =
      if field.annotations.all Annotation.hasTextName then
        .ok { field with annotations := field.annotations.filter (isSeenBy message) }
      else .error .noOperation := by
  rw [forMessage, Asked.keepWhere_eq (concernsMessage_eq message)]
  by_cases named : field.annotations.all Annotation.hasTextName = true
  · simp only [named, if_true, Asked.ok_bind, Asked.pure_eq_ok]
  · simp only [named, Bool.false_eq_true, if_false, Asked.error_bind]

end DeclaredField

end WireSchema
