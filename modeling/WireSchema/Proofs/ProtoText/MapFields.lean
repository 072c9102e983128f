import Mathlib
import WireSchema.Proofs.Schema.References
import WireSchema.Proofs.Schema.Shapes
import WireSchema.Proofs.Text.Words
import WireSchema.ProtoText.Block

namespace WireSchema

/-!
# Map types in a schema file

The key type of a map is checked where the declared type of a field is itself a map.  A map inside a
pointer or a sequence, the value of a map, and the types that an annotation states are not looked
at: they are written as they come.  So a map type in the file has an admitted key, no map for a
value and no label as long as the declared types have maps only at the outside and annotations state
such maps.

A map type is recognised by its brackets, so the names of other types must not bring brackets of
their own.
-/

open Asked

/-! ## Texts without the marks of map types -/

namespace Text

/-- A text without an opening bracket and a comma.  Such a text is no map type in
writing and cannot be taken for the key or the value of one. -/
structure IsUnbracketed (text : String) : Prop where
  bracket : '<' ∉ text.toList
  comma : ',' ∉ text.toList

instance (text : String) : Decidable (IsUnbracketed text) :=
  decidable_of_iff ('<' ∉ text.toList ∧ ',' ∉ text.toList)
    ⟨fun plain => ⟨plain.1, plain.2⟩, fun plain => ⟨plain.bracket, plain.comma⟩⟩

theorem toList_afterLast_subset (separator : Char) (text : String) :
    (afterLast separator text).toList ⊆ text.toList := by
  rcases exists_last_or_not_mem separator text.toList with ⟨before, after, whole, absent⟩ | absent
  · have same : text = String.ofList (before ++ separator :: after) := by
      rw [← whole, String.ofList_toList]
    rw [same, afterLast_append absent, String.toList_ofList, String.toList_ofList]
    exact fun c inside => List.mem_append_right before (List.mem_cons_of_mem separator inside)
  · rw [afterLast_of_not_mem absent]
    exact fun c inside => inside

end Text

namespace ProtoText

/-- A map type in writing, with a label in front. -/
def mapText (label key value : String) : String :=
  label ++ "map<" ++ key ++ ", " ++ value ++ ">"

theorem toList_mapText (label key value : String) :
    (mapText label key value).toList = (label.toList ++ ['m', 'a', 'p']) ++ '<' ::
      (key.toList ++ ',' :: ' ' :: (value.toList ++ ['>'])) := by
  simp [mapText, String.toList_append]

/-- A map type of unbracketed types is read in one way: its bracket and its comma are the only
ones. -/
theorem eq_of_mapText_eq {key value label otherKey otherValue : String}
    (keyPlain : Text.IsUnbracketed key) (valuePlain : Text.IsUnbracketed value)
    (same : mapText "" key value = mapText label otherKey otherValue) :
    label = "" ∧ otherKey = key ∧ otherValue = value := by
  have lists := congrArg String.toList same
  rw [toList_mapText, toList_mapText] at lists
  have behind : '<' ∉ key.toList ++ ',' :: ' ' :: (value.toList ++ ['>']) := by
    simp [keyPlain.bracket, valuePlain.bracket]
  rcases (List.append_cons_inj_of_notMem (by decide) behind).mp lists with ⟨fronts, -, backs⟩
  have last : ',' ∉ ' ' :: (value.toList ++ ['>']) := by
    simp [valuePlain.comma]
  rcases (List.append_cons_inj_of_notMem keyPlain.comma last).mp backs with ⟨keys, -, values⟩
  refine ⟨?_, (String.toList_inj.mp keys).symm, ?_⟩
  · exact String.toList_eq_nil_iff.mp (List.append_cancel_right fronts).symm
  · exact (String.toList_inj.mp (List.append_cancel_right (List.cons.inj values).2)).symm

/-- A text without an opening bracket is no map type. -/
theorem ne_mapText {text : String} (plain : '<' ∉ text.toList) (label key value : String) :
    text ≠ mapText label key value := by
  rintro rfl
  rw [toList_mapText] at plain
  exact plain (List.mem_append_right _ List.mem_cons_self)

theorem bracket_notMem_labelOf (options : Options) (shape : FieldShape) :
    '<' ∉ (labelOf options shape).toList := by
  unfold labelOf
  split
  · decide
  · split <;> decide
  · decide

end ProtoText

/-! ## Types without maps -/

/-- A type that is no map under its pointers and sequences, and whose name
brings no brackets.  A name with a bracket could be taken for a map where its
text is looked at. -/
structure TypeExpr.HoldsNoMap (type : TypeExpr) : Prop where
  unmapped : type.unwrap.IsUnmapped
  named : Text.IsUnbracketed type.unwrap.qualifiedName

/-- A type that is a map at the outside or not at all.  The key of a map is
checked only there, so that other maps can be written with keys that the schema
does not admit. -/
def TypeExpr.MapsOutside : TypeExpr → Prop
  | .mapping _ value => value.HoldsNoMap
  | type => type.HoldsNoMap

namespace TypeTable

variable {table : TypeTable} {found : Value}

/-- A table that gives no names with brackets.  Settings may map a type to any
text, so this is a condition on them and not a fact. -/
structure IsUnbracketed (table : TypeTable) : Prop where
  overrides : ∀ name type, table.override? name = .ok (some type) →
    Text.IsUnbracketed type.display
  known : ∀ name type, table.knownSchemaType? name = .ok (some type) →
    Text.IsUnbracketed type.display
  aliases : ∀ entry ∈ table.aliases, Text.IsUnbracketed entry.2.display

/-- A table that gives only names whose characters are of a kind: by overrides,
by known types or by aliases.  What remains are built-in types and names in
Pascal case. -/
structure GivesNamesOf (kind : Char → Prop) (table : TypeTable) : Prop where
  overrides : ∀ name type, table.override? name = .ok (some type) →
    ∀ c ∈ type.display.toList, kind c
  known : ∀ name type, table.knownSchemaType? name = .ok (some type) →
    ∀ c ∈ type.display.toList, kind c
  aliases : ∀ entry ∈ table.aliases, ∀ c ∈ entry.2.display.toList, kind c

/-- Characters of which builtin types and names in Pascal case are made. -/
structure AdmitsBuiltin (kind : Char → Prop) : Prop where
  letters : ∀ c, c.isAlphanum = true → kind c
  builtin : ∀ entry ∈ builtinTypes, ∀ c ∈ entry.2.toList, kind c

variable {kind : Char → Prop}

/-- Builtin types are made of letters, digits and points. -/
theorem admitsBuiltin_of_point (letters : ∀ c, c.isAlphanum = true → kind c) (point : kind '.') :
    AdmitsBuiltin kind where
  letters := letters
  builtin := by
    have plain : ∀ entry ∈ builtinTypes,
        (entry.2.toList.all fun c => c.isAlphanum || c == '.') = true := by
      decide +kernel
    intro entry member c inside
    rcases Bool.or_eq_true_iff.mp (List.all_eq_true.mp (plain entry member) c inside) with
      letter | same
    · exact letters c letter
    · rw [beq_iff_eq.mp same]
      exact point

theorem chars_of_mapName (admits : AdmitsBuiltin kind) (gives : table.GivesNamesOf kind)
    {name : String} (named : ∀ c ∈ name.toList, kind c) (mapped : table.mapName name = .ok found) :
    ∀ c ∈ found.display.toList, kind c := by
  rcases bind_eq_ok_iff.mp mapped with ⟨override?, overridden, rest⟩
  cases override? with
  | some type =>
      cases rest
      exact gives.overrides name found overridden
  | none =>
      rcases bind_eq_ok_iff.mp rest with ⟨known?, known, rest⟩
      cases known? with
      | some type =>
          cases rest
          exact gives.known name found known
      | none =>
          cases rest
          rw [Value.display_text]
          cases builtin : lookupKey? name builtinTypes with
          | some type =>
              rcases exists_of_lookupKey? builtin with ⟨entry, member, rfl⟩
              exact admits.builtin entry member
          | none => exact fun c inside => named c (Text.toList_afterLast_subset '.' name inside)

/-- The names of arguments in a composed name are letters and digits, whatever the arguments are. -/
theorem isAlphanum_of_argumentNames {args : List TypeExpr} {names : String}
    (joined : table.argumentNames args = .ok names) :
    ∀ c ∈ names.toList, c.isAlphanum = true := by
  induction args generalizing names with
  | nil =>
      rw [argumentNames] at joined
      cases joined
      rintro c ⟨⟩
  | cons arg args ih =>
      rw [argumentNames] at joined
      rcases bind_eq_ok_iff.mp joined with ⟨type, -, rest⟩
      rcases bind_eq_ok_iff.mp rest with ⟨first, own, rest⟩
      rcases bind_eq_ok_iff.mp rest with ⟨others, further, final⟩
      rcases bind_eq_ok_iff.mp own with ⟨content, -, pascal⟩
      intro c inside
      rw [← Except.ok.inj final, String.toList_append, List.mem_append, ← Except.ok.inj pascal]
        at inside
      rcases inside with head | tail
      · exact Text.isAlphanum_of_mem_toPascalCase head
      · exact ih further c tail

/-- The schema type of a type without maps is made of the characters of names.  The recursion is
that of `schemaType`; arguments of a template have no part in it, since only letters and digits of
them are kept. -/
theorem chars_of_schemaType (admits : AdmitsBuiltin kind) (gives : table.GivesNamesOf kind) :
    ∀ {type : TypeExpr} {found : Value}, type.unwrap.IsUnmapped →
      (∀ c ∈ type.unwrap.qualifiedName.toList, kind c) → table.schemaType type = .ok found →
      ∀ c ∈ found.display.toList, kind c
  | .named name package, _, _, named, read => by
      rw [schemaType] at read
      exact chars_of_mapName admits gives named read
  | .pointer elem, _, unmapped, named, read => by
      rw [schemaType] at read
      have inside : elem.unwrap.IsUnmapped := unmapped
      exact chars_of_schemaType admits gives inside named read
  | .sequence elem, _, unmapped, named, read => by
      rw [schemaType] at read
      rw [TypeExpr.unwrap] at unmapped named
      split at read
      · cases read
        have letters : ∀ c ∈ "bytes".toList, c.isAlphanum = true := List.all_eq_true.mp (by decide)
        exact fun c inside => admits.letters c (letters c inside)
      · rename_i values
        rw [if_neg values] at unmapped named
        exact chars_of_schemaType admits gives unmapped named read
  | .mapping key value, _, unmapped, _, _ => absurd rfl (unmapped key value)
  | .generic name args, _, _, named, read => by
      rw [schemaType] at read
      split at read
      · rename_i aliasName declared
        cases read
        rcases Option.filter_eq_some_iff.mp declared with ⟨looked, -⟩
        rcases exists_of_lookupKey? looked with ⟨entry, member, rfl⟩
        exact gives.aliases entry member
      · rcases bind_eq_ok_iff.mp read with ⟨names, joined, final⟩
        cases final
        intro c inside
        rw [Value.display_text, String.toList_append, List.mem_append] at inside
        rcases inside with head | tail
        · exact named c head
        · exact admits.letters c (isAlphanum_of_argumentNames joined c tail)

/-! ### Types without brackets -/

theorem isUnbracketed_iff {text : String} :
    Text.IsUnbracketed text ↔ ∀ c ∈ text.toList, c ≠ '<' ∧ c ≠ ',' := by
  constructor
  · rintro ⟨bracket, comma⟩ c inside
    exact ⟨fun same => bracket (same ▸ inside), fun same => comma (same ▸ inside)⟩
  · intro each
    exact ⟨fun inside => (each _ inside).1 rfl, fun inside => (each _ inside).2 rfl⟩

theorem admitsBuiltin_unbracketed : AdmitsBuiltin fun c => c ≠ '<' ∧ c ≠ ',' := by
  refine admitsBuiltin_of_point (fun c letter => ?_) (by decide)
  constructor
  all_goals
    rintro rfl
    exact absurd letter (by decide)

theorem IsUnbracketed.givesNamesOf (plain : table.IsUnbracketed) :
    table.GivesNamesOf fun c => c ≠ '<' ∧ c ≠ ',' where
  overrides := fun name type own => isUnbracketed_iff.mp (plain.overrides name type own)
  known := fun name type own => isUnbracketed_iff.mp (plain.known name type own)
  aliases := fun entry member => isUnbracketed_iff.mp (plain.aliases entry member)

/-- The schema type of a type without maps has no brackets. -/
theorem isUnbracketed_of_schemaType (plain : table.IsUnbracketed) {type : TypeExpr} {found : Value}
    (mapless : type.HoldsNoMap) (read : table.schemaType type = .ok found) :
    Text.IsUnbracketed found.display :=
  isUnbracketed_iff.mpr (chars_of_schemaType admitsBuiltin_unbracketed plain.givesNamesOf
    mapless.unmapped (isUnbracketed_iff.mp mapless.named) read)

end TypeTable

/-! ## Fields -/

/-- A field whose maps stand at the outside: an annotated map has an admitted key and no map for a
value, and the declared type of another field is a map at the outside or not at all. -/
structure DeclaredField.MapsOutside (field : DeclaredField) : Prop where
  annotated : ∀ key value, field.annotatedMap? = .ok (some (key, value)) →
    key ∈ mapKeyTypes ∧ Text.IsUnbracketed value
  declared : field.annotatedMap? = .ok none → field.type.MapsOutside

theorem isUnbracketed_of_mem_mapKeyTypes : ∀ name ∈ mapKeyTypes, Text.IsUnbracketed name := by
  decide +kernel

namespace SchemaContext

variable {context : SchemaContext} {composite : Composite} {message : Value}
  {declared : DeclaredField} {planned : PlannedField}

/-- A map is written with an admitted key and an unbracketed value. -/
theorem mapTypes_of_map (isFrom : planned.IsFrom context composite message declared)
    (plain : context.types.IsUnbracketed) (outside : planned.field.MapsOutside)
    (map : planned.shape = .map) :
    planned.mapTypes.1.display ∈ mapKeyTypes ∧
      Text.IsUnbracketed planned.mapTypes.2.display := by
  have shaped := DeclaredField.hasShape_of_shape isFrom.shape
  have types := isFrom.mapTypes map
  rw [map] at shaped
  cases shaped with
  | @stated key value annotated =>
      rw [DeclaredField.mapTypes, annotated, ok_bind] at types
      rw [← Except.ok.inj types]
      exact outside.annotated key value annotated
  | @native key value name bare type keyed admitted =>
      simp only [DeclaredField.mapTypes, bare, ok_bind, type, keyed] at types
      rcases bind_eq_ok_iff.mp types with ⟨valueType, read, final⟩
      have mapless : value.HoldsNoMap := by
        have whole := outside.declared bare
        rw [type] at whole
        exact whole
      rw [← Except.ok.inj final]
      exact ⟨admitted, TypeTable.isUnbracketed_of_schemaType plain mapless read⟩

/-- The type of a field that is no map has no brackets. -/
theorem isUnbracketed_of_ne_map (isFrom : planned.IsFrom context composite message declared)
    (plain : context.types.IsUnbracketed) (silent : planned.field.StatesNoType context.model)
    (outside : planned.field.MapsOutside) (other : planned.shape ≠ .map)
    (supported : planned.shape ≠ .unsupported) : Text.IsUnbracketed planned.type.display := by
  have shaped := DeclaredField.hasShape_of_shape isFrom.shape
  have read := isFrom.type
  rw [DeclaredField.schemaType_of_statesNoType silent] at read
  rcases shaped.isUnmapped other supported with ⟨bare, unmapped⟩
  have mapless : planned.field.type.HoldsNoMap := by
    have whole := outside.declared bare
    revert whole unmapped
    cases planned.field.type with
    | mapping key value => exact fun unmapped => absurd rfl (unmapped key value)
    | named | pointer | sequence | generic => exact fun _ whole => whole
  exact TypeTable.isUnbracketed_of_schemaType plain mapless read

/-- Where maps stand at the outside of declared types, every map type of a field that states no
other type has a key that the schema admits and no map for a value, and neither `repeated` nor
`optional` stands before it. -/
theorem plan_mapType (context : SchemaContext) (composite : Composite) (message : Value)
    (plan : MessagePlan) (planned : PlannedField) (label key value : String)
    (made : context.plan composite message = .ok plan) (member : planned ∈ plan.fields)
    (silent : planned.field.StatesNoType context.model) (plain : context.types.IsUnbracketed)
    (outside : planned.field.MapsOutside)
    (written : ProtoText.declaredType context.options planned =
      .ok (ProtoText.mapText label key value)) :
    label = "" ∧ key ∈ mapKeyTypes ∧ '<' ∉ value.toList := by
  rcases exists_isFrom_of_plan made member with ⟨fields, -, declared, -, isFrom⟩
  by_cases map : planned.shape = .map
  · rcases mapTypes_of_map isFrom plain outside map with ⟨admitted, unbracketed⟩
    rw [ProtoText.declaredType, map, if_pos (by decide), Except.ok.injEq] at written
    have same : ProtoText.mapText "" planned.mapTypes.1.display planned.mapTypes.2.display =
        ProtoText.mapText label key value := by
      rw [← written, ProtoText.mapText, String.empty_append]
    rcases ProtoText.eq_of_mapText_eq (isUnbracketed_of_mem_mapKeyTypes _ admitted) unbracketed
      same with ⟨rfl, rfl, rfl⟩
    exact ⟨rfl, admitted, unbracketed.bracket⟩
  · have supported := shape_ne_unsupported_of_plan made member
    have unbracketed := isUnbracketed_of_ne_map isFrom plain silent outside map supported
    rw [ProtoText.declaredType, if_neg (by simpa using map)] at written
    rcases bind_eq_ok_iff.mp written with ⟨content, admitted, final⟩
    have text : planned.type.display = content := by
      cases type : planned.type with
      | text content =>
          rw [type] at admitted
          exact Except.ok.inj admitted
      | _ =>
          rw [type] at admitted
          cases admitted
    refine absurd (Except.ok.inj final) (ProtoText.ne_mapText ?_ label key value)
    rw [String.toList_append, List.mem_append, not_or, ← text]
    exact ⟨ProtoText.bracket_notMem_labelOf _ _, unbracketed.bracket⟩

def outerMap : DeclaredField where
  name := .text "Items"
  type := .mapping (.named "string" "") (.pointer (.named "Item" "shop"))

/-- A map under a pointer, with a key that the schema does not admit. -/
def hiddenMap : DeclaredField where
  name := .text "Scores"
  type := .pointer (.mapping (.named "float64" "") (.named "string" ""))

def mappedType : Composite where
  name := .text "User"
  fields := [outerMap, hiddenMap]

def mappedContext : SchemaContext :=
  .of { composites := [mappedType] } {}

def plannedItems : PlannedField :=
  { field := outerMap, name := "items", number := 1, isExplicit := false
    type := .text "map<string, Item>", shape := .map, mapTypes := (.text "string", .text "Item")
    options := [], description := .text "" }

def plannedScores : PlannedField :=
  { field := hiddenMap, name := "scores", number := 2, isExplicit := false
    type := .text "map<double, string>", shape := .optional, mapTypes := DeclaredField.noMapTypes
    options := [], description := .text "" }

private theorem plan_mappedType :
    (mappedContext.plan mappedType (.text "User")).toOption.map (·.fields) =
      some [plannedItems, plannedScores] := by
  cbv

private theorem isUnbracketed_mappedContext : mappedContext.types.IsUnbracketed where
  overrides := by
    intro name type overridden
    have none : mappedContext.types.override? name = .ok none := rfl
    cases none.symm.trans overridden
  known := by
    intro name type known
    have none : mappedContext.types.knownSchemaType? name = .ok none := rfl
    cases none.symm.trans known
  aliases := by rintro entry ⟨⟩

theorem plan_mapType_outerMap :
    plannedItems.field.StatesNoType mappedContext.model ∧ mappedContext.types.IsUnbracketed ∧
      plannedItems.field.MapsOutside ∧
      ProtoText.declaredType {} plannedItems = .ok (ProtoText.mapText "" "string" "Item") ∧
      "string" ∈ mapKeyTypes ∧ '<' ∉ "Item".toList := by
  have silent : plannedItems.field.StatesNoType mappedContext.model := ⟨by cbv, {}, by cbv, rfl⟩
  have bare : plannedItems.field.annotatedMap? = .ok none := by cbv
  have outside : plannedItems.field.MapsOutside := by
    constructor
    · intro key value annotated
      cases bare.symm.trans annotated
    · intro _
      exact ⟨by rintro key value ⟨⟩, by decide, by decide⟩
  have written : ProtoText.declaredType {} plannedItems =
      .ok (ProtoText.mapText "" "string" "Item") := by
    cbv
  rcases exists_of_toOption_map plan_mappedType with ⟨plan, made, fields⟩
  have member : plannedItems ∈ plan.fields := fields ▸ List.mem_cons_self
  rcases plan_mapType mappedContext mappedType (.text "User") plan plannedItems "" "string" "Item"
    made member silent isUnbracketed_mappedContext outside written with ⟨-, admitted, unbracketed⟩
  exact ⟨silent, isUnbracketed_mappedContext, outside, written, admitted, unbracketed⟩

/-- A map under a pointer is written as it comes, with a label and with its key. -/
theorem plan_mapType_hiddenMap :
    ∃ plan, mappedContext.plan mappedType (.text "User") = .ok plan ∧ plannedScores ∈ plan.fields ∧
      plannedScores.field.StatesNoType mappedContext.model ∧
      ProtoText.declaredType {} plannedScores =
        .ok (ProtoText.mapText "optional " "double" "string") ∧
      "double" ∉ mapKeyTypes := by
  rcases exists_of_toOption_map plan_mappedType with ⟨plan, made, fields⟩
  have member : plannedScores ∈ plan.fields := fields ▸ List.mem_cons_of_mem _ List.mem_cons_self
  exact ⟨plan, made, member, ⟨by cbv, {}, by cbv, rfl⟩, by cbv, by decide⟩

end SchemaContext

end WireSchema
