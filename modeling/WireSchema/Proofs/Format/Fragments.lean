import WireSchema.Proofs.Format.Properties
import WireSchema.Proofs.Schema.References
import WireSchema.Proofs.Schema.Shapes

namespace WireSchema

/-!
# Fragments of a JSON Schema document and their references

A value refers to a target when the target stands as a reference anywhere in it.  A value is closed
when every such target is the place of a definition; the operations that build fragments keep closed
what is closed.  The fragment of a declared type is closed once every part of the type that is
looked up is built in, a parameter of its template, or named like something that is defined.
-/

open Asked

namespace Value

/-- Whether a value holds no others. -/
def isSingle : Value → Bool
  | list _ | map _ => false
  | _ => true

theorem isSingle_orElse {value other : Value} (first : value.isSingle = true)
    (second : other.isSingle = true) : (value.orElse other).isSingle = true := by
  unfold orElse
  split
  · exact first
  · exact second

end Value

namespace JsonSchema

/-! ## References -/

/-- A value refers to a target: somewhere in it the target stands as a
reference.  References are looked for at every depth, in the items of lists as
well as in the members of mappings. -/
inductive RefersTo (target : String) : Value → Prop where
  | here {members : Members} (stands : (.text "$ref", .text target) ∈ members) :
      RefersTo target (.map members)
  | item {items : List Value} {item : Value} (among : item ∈ items)
      (inside : RefersTo target item) : RefersTo target (.list items)
  | member {members : Members} {key value : Value} (among : (key, value) ∈ members)
      (inside : RefersTo target value) : RefersTo target (.map members)

/-- A target is the place of a definition with one of some names.  Which names
these are is left open, so that the lemmas on fragments serve every document. -/
def Leads (defined : String → Prop) (target : String) : Prop :=
  ∃ name, target = "#/definitions/" ++ name ∧ defined name

/-- Every reference in a value leads to a definition.  Which names are defined is
left open, since fragments are made before the definitions that they refer
to. -/
def IsClosed (defined : String → Prop) (value : Value) : Prop :=
  ∀ target, RefersTo target value → Leads defined target

/-- A member of which every reference leads to a definition, itself included.  A
member under another key than that of references is looked at only inside. -/
structure IsClosedMember (defined : String → Prop) (member : Value × Value) : Prop where
  own : ∀ target, member = (.text "$ref", .text target) → Leads defined target
  inside : IsClosed defined member.2

section Closed

variable {defined : String → Prop} {members others : Members} {key value : Value}

theorem isClosed_map_iff :
    IsClosed defined (.map members) ↔ ∀ member ∈ members, IsClosedMember defined member := by
  constructor
  · intro closed member among
    refine ⟨?_, fun target inside => closed target (.member among inside)⟩
    rintro target rfl
    exact closed target (.here among)
  · rintro each target (stands | _ | ⟨among, inside⟩)
    · exact (each _ stands).own target rfl
    · exact (each _ among).inside target inside

theorem isClosed_list {items : List Value} (each : ∀ item ∈ items, IsClosed defined item) :
    IsClosed defined (.list items) := by
  rintro target (_ | ⟨among, inside⟩)
  exact each _ among target inside

theorem isClosed_of_isSingle (single : value.isSingle = true) : IsClosed defined value := by
  rintro target (_ | _ | _) <;> cases single

theorem isClosed_list_map_text (texts : List String) :
    IsClosed defined (.list (texts.map .text)) := by
  refine isClosed_list fun item member => ?_
  rcases List.mem_map.mp member with ⟨content, -, rfl⟩
  exact isClosed_of_isSingle rfl

/-- Under any other name a member is closed when its value is. -/
theorem isClosedMember_of_ne (other : key ≠ .text "$ref") (closed : IsClosed defined value) :
    IsClosedMember defined (key, value) where
  own := fun _ same => absurd (Prod.mk.inj same).1 other
  inside := closed

/-- A member with members of its own is no reference, whatever its name. -/
theorem isClosedMember_map (closed : IsClosed defined (.map members)) :
    IsClosedMember defined (key, .map members) where
  own := by
    rintro target ⟨⟩
  inside := closed

theorem isClosed_append (first : IsClosed defined (.map members))
    (second : IsClosed defined (.map others)) : IsClosed defined (.map (members ++ others)) := by
  rw [isClosed_map_iff, List.forall_mem_append]
  exact ⟨isClosed_map_iff.mp first, isClosed_map_iff.mp second⟩

theorem isClosed_nil : IsClosed defined (.map []) := by
  rw [isClosed_map_iff]
  rintro member ⟨⟩

/-- A record without a reference of its own is closed when its values are. -/
theorem isClosed_record {members : List (String × Value)}
    (each : ∀ member ∈ members, member.1 ≠ "$ref" ∧ IsClosed defined member.2) :
    IsClosed defined (.record members) := by
  rw [Value.record, isClosed_map_iff]
  intro member among
  rcases List.mem_map.mp among with ⟨⟨name, value⟩, inside, rfl⟩
  rcases each _ inside with ⟨other, closed⟩
  exact isClosedMember_of_ne (fun same => other (Value.text.inj same)) closed

theorem isClosed_single {name : String} (other : name ≠ "$ref") (closed : IsClosed defined value) :
    IsClosed defined (.map (Members.ofTexts [(name, value)])) :=
  isClosed_record (List.forall_mem_singleton.mpr ⟨other, closed⟩)

/-- A table of values with members is closed when these are. -/
theorem isClosed_setKeys {pairs : List (Value × Value)}
    (each : ∀ pair ∈ pairs, ∃ members, pair.2 = .map members ∧ IsClosed defined (.map members)) :
    IsClosed defined (.map (setKeys pairs)) := by
  rw [isClosed_map_iff]
  rintro ⟨key, value⟩ member
  rcases exists_mem_of_mem_setKeys member with ⟨pair, among, rfl⟩
  rcases each pair among with ⟨members, value, closed⟩
  rw [value]
  exact isClosedMember_map closed

/-! ## Fragments -/

theorem isClosed_typed (type : String) : IsClosed defined (.map (typed type)) :=
  isClosed_single (by decide) (isClosed_of_isSingle rfl)

theorem isClosed_reference {name : String} (declared : defined name) :
    IsClosed defined (.map (reference (.text name))) := by
  refine isClosed_map_iff.mpr (List.forall_mem_singleton.mpr ⟨?_, isClosed_of_isSingle rfl⟩)
  rintro target ⟨⟩
  exact ⟨name, rfl, declared⟩

theorem isClosed_described {description : Value} (closed : IsClosed defined (.map members))
    (single : description.isSingle = true) :
    IsClosed defined (.map (described members description)) := by
  unfold described
  split
  · rw [isClosed_map_iff] at closed ⊢
    intro member among
    rcases mem_setKey_text among with rfl | before
    · exact isClosedMember_of_ne (by simp) (isClosed_of_isSingle single)
    · exact closed member before
  · exact closed

theorem isClosed_objectOf (closed : IsClosed defined (.map members)) :
    IsClosed defined (.map (objectOf members)) :=
  isClosed_append (isClosed_typed "object") (isClosed_single (by decide) closed)

theorem isClosed_arrayOf (closed : IsClosed defined (.map members)) :
    IsClosed defined (.map (arrayOf members)) :=
  isClosed_append (isClosed_typed "array") (isClosed_single (by decide) closed)

/-- A schema type with a fragment of its own.  Every other type is described by a
reference to the definition under its name. -/
def IsBuiltin (type : String) : Prop :=
  (lookupKey? type fragments).isSome = true

/-- Whether a member holds no others and is no reference. -/
def isPlainMember (member : Value × Value) : Bool :=
  member.2.isSingle && member.1.text? != some "$ref"

theorem isPlain_of_mem_fragments :
    ∀ entry ∈ fragments, entry.2.all isPlainMember = true := by
  decide +kernel

theorem isClosed_of_mem_fragments {entry : String × Members} (member : entry ∈ fragments) :
    IsClosed defined (.map entry.2) := by
  rw [isClosed_map_iff]
  rintro ⟨key, value⟩ among
  have plain := List.all_eq_true.mp (isPlain_of_mem_fragments entry member) _ among
  rcases Bool.and_eq_true_iff.mp plain with ⟨single, other⟩
  refine isClosedMember_of_ne ?_ (isClosed_of_isSingle single)
  rintro rfl
  cases other

/-- A schema type that has a fragment of its own or names a definition.  Any
other type would become a reference that leads nowhere. -/
def IsKnown (defined : String → Prop) (type : Value) : Prop :=
  ∃ name, type = .text name ∧ (IsBuiltin name ∨ defined name)

theorem isClosed_typeFragment {type : Value} {fragment : Members} (known : IsKnown defined type)
    (made : typeFragment type = .ok fragment) : IsClosed defined (.map fragment) := by
  rcases known with ⟨name, rfl, known⟩
  have fragment : (lookupKey? name fragments).getD (reference (.text name)) = fragment :=
    Except.ok.inj made
  rw [← fragment]
  cases found : lookupKey? name fragments with
  | some own =>
      rcases exists_of_lookupKey? found with ⟨entry, member, rfl⟩
      exact isClosed_of_mem_fragments member
  | none =>
      refine isClosed_reference (known.resolve_left fun builtin => ?_)
      rw [IsBuiltin, found] at builtin
      cases builtin

end Closed

end JsonSchema

/-! ## Types that name definitions -/

/-- A table for which options state no schema types.  Types that are configured
may be any texts, of which nobody promises that there is a definition. -/
structure TypeTable.IsUnconfigured (table : TypeTable) : Prop where
  override : ∀ name type, table.override? name ≠ .ok (some type)
  known : ∀ name type, table.knownSchemaType? name ≠ .ok (some type)

theorem TypeTable.mapName_of_isUnconfigured {table : TypeTable} (silent : table.IsUnconfigured)
    {name : String} {found : Value} (mapped : table.mapName name = .ok found) :
    found = .text ((lookupKey? name builtinTypes).getD (Text.afterLast '.' name)) := by
  rcases bind_eq_ok_iff.mp mapped with ⟨override?, overridden, rest⟩
  cases override? with
  | some type => exact absurd overridden (silent.override name type)
  | none =>
      rcases bind_eq_ok_iff.mp rest with ⟨known?, known, rest⟩
      cases known? with
      | some type => exact absurd known (silent.known name type)
      | none => exact (Except.ok.inj rest).symm

/-- A declared type of which every part that is looked up is built in, a parameter, or named like
something that is defined; an instantiation has an alias that is. -/
inductive TypeExpr.Resolves (table : TypeTable) (defined : String → Prop)
    (parameters : List Value) : TypeExpr → Prop where
  | builtin {name package : String}
      (known : (lookupKey? (qualify name package) builtinTypes).isSome = true) :
      Resolves table defined parameters (.named name package)
  | parameter {name : String} (declared : .text name ∈ parameters) :
      Resolves table defined parameters (.named name "")
  | named {name package : String}
      (declared : defined (Text.afterLast '.' (qualify name package))) :
      Resolves table defined parameters (.named name package)
  | pointer {elem : TypeExpr} (inside : Resolves table defined parameters elem) :
      Resolves table defined parameters (.pointer elem)
  | bytes {elem : TypeExpr} (bytes : (TypeExpr.sequence elem).isByteSequence = true) :
      Resolves table defined parameters (.sequence elem)
  | sequence {elem : TypeExpr} (inside : Resolves table defined parameters elem) :
      Resolves table defined parameters (.sequence elem)
  | mapping {key value : TypeExpr} (inside : Resolves table defined parameters value) :
      Resolves table defined parameters (.mapping key value)
  | aliased {name other : String} {args : List TypeExpr}
      (found : table.aliasFor? (.generic name args) = some (.text other))
      (declared : defined other) : Resolves table defined parameters (.generic name args)

theorem TypeExpr.Resolves.mono {table : TypeTable} {defined other : String → Prop}
    {parameters : List Value} {type : TypeExpr} (resolves : type.Resolves table defined parameters)
    (more : ∀ name, defined name → other name) : type.Resolves table other parameters := by
  induction resolves with
  | builtin known => exact .builtin known
  | parameter declared => exact .parameter declared
  | named declared => exact .named (more _ declared)
  | pointer _ ih => exact .pointer ih
  | bytes bytes => exact .bytes bytes
  | sequence _ ih => exact .sequence ih
  | mapping _ ih => exact .mapping ih
  | aliased found declared => exact .aliased found (more _ declared)

/-- A type of which no part but the outermost is a map.  Pointers and sequences
around a map hide it, as they are taken off before the type of the values is
named. -/
def TypeExpr.MapsOutermost : TypeExpr → Prop
  | .mapping _ value => value.unwrap.IsUnmapped
  | type => type.unwrap.IsUnmapped

namespace JsonSchema

section Types

variable {table : TypeTable} {defined : String → Prop} {parameters : List Value} {type : TypeExpr}
  {found : Value} {fragment : Members}

theorem isBuiltin_of_mem_builtinTypes : ∀ entry ∈ builtinTypes, IsBuiltin entry.2 := by
  unfold IsBuiltin
  decide +kernel

theorem isKnown_bytes : IsKnown defined (.text "bytes") :=
  ⟨"bytes", rfl, Or.inl (isBuiltin_of_mem_builtinTypes ("bytes", "bytes") (by decide))⟩

theorem isKnown_of_mapName (silent : table.IsUnconfigured) {name : String}
    (known : (lookupKey? name builtinTypes).isSome = true ∨ defined (Text.afterLast '.' name))
    (mapped : table.mapName name = .ok found) : IsKnown defined found := by
  refine ⟨_, table.mapName_of_isUnconfigured silent mapped, ?_⟩
  cases builtin : lookupKey? name builtinTypes with
  | some type =>
      rcases exists_of_lookupKey? builtin with ⟨entry, member, rfl⟩
      exact Or.inl (isBuiltin_of_mem_builtinTypes entry member)
  | none =>
      rw [builtin] at known
      exact Or.inr (known.resolve_left nofun)

theorem isKnown_of_alias {name other : String} {args : List TypeExpr}
    (aliased : table.aliasFor? (.generic name args) = some (.text other)) (declared : defined other)
    (read : table.schemaType (.generic name args) = .ok found) : IsKnown defined found := by
  rw [TypeTable.schemaType, aliased] at read
  exact ⟨other, (Except.ok.inj read).symm, Or.inr declared⟩

/-- Outside of templates the schema type of a type without maps is known. -/
theorem isKnown_of_schemaType (silent : table.IsUnconfigured)
    (resolves : type.Resolves table defined []) (unmapped : type.unwrap.IsUnmapped)
    (read : table.schemaType type = .ok found) : IsKnown defined found := by
  induction resolves with
  | builtin known =>
      rw [TypeTable.schemaType] at read
      exact isKnown_of_mapName silent (Or.inl known) read
  | parameter declared => cases declared
  | named declared =>
      rw [TypeTable.schemaType] at read
      exact isKnown_of_mapName silent (Or.inr declared) read
  | pointer inside ih =>
      rw [TypeTable.schemaType] at read
      exact ih unmapped read
  | bytes bytes =>
      rw [TypeTable.schemaType, if_pos bytes] at read
      exact Except.ok.inj read ▸ isKnown_bytes
  | sequence inside ih =>
      rw [TypeTable.schemaType] at read
      rw [TypeExpr.unwrap] at unmapped
      split at read
      · exact Except.ok.inj read ▸ isKnown_bytes
      · rename_i values
        rw [if_neg values] at unmapped
        exact ih unmapped read
  | mapping => exact absurd rfl (unmapped _ _)
  | aliased found declared => exact isKnown_of_alias found declared read

/-- The fragment of a named type inside a template. -/
theorem isClosed_namedFragment (silent : table.IsUnconfigured) {name package : String}
    (known : (lookupKey? (TypeExpr.qualify name package) builtinTypes).isSome = true ∨
      defined (Text.afterLast '.' (TypeExpr.qualify name package)))
    (made : exprFragment table parameters (.named name package) = .ok fragment) :
    IsClosed defined (.map fragment) := by
  rw [exprFragment] at made
  split at made
  · cases made
    exact isClosed_nil
  · rcases bind_eq_ok_iff.mp made with ⟨type, read, made⟩
    rw [TypeTable.schemaType] at read
    exact isClosed_typeFragment (isKnown_of_mapName silent known read) made

/-- Inside a template the references of a type lead to definitions, whatever stands around them.
The induction is on how the type resolves, which follows the recursion of its fragment. -/
theorem isClosed_exprFragment (silent : table.IsUnconfigured)
    (resolves : type.Resolves table defined parameters)
    (made : exprFragment table parameters type = .ok fragment) :
    IsClosed defined (.map fragment) := by
  induction resolves generalizing fragment with
  | builtin known => exact isClosed_namedFragment silent (Or.inl known) made
  | named declared => exact isClosed_namedFragment silent (Or.inr declared) made
  | @parameter name declared =>
      have bound : parameters.contains (.text name) = true := by
        rw [List.contains_eq_any_beq]
        exact List.any_eq_true.mpr ⟨_, declared, Value.text_beq_iff.mpr rfl⟩
      rw [exprFragment, bound] at made
      cases made
      exact isClosed_nil
  | pointer inside ih =>
      rw [exprFragment] at made
      exact ih made
  | bytes bytes =>
      rw [exprFragment, if_pos bytes] at made
      exact isClosed_typeFragment isKnown_bytes made
  | sequence inside ih =>
      rw [exprFragment] at made
      split at made
      · exact isClosed_typeFragment isKnown_bytes made
      · rcases bind_eq_ok_iff.mp made with ⟨item, own, final⟩
        cases final
        exact isClosed_arrayOf (ih own)
  | mapping inside ih =>
      rw [exprFragment] at made
      rcases bind_eq_ok_iff.mp made with ⟨value, own, final⟩
      cases final
      exact isClosed_objectOf (ih own)
  | aliased found declared =>
      rw [exprFragment] at made
      rcases bind_eq_ok_iff.mp made with ⟨type, read, made⟩
      exact isClosed_typeFragment (isKnown_of_alias found declared read) made

end Types

end JsonSchema

end WireSchema
