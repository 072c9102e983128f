import WireSchema.Document.Json.Printer
import WireSchema.Proofs.Document.Asked

namespace WireSchema.Json

/-!
# How a JSON document stands in its text

A document with indentation is described here in characters: how a string stands between quotes,
where brackets and commas stand, and with how many blanks a line begins.  The description is a
relation between a value and its text that follows the grammar of JSON, and it does not mention the
functions that print; what they print is shown to be described by it.
-/

open Asked

/-! ## Strings -/

/-- The escape of a unit of UTF-16: its number in four hexadecimal digits.  The
digits say what the unit is, so two units have different escapes. -/
def IsUnitEscape (unit : Nat) (spelling : List Char) : Prop :=
  ∃ first < 16, ∃ second < 16, ∃ third < 16, ∃ fourth < 16,
    unit = ((first * 16 + second) * 16 + third) * 16 + fourth ∧
      spelling = ['\\', 'u', Nat.digitChar first, Nat.digitChar second, Nat.digitChar third,
        Nat.digitChar fourth]

/-- How a character may stand in a string.  What is printable in the basic Latin block stands for
itself, except for the two characters with a meaning of their own; a character beyond the first
65536 is spelled as two units. -/
inductive IsSpelled : Char → List Char → Prop where
  | plain {c : Char} (printable : 0x20 ≤ c.toNat ∧ c.toNat < 0x7f) (quote : c ≠ '"')
      (mark : c ≠ '\\') : IsSpelled c [c]
  | marked {c : Char} (special : c = '"' ∨ c = '\\') : IsSpelled c ['\\', c]
  | control {c letter : Char}
      (known : (c.toNat, letter) ∈ [(8, 'b'), (9, 't'), (10, 'n'), (12, 'f'), (13, 'r')]) :
      IsSpelled c ['\\', letter]
  | unit {c : Char} {spelling : List Char} (escape : IsUnitEscape c.toNat spelling) :
      IsSpelled c spelling
  | pair {c : Char} {high low : Nat} {first second : List Char}
      (number : c.toNat = 0x10000 + high * 0x400 + low) (bound : low < 0x400)
      (upper : IsUnitEscape (0xd800 + high) first) (lower : IsUnitEscape (0xdc00 + low) second) :
      IsSpelled c (first ++ second)

/-- A string in writing: its characters between quotes, each one spelled.  A
quote inside is always marked, so that the closing one can be found. -/
def IsLiteral (content literal : String) : Prop :=
  ∃ spellings, List.Forall₂ IsSpelled content.toList spellings ∧
    literal = "\"" ++ String.ofList spellings.flatten ++ "\""

theorem toNat_lt (c : Char) : c.toNat < 0x110000 := by
  rcases c.valid with low | high
  · exact Nat.lt_trans low (by decide)
  · exact high.2

theorem isUnitEscape_unitEscape {unit : Nat} (small : unit < 0x10000) :
    IsUnitEscape unit (unitEscape unit) :=
  ⟨unit / 16 / 16 / 16 % 16, Nat.mod_lt _ (by decide), unit / 16 / 16 % 16,
    Nat.mod_lt _ (by decide), unit / 16 % 16, Nat.mod_lt _ (by decide), unit % 16,
    Nat.mod_lt _ (by decide), by omega, rfl⟩

theorem isSpelled_escapeChar (c : Char) : IsSpelled c (escapeChar c) := by
  by_cases quote : c = '"'
  · subst quote
    exact .marked (.inl rfl)
  by_cases mark : c = '\\'
  · subst mark
    exact .marked (.inr rfl)
  rw [escapeChar, if_neg quote, if_neg mark]
  split
  · rename_i feed
    exact .control (by rw [feed]; decide)
  split
  · rename_i carriage
    exact .control (by rw [carriage]; decide)
  split
  · rename_i tab
    exact .control (by rw [tab]; decide)
  split
  · rename_i back
    exact .control (by rw [back]; decide)
  split
  · rename_i feed
    exact .control (by rw [feed]; decide)
  split
  · rename_i printable
    rw [Bool.and_eq_true, decide_eq_true_eq, decide_eq_true_eq] at printable
    exact .plain printable quote mark
  split
  · rename_i small
    exact .unit (isUnitEscape_unitEscape small)
  · rename_i large
    -- Characters end below 0x110000, so that both units are below 0x10000.
    have bound := toNat_lt c
    exact .pair (by omega) (Nat.mod_lt _ (by decide)) (isUnitEscape_unitEscape (by omega))
      (isUnitEscape_unitEscape (by omega))

theorem isLiteral_stringText (content : String) : IsLiteral content (stringText content) := by
  refine ⟨content.toList.map escapeChar, ?_, ?_⟩
  · exact List.forall₂_map_right_iff.mpr
      (List.forall₂_same.mpr fun c _ => isSpelled_escapeChar c)
  · simp [stringText, List.flatMap_def, ← String.toList_inj, String.toList_append]

/-! ## Values -/

/-- A value that is written without quotes and holds no others. -/
inductive IsWord : Value → String → Prop where
  | null : IsWord .null "null"
  | false : IsWord (.bool false) "false"
  | true : IsWord (.bool true) "true"
  | int (number : Int) : IsWord (.int number) (toString number)
  | float (number : Decimal.Binary64) : IsWord (.float number) number.jsonText

/-- The text that a key has inside its quotes: that of the key, or the word that
it would be as a value. -/
inductive IsKeyText : Value → String → Prop where
  | text (content : String) : IsKeyText (.text content) content
  | word {key : Value} {name : String} (word : IsWord key name) : IsKeyText key name

/-- The start of a line: a line feed, and two blanks for each level. -/
def lineStart (depth : Nat) : String :=
  "\n" ++ String.ofList (List.replicate (2 * depth) ' ')

mutual

/-- A text is a value in writing.  The depth is that of the line on which the
value begins; its closing bracket is as deep, and what it holds is one deeper. -/
inductive IsLaidOut : Nat → Value → String → Prop where
  | word {depth : Nat} {value : Value} {text : String} (word : IsWord value text) :
      IsLaidOut depth value text
  | text {depth : Nat} {content literal : String} (spelled : IsLiteral content literal) :
      IsLaidOut depth (.text content) literal
  | noItems {depth : Nat} : IsLaidOut depth (.list []) "[]"
  | list {depth : Nat} {items : List Value} {lines : String}
      (each : AreItems (depth + 1) items lines) :
      IsLaidOut depth (.list items) ("[" ++ lines ++ lineStart depth ++ "]")
  | noMembers {depth : Nat} : IsLaidOut depth (.map []) "\x7b\x7d"
  | map {depth : Nat} {members : Members} {lines : String}
      (each : AreMembers (depth + 1) members lines) :
      IsLaidOut depth (.map members) ("\x7b" ++ lines ++ lineStart depth ++ "\x7d")

/-- The items of a list, each on a line of its own, with commas between them.
There is at least one; a list without items stays on the line of its
brackets. -/
inductive AreItems : Nat → List Value → String → Prop where
  | last {depth : Nat} {item : Value} {text : String} (own : IsLaidOut depth item text) :
      AreItems depth [item] (lineStart depth ++ text)
  | more {depth : Nat} {item : Value} {items : List Value} {text lines : String}
      (own : IsLaidOut depth item text) (others : AreItems depth items lines) :
      AreItems depth (item :: items) (lineStart depth ++ text ++ "," ++ lines)

/-- The members of a mapping likewise, each with its key and a colon before it.
They stand in the order of the mapping, which is that of the names in the
text. -/
inductive AreMembers : Nat → Members → String → Prop where
  | last {depth : Nat} {key value : Value} {name literal text : String}
      (named : IsKeyText key name) (spelled : IsLiteral name literal)
      (own : IsLaidOut depth value text) :
      AreMembers depth [(key, value)] (lineStart depth ++ literal ++ ": " ++ text)
  | more {depth : Nat} {key value : Value} {members : Members}
      {name literal text lines : String} (named : IsKeyText key name)
      (spelled : IsLiteral name literal) (own : IsLaidOut depth value text)
      (others : AreMembers depth members lines) :
      AreMembers depth ((key, value) :: members)
        (lineStart depth ++ literal ++ ": " ++ text ++ "," ++ lines)

end

theorem lineAt_eq_lineStart (depth : Nat) : lineAt depth = lineStart depth := by
  simp [lineAt, lineStart]

theorem isKeyText_of_keyText {key : Value} {name : String} (written : keyText key = .ok name) :
    IsKeyText key name := by
  cases key with
  | text content =>
      cases written
      exact .text _
  | bool truth => cases truth <;> cases written <;> exact .word (by constructor)
  | null | int _ | float _ =>
      cases written
      exact .word (by constructor)
  | date _ | list _ | map _ => cases written

/-- Lines of which there is at least one, as they stand between brackets. -/
def joined (depth : Nat) (parts : List String) : String :=
  lineStart depth ++ String.intercalate ("," ++ lineStart depth) parts

theorem joined_singleton (depth : Nat) (part : String) :
    joined depth [part] = lineStart depth ++ part := by
  rw [joined, String.intercalate_singleton]

theorem joined_cons_cons (depth : Nat) (part other : String) (parts : List String) :
    joined depth (part :: other :: parts) =
      lineStart depth ++ part ++ "," ++ joined depth (other :: parts) := by
  rw [joined, joined, String.intercalate_cons_cons]
  simp only [String.append_assoc]

theorem bracketLines_of_ne_nil (opening closing : String) (depth : Nat) {parts : List String}
    (some : parts ≠ []) : bracketLines opening closing depth parts =
      opening ++ joined (depth + 1) parts ++ lineStart depth ++ closing := by
  rw [bracketLines, if_neg (by simpa using some), joined]
  simp only [lineAt_eq_lineStart, String.append_assoc]

/-- A member on its line: its key between quotes, and its value after a colon. -/
def IsMember (depth : Nat) (member : Value × Value) (line : String) : Prop :=
  ∃ name literal text, IsKeyText member.1 name ∧ IsLiteral name literal ∧
    IsLaidOut depth member.2 text ∧ line = literal ++ ": " ++ text

theorem areItems_joined {depth : Nat} {items : List Value} {parts : List String}
    (each : List.Forall₂ (IsLaidOut depth) items parts) (some : items ≠ []) :
    AreItems depth items (joined depth parts) := by
  induction each with
  | nil => exact absurd rfl some
  | cons own others ih =>
      cases others with
      | nil =>
          rw [joined_singleton]
          exact .last own
      | cons _ _ =>
          rw [joined_cons_cons]
          exact .more own (ih (List.cons_ne_nil _ _))

theorem areMembers_joined {depth : Nat} {members : Members} {parts : List String}
    (each : List.Forall₂ (IsMember depth) members parts) (some : members ≠ []) :
    AreMembers depth members (joined depth parts) := by
  induction each with
  | nil => exact absurd rfl some
  | cons own others ih =>
      rcases own with ⟨name, literal, text, named, spelled, own, rfl⟩
      cases others with
      | nil =>
          rw [joined_singleton, ← String.append_assoc, ← String.append_assoc]
          exact .last named spelled own
      | cons _ _ =>
          rw [joined_cons_cons, ← String.append_assoc, ← String.append_assoc]
          exact .more named spelled own (ih (List.cons_ne_nil _ _))

theorem isLaidOut_list {depth : Nat} {items : List Value} {parts : List String}
    (each : List.Forall₂ (IsLaidOut (depth + 1)) items parts) :
    IsLaidOut depth (.list items) (bracketLines "[" "]" depth parts) := by
  cases each with
  | nil => exact .noItems
  | cons own others =>
      rw [bracketLines_of_ne_nil _ _ _ (List.cons_ne_nil _ _)]
      exact .list (areItems_joined (.cons own others) (List.cons_ne_nil _ _))

theorem isLaidOut_map {depth : Nat} {members : Members} {parts : List String}
    (each : List.Forall₂ (IsMember (depth + 1)) members parts) :
    IsLaidOut depth (.map members) (bracketLines "\x7b" "\x7d" depth parts) := by
  cases each with
  | nil => exact .noMembers
  | cons own others =>
      rw [bracketLines_of_ne_nil _ _ _ (List.cons_ne_nil _ _)]
      exact .map (areMembers_joined (.cons own others) (List.cons_ne_nil _ _))

mutual

/-- What is printed with indentation is laid out. -/
theorem isLaidOut_of_indented {depth : Nat} : ∀ {value : Value} {text : String},
    indented depth value = .ok text → IsLaidOut depth value text
  | .null, _, printed => by
      cases printed
      exact .word .null
  | .bool false, _, printed => by
      cases printed
      exact .word .false
  | .bool true, _, printed => by
      cases printed
      exact .word .true
  | .int number, _, printed => by
      cases printed
      exact .word (.int number)
  | .float number, _, printed => by
      cases printed
      exact .word (.float number)
  | .date _, _, printed => by cases printed
  | .text content, _, printed => by
      cases printed
      exact .text (isLiteral_stringText content)
  | .list items, _, printed => by
      rcases bind_eq_ok_iff.mp printed with ⟨parts, each, final⟩
      cases final
      exact isLaidOut_list (areLaidOut_of_indentedItems each)
  | .map members, _, printed => by
      rcases bind_eq_ok_iff.mp printed with ⟨parts, each, final⟩
      cases final
      exact isLaidOut_map (areLaidOut_of_indentedMembers each)

theorem areLaidOut_of_indentedItems {depth : Nat} : ∀ {items : List Value} {parts : List String},
    indentedItems depth items = .ok parts → List.Forall₂ (IsLaidOut depth) items parts
  | [], _, printed => by
      cases printed
      exact .nil
  | item :: items, _, printed => by
      rcases bind_eq_ok_iff.mp printed with ⟨part, first, rest⟩
      rcases bind_eq_ok_iff.mp rest with ⟨others, each, final⟩
      cases final
      exact .cons (isLaidOut_of_indented first) (areLaidOut_of_indentedItems each)

theorem areLaidOut_of_indentedMembers {depth : Nat} : ∀ {members : Members} {parts : List String},
    indentedMembers depth members = .ok parts → List.Forall₂ (IsMember depth) members parts
  | [], _, printed => by
      cases printed
      exact .nil
  | (key, value) :: members, _, printed => by
      rcases bind_eq_ok_iff.mp printed with ⟨name, named, rest⟩
      rcases bind_eq_ok_iff.mp rest with ⟨text, first, rest⟩
      rcases bind_eq_ok_iff.mp rest with ⟨others, each, final⟩
      cases final
      exact .cons ⟨name, _, text, isKeyText_of_keyText named, isLiteral_stringText name,
        isLaidOut_of_indented first, rfl⟩ (areLaidOut_of_indentedMembers each)

end

end WireSchema.Json
