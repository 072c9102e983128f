import WireSchema.Document.Fault

namespace WireSchema.Template

/-!
What names stand for in a template.

A name stands for a value of a document or for a record of the tool.  A record is shown with its
kind and its parts; it can also have members that are derived from the parts and not shown with it,
and a derived member may be lacking because a part has the wrong kind.  Values have a few members of
their own: those of a mapping by their names, the parts of a number or of a day by theirs, and the
items of a list and the characters of a text by their places.
-/

/-- What a name stands for. -/
inductive Datum where
  | value (value : Value)
  | list (items : List Datum)
  /-- A record with the parts that are shown and the members that are derived from them. -/
  | record (kind : String) (parts derived : List (String × Datum))
  /-- A derived member that cannot be had. -/
  | fault (fault : ShapeFault)
  /-- Something that is only known by the text with which it is shown. -/
  | symbol (shown : String)
deriving Repr, Inhabited

inductive LookupFault where
  /-- A name stands for nothing, and something is looked up in it. -/
  | undefined
  /-- A member cannot be had. -/
  | shape (fault : ShapeFault)
deriving DecidableEq, Repr

namespace Datum

def text (content : String) : Datum := value (.text content)

def bool (content : Bool) : Datum := value (.bool content)

/-- A derived text, which may not be to be had. -/
def ofAsked : Asked String → Datum
  | .ok content => text content
  | .error reason => fault reason

/-! ## Showing -/

mutual

/-- How a datum stands inside another one that is shown. -/
def quoted : Datum → String
  | .value held => held.quoted
  | .list items => "[" ++ String.intercalate ", " (quotedItems items) ++ "]"
  | .record kind parts _ => kind ++ "(" ++ String.intercalate ", " (quotedParts parts) ++ ")"
  | .fault _ => ""
  | .symbol shown => shown

/-- The items of a list as they stand inside it. -/
def quotedItems : List Datum → List String
  | [] => []
  | item :: items => item.quoted :: quotedItems items

/-- The parts of a record as they stand inside it. -/
def quotedParts : List (String × Datum) → List String
  | [] => []
  | (name, part) :: parts => (name ++ "=" ++ part.quoted) :: quotedParts parts

end

/-- How a datum is shown by itself. -/
def display : Datum → String
  | .value held => held.display
  | datum => datum.quoted

/-! ## Members -/

/-- The parts of a number by their names; another value has none. -/
def numberPart? (number : Value) (name : String) : Option Value :=
  match number, name with
  | .bool flag, "real" => some (.int (if flag then 1 else 0))
  | .bool flag, "numerator" => some (.int (if flag then 1 else 0))
  | .bool _, "imag" => some (.int 0)
  | .bool _, "denominator" => some (.int 1)
  | .int amount, "real" => some (.int amount)
  | .int amount, "numerator" => some (.int amount)
  | .int _, "imag" => some (.int 0)
  | .int _, "denominator" => some (.int 1)
  | .float amount, "real" => some (.float amount)
  | .float _, "imag" => some (.float (Decimal.Binary64.ofDecimal false 0 0))
  | _, _ => none

def dayPart? (day : Date) : String → Option Value
  | "year" => some (.int day.year)
  | "month" => some (.int day.month)
  | "day" => some (.int day.day)
  | _ => none

/-- The item of a list or the character of a text at a place. -/
def itemAt? (value : Value) (place : Nat) : Option Value :=
  match value with
  | .list items => items[place]?
  | .text content => content.toList[place]?.map fun c => .text (String.singleton c)
  | .map members => lookupKey? (.int place) members
  | _ => none

def valueMember? (value : Value) (name : String) : Option Value :=
  match value with
  | .map members => Members.get? members name
  | .date day => dayPart? day name
  | value => numberPart? value name

/-- How the kind of mappings is shown. -/
def mappingKind : String := "<class 'dict'>"

def keyedMappingKind (key : String) : Datum := .symbol ("dict[" ++ Text.quoted key ++ "]")

/-- What a name leads to from a datum; nothing when there is no such member. -/
def member? (datum : Datum) (name : String) : Except LookupFault (Option Datum) :=
  match datum with
  | .value held => .ok ((valueMember? held name).map Datum.value)
  | .symbol shown => .ok (if shown == mappingKind then some (keyedMappingKind name) else none)
  | .record _ parts derived =>
      match lookupKey? name (parts ++ derived) with
      | some (.fault .noOperation) => .ok none
      | some (.fault reason) => .error (.shape reason)
      | found => .ok found
  | _ => .ok none

/-- What a place leads to from a datum; nothing when there is no such item. -/
def item? (datum : Datum) (place : Nat) : Option Datum :=
  match datum with
  | .value held => (itemAt? held place).map Datum.value
  | .list items => items[place]?
  | _ => none

end Datum

/-- The names of a template and what they stand for. -/
abbrev Scope := List (String × Datum)

def scopeOf (members : Members) : Scope :=
  members.filterMap fun member => member.1.text?.map fun name => (name, .value member.2)

end WireSchema.Template
