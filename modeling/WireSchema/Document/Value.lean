import WireSchema.Decimal.Shortest
import WireSchema.Text.Quoted

namespace WireSchema

/-!
Values of a document.

A model and its options are read from documents whose values need not have the kind a reader would
expect.  The tool keeps such values as they stand and decides only where a value is used, so this
is the one dynamic type of the library.  Two values are the same when they are equal in content:
numbers by their amount, whatever their kind, with the truth values counting as one and zero, lists
item by item, and mappings member by member in any order.  Members of a mapping keep the order in
which their keys first appear; a later value for the same key takes the earlier place.
-/

/-- A calendar day. -/
structure Date where
  year : Nat
  month : Nat
  day : Nat
deriving DecidableEq, Repr, Inhabited

/-- A value of a document. -/
inductive Value where
  | null
  | bool (value : Bool)
  | int (value : Int)
  | float (value : Decimal.Binary64)
  | date (value : Date)
  | text (value : String)
  | list (items : List Value)
  | map (members : List (Value × Value))
deriving Repr, Inhabited

/-- The members of a mapping, in order. -/
abbrev Members := List (Value × Value)

namespace Value

/-- The place in the order of numbers, for a value that counts as a number. -/
def numberPlace? : Value → Option (Int × Int)
  | bool value => some (Decimal.integerPlace (if value then 1 else 0))
  | int value => some (Decimal.integerPlace value)
  | float value => value.place?
  | _ => none

/-- Whether two values that hold no others are the same.  Numbers are compared by
their place in the order, so that a truth value is the same as zero or one. -/
def sameScalar (first second : Value) : Bool :=
  match first, second with
  | null, null => true
  | date first, date second => first == second
  | text first, text second => first == second
  | first, second =>
      match first.numberPlace?, second.numberPlace? with
      | some firstPlace, some secondPlace => firstPlace == secondPlace
      | _, _ => false

mutual

def same : Value → Value → Bool
  | list items, other =>
      match other with
      | list others => sameItems items others
      | _ => false
  | map members, other =>
      match other with
      | map others => members.length == others.length && includes others members
      | _ => false
  | first, second => sameScalar first second

def sameItems : List Value → List Value → Bool
  | [], others => others.isEmpty
  | item :: items, others =>
      match others with
      | other :: rest => same item other && sameItems items rest
      | [] => false

/-- Whether every member is also found among others. -/
def includes (others : List (Value × Value)) : List (Value × Value) → Bool
  | [] => true
  | (key, value) :: members =>
      (others.any fun other => same key other.1 && same value other.2) && includes others members

end

end Value

/-- Values are compared by their content. -/
instance : BEq Value := ⟨Value.same⟩

/-- Sets the value of a key in a list of pairs: in its place when the key is present, at the end
otherwise. -/
def setKey {κ α : Type} [BEq κ] (key : κ) (value : α) : List (κ × α) → List (κ × α)
  | [] => [(key, value)]
  | entry :: rest =>
      if entry.1 == key then (entry.1, value) :: rest else entry :: setKey key value rest

/-- The pairs of a list with each key in the place of its first and with the value of its last
appearance. -/
def setKeys {κ α : Type} [BEq κ] (pairs : List (κ × α)) : List (κ × α) :=
  pairs.foldl (fun kept pair => setKey pair.1 pair.2 kept) []

/-- The value of a key in a list of pairs: the first one. -/
def lookupKey? {κ α : Type} [BEq κ] (key : κ) (pairs : List (κ × α)) : Option α :=
  (pairs.find? (·.1 == key)).map (·.2)

/-- Adds a pair at the end unless its key is present already.  The first value of
a key stays, other than in a mapping that is being filled. -/
def addKey {κ α : Type} [BEq κ] (key : κ) (value : α) (pairs : List (κ × α)) : List (κ × α) :=
  if pairs.any (·.1 == key) then pairs else pairs ++ [(key, value)]

def Members.ofTexts (members : List (String × Value)) : Members :=
  members.map fun member => (.text member.1, member.2)

def Members.get? (members : Members) (name : String) : Option Value :=
  lookupKey? (.text name) members

/-- The value of a member of a mapping, or a default when it is absent. -/
def Members.getD (members : Members) (name : String) (default : Value) : Value :=
  (Members.get? members name).getD default

namespace Value

/-- A mapping with texts as its keys. -/
def record (members : List (String × Value)) : Value := map (Members.ofTexts members)

/-- Whether a value counts as given: everything but null, false, zero and what
is empty.  Options and members that do not count are treated as if they were
absent. -/
def isTruthy : Value → Bool
  | null => false
  | bool value => value
  | int value => value != 0
  | float value => !value.isZero
  | date _ => true
  | text value => value != ""
  | list items => !items.isEmpty
  | map members => !members.isEmpty

/-- The first value when it counts as given, the second one otherwise. -/
def orElse (value other : Value) : Value :=
  if value.isTruthy then value else other

/-- A number with at least the given count of digits. -/
def paddedText (width value : Nat) : String :=
  let digits := Nat.toDigits 10 value
  String.ofList (List.replicate (width - digits.length) '0' ++ digits)

/-- A calendar day as year, month and day. -/
def dateText (date : Date) : String :=
  paddedText 4 date.year ++ "-" ++ paddedText 2 date.month ++ "-" ++ paddedText 2 date.day

mutual

/-- How a value stands inside a message: texts are quoted, collections are
written out.  In an output a text stands as it is, and only the texts inside a
collection are quoted. -/
def quoted : Value → String
  | null => "None"
  | bool true => "True"
  | bool false => "False"
  | int value => toString value
  | float value => value.text
  | date value =>
      "datetime.date(" ++ toString value.year ++ ", " ++ toString value.month ++ ", "
        ++ toString value.day ++ ")"
  | text value => Text.quoted value
  | list items => "[" ++ String.intercalate ", " (quotedItems items) ++ "]"
  | map members => "\x7b" ++ String.intercalate ", " (quotedMembers members) ++ "\x7d"

/-- The items of a list as they stand inside a message. -/
def quotedItems : List Value → List String
  | [] => []
  | item :: items => item.quoted :: quotedItems items

/-- The members of a mapping as they stand inside a message. -/
def quotedMembers : List (Value × Value) → List String
  | [] => []
  | (key, value) :: members => (key.quoted ++ ": " ++ value.quoted) :: quotedMembers members

end

/-- How a value is printed: a text as it is, a day as year, month and day, and everything else as
in a message. -/
def display : Value → String
  | text value => value
  | date value => dateText value
  | value => value.quoted

def text? : Value → Option String
  | text value => some value
  | _ => none

def members? : Value → Option Members
  | map members => some members
  | _ => none

def member? (value : Value) (name : String) : Option Value :=
  value.members?.bind fun members => Members.get? members name

/-- Whether a value can be the key of a mapping: collections cannot. -/
def isKey : Value → Bool
  | list _ => false
  | map _ => false
  | _ => true

@[simp] theorem display_text (value : String) : (Value.text value).display = value := rfl

@[simp] theorem isTruthy_text (value : String) :
    (Value.text value).isTruthy = (value != "") := rfl

@[simp] theorem text_beq_text (first second : String) :
    (Value.text first == Value.text second) = (first == second) := by
  simp [BEq.beq, same, sameScalar]

end Value

end WireSchema
