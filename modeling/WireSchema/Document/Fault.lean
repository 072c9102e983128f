import WireSchema.Document.Value
import WireSchema.Text.Cut
import WireSchema.Text.Integer

namespace WireSchema

/-!
Values of the wrong kind, and the ways in which they are noticed.

Documents are not checked against a schema before use.  A value of the wrong kind is noticed where
a reader needs something of it that it does not have, and the fault says what was needed.  The
functions here ask a value for its members, its items, its text or its place in an order, each in
the way in which it is needed.
-/

/-- What was needed of a value that does not have it.  The cases are told apart
because a run reports them in different words, and because a missing member of a
model has a report of its own. -/
inductive ShapeFault where
  /-- Members or the operations of a text were needed of a value of another kind. -/
  | noOperation
  /-- The value stands where its kind is not admitted: it cannot be counted through, indexed,
  compared or printed there. -/
  | wrongKind
  /-- A mapping lacks a member that is required. -/
  | missing (name : String)
  /-- The value has the right kind but its content cannot be used. -/
  | badContent
deriving DecidableEq, Repr

/-- What is asked of values, which may not have it. -/
abbrev Asked (α : Type) := Except ShapeFault α

namespace Value

/-! ## Members and items -/

def askMembers : Value → Asked Members
  | map members => .ok members
  | _ => .error .noOperation

def require (value : Value) (name : String) : Asked Value :=
  match value with
  | map members =>
      match Members.get? members name with
      | some member => .ok member
      | none => .error (.missing name)
  | _ => .error .wrongKind

/-- The items of a value that is counted through: the items of a list, the characters of a text or
the keys of a mapping. -/
def items : Value → Asked (List Value)
  | list items => .ok items
  | text value => .ok (value.toList.map fun c => text (String.singleton c))
  | map members => .ok (members.map (·.1))
  | _ => .error .wrongKind

/-- The items of a value, where one that does not count as given has none. -/
def itemsIfGiven (value : Value) : Asked (List Value) :=
  if value.isTruthy then value.items else .ok []

/-- The members of a value, where one that does not count as given has none. -/
def membersIfGiven (value : Value) : Asked Members :=
  if value.isTruthy then value.askMembers else .ok []

/-- The value of a text in a value that is searched for it: of a key in a mapping.  A list or a
text can be searched too, but what is found there cannot be looked up. -/
def lookup? (value : Value) (name : String) : Asked (Option Value) :=
  match value with
  | map members => .ok (Members.get? members name)
  | list items => if items.contains (text name) then .error .wrongKind else .ok none
  | text value => if Text.contains value name then .error .wrongKind else .ok none
  | _ => .error .wrongKind

/-! ## Texts -/

/-- The text of a value on which an operation of texts is carried out.  Another
value lacks the operation, which is not the same fault as a text in the wrong
place. -/
def askText : Value → Asked String
  | text value => .ok value
  | _ => .error .noOperation

/-- The text of a value in which parts are replaced.  A day has such an operation too, but its
parts are no texts. -/
def askReplaceable : Value → Asked String
  | text value => .ok value
  | date _ => .error .wrongKind
  | _ => .error .noOperation

/-- The text of a value that stands where only a text is admitted.  Another value
is of the wrong kind there, whatever operations it has. -/
def admitText : Value → Asked String
  | text value => .ok value
  | _ => .error .wrongKind

/-- The text of a value that is put into a line of output as a number.  Other values are printed as
they are; an integer must not have too many digits to be written. -/
def askNumeral : Value → Asked String
  | int number =>
      match Text.writeInteger? number with
      | some numeral => .ok numeral
      | none => .error .badContent
  | value => .ok value.display

/-! ## Keys and order -/

def askKey (value : Value) : Asked Value :=
  if value.isKey then .ok value else .error .wrongKind

def askKeys (values : List Value) : Asked (List Value) := values.mapM askKey

/-- The values of a list without those that are the same as an earlier one.
Values of different kinds can be the same, and then the first one stays. -/
def distinct (values : List Value) : List Value :=
  values.foldl (fun kept value => if kept.contains value then kept else kept ++ [value]) []

/-- The kinds of values that have an order among themselves. -/
inductive OrderKind where
  | numbers
  | texts
  | days
deriving DecidableEq, Repr

def orderKind? : Value → Option OrderKind
  | bool _ => some .numbers
  | int _ => some .numbers
  | float _ => some .numbers
  | text _ => some .texts
  | date _ => some .days
  | _ => none

def notLaterDay (first second : Date) : Bool :=
  first.year < second.year
    || (first.year == second.year
      && (first.month < second.month
        || (first.month == second.month && first.day ≤ second.day)))

/-- Whether the first of two values of one kind stands no later than the second. -/
def notAfter (first second : Value) : Bool :=
  match first, second with
  | text first, text second => decide (first ≤ second)
  | date first, date second => notLaterDay first second
  | first, second =>
      match first.numberPlace?, second.numberPlace? with
      | some (firstPart, firstRest), some (secondPart, secondRest) =>
          firstPart < secondPart || (firstPart == secondPart && firstRest ≤ secondRest)
      | _, _ => true

/-- Values in order.  Values of different kinds have no order, but a single value
needs none.  Equal values keep their order, since they need not look the same. -/
def inOrder : List Value → Asked (List Value)
  | [] => .ok []
  | [value] => .ok [value]
  | first :: others =>
      match first.orderKind? with
      | none => .error .wrongKind
      | some kind =>
          if others.all fun other => other.orderKind? == some kind then
            .ok ((first :: others).mergeSort notAfter)
          else .error .wrongKind

end Value

end WireSchema
