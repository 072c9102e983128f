import WireSchema.Document.Fault
import WireSchema.Text.Integer
import WireSchema.Text.Lowercase

namespace WireSchema

/-!
Values of annotation parameters.

A parameter is absent (written without a value), a truth value, a text or a list of texts; numbers
of a document become texts.  It is read through accessors that never fail: each gives the value in
the kind asked for, or nothing.  As the scope of an annotation a value selects message names: an
absent or true value selects all of them, a false one none, and a text or list those it names.
-/

inductive ParamValue where
  | absent
  | bool (value : Bool)
  | text (value : String)
  | list (items : List String)
deriving DecidableEq, Repr, Inhabited

namespace ParamValue

/-- The parameter value that a document value stands for. -/
def ofValue : Value → ParamValue
  | .null => absent
  | .bool value => bool value
  | .list items => list (items.map Value.display)
  | value => text value.display

/-- The value as a text.  An absent value is the empty text and a truth value one
of two words; a list has none. -/
def asString? : ParamValue → Option String
  | absent => some ""
  | bool value => some (if value then "true" else "false")
  | text value => some value
  | list _ => none

/-- The value as a truth value; the words `true` and `false` count in any case
and with white space around them.  Other texts are none, so that they neither set
a flag nor clear it. -/
def asBool? : ParamValue → Option Bool
  | bool value => some value
  | text value =>
      let word := Text.lower (Text.trim value)
      if word = "true" then some true
      else if word = "false" then some false
      else none
  | _ => none

def asInteger? : ParamValue → Option Int
  | text value => Text.readInteger? (Text.trim value)
  | _ => none

/-- A text without the brackets around it, if it has both. -/
def withoutBrackets (cs : List Char) : List Char :=
  match cs with
  | '[' :: rest => if cs.getLast? = some ']' then rest.dropLast else cs
  | _ => cs

/-- Quotes that may stand around an item of a list written as a text. -/
def isItemQuote (c : Char) : Bool :=
  c == '"' || c == '\''

/-- An item of a list written as a text, without white space and quotes around
it.  White space is taken off first, so that it stays where it is inside the
quotes. -/
def itemText (cs : List Char) : List Char :=
  Text.trimWhile isItemQuote (Text.trimWhile Text.isBlank cs)

/-- The items of a list written as a text: separated by commas, with optional brackets around the
whole and quotes around each item.  Empty items do not count. -/
def itemsOfText (value : String) : List String :=
  let inner := withoutBrackets (Text.trimWhile Text.isBlank value.toList)
  (((Text.splitAtEach ',' inner).map itemText).filter fun item => !item.isEmpty).map String.ofList

def asList? : ParamValue → Option (List String)
  | list items => some items
  | text value => some (itemsOfText value)
  | _ => none

/-- The texts that select every message. -/
def selectsAllTexts : List String := ["", "*", "true"]

/-- Whether a list of names selects a message.  A message whose name is no text is selected only
with all others. -/
def namesSelect (names : List String) (message : Value) : Bool :=
  names.any (fun name => Value.text name == message) || names.contains "*"

/-- Whether the value, as a scope, selects a message: all of them by `true`,
`*`, an empty or an absent value, none by `false`, and otherwise those that are
listed. -/
def selects (value : ParamValue) (message : Value) : Bool :=
  match value with
  | absent => true
  | bool value => value
  | text value =>
      let scope := Text.trim value
      if selectsAllTexts.contains scope then true
      else if scope = "false" then false
      else namesSelect (itemsOfText value) message
  | list items => namesSelect items message

end ParamValue

end WireSchema
