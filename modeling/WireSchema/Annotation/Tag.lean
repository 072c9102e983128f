import WireSchema.Annotation.Basic

namespace WireSchema

/-!
Field tags.

A field may carry a tag text of comma-separated segments: the field's name first, then `number=`,
`type=` and options written `key=value`.  A tag that is only a hyphen leaves the field out.  A tag
text may also hold several tags, each after a key and between double quotes, as in
`proto:"id,number=1" json:"id"`; then the tag under the configured key is read.
-/

/-- What a tag says of its field.  An empty name or type says nothing, and
further keys are kept as options in the order in which they were first given. -/
structure TagInfo where
  name : String := ""
  ignored : Bool := false
  number : Option Int := none
  type : String := ""
  options : List (String × String) := []
deriving DecidableEq, Repr, Inhabited

namespace TagInfo

/-- What one segment `key=value` adds.  Only a positive number counts; of several segments with
one key the last counts. -/
def addSegment (info : TagInfo) (key value : String) : TagInfo :=
  if key = "number" then
    match Text.readInteger? value with
    | some number => if 0 < number then { info with number := some number } else info
    | none => info
  else if key = "type" then { info with type := value }
  else { info with options := setKey key value info.options }

/-- Reads a segment; one without `=` adds nothing.  The first `=` is the one that
separates, so that a value may hold others. -/
def readSegment (info : TagInfo) (segment : List Char) : TagInfo :=
  match Text.breakAt? ['='] segment with
  | some (key, value) =>
      info.addSegment (String.ofList (Text.trimWhile Text.isBlank key))
        (String.ofList (Text.trimWhile Text.isBlank value))
  | none => info

/-- Reads a single tag.  A hyphen alone leaves the field out.  Otherwise the first
segment is the name, unless it holds an equals sign; then there is none, and it
is read like the others. -/
def parse (tag : String) : TagInfo :=
  let cs := Text.trimWhile Text.isBlank tag.toList
  if cs.isEmpty then {}
  else if cs = ['-'] then { ignored := true }
  else
    let segments := (Text.splitAtEach ',' cs).map (Text.trimWhile Text.isBlank)
    let first := segments.headD []
    let named : TagInfo := { name := if first.contains '=' then "" else String.ofList first }
    segments.foldl readSegment named

/-- The value between double quotes that follows a key and a colon, and the rest of the text. -/
def quotedValue? (cs : List Char) : Option (List Char × List Char) :=
  match cs with
  | ':' :: '"' :: inner =>
      match inner.dropWhile (· != '"') with
      | '"' :: rest => some (inner.takeWhile (· != '"'), rest)
      | _ => none
  | _ => none

theorem length_of_quotedValue? {cs value rest : List Char}
    (h : quotedValue? cs = some (value, rest)) : rest.length < cs.length := by
  unfold quotedValue? at h
  split at h
  · rename_i inner
    split at h
    · rename_i after closing
      have bound := (List.dropWhile_suffix (· != '"') (l := inner)).length_le
      simp only [closing, List.length_cons] at bound
      simp only [Option.some.injEq, Prod.mk.injEq] at h
      simp only [← h.2, List.length_cons]
      omega
    · simp at h
  · simp at h

/-- The pairs `key:"value"` of a tag text, in order; everything between them is
ignored.  A key that is followed by something else is passed over as a whole. -/
def pairs (cs : List Char) : List (String × String) :=
  match cs with
  | [] => []
  | c :: tail =>
      if Text.isWordChar c then
        have : (tail.dropWhile Text.isWordChar).length ≤ tail.length :=
          (List.dropWhile_suffix _).length_le
        match found : quotedValue? (tail.dropWhile Text.isWordChar) with
        | some (value, rest) =>
            have := length_of_quotedValue? found
            (String.ofList (c :: tail.takeWhile Text.isWordChar), String.ofList value)
              :: pairs rest
        | none => pairs (tail.dropWhile Text.isWordChar)
      else pairs tail
termination_by cs.length
decreasing_by all_goals simp only [List.length_cons]; omega

/-- The tag under a key.  A text without pairs is a single tag; a text with pairs, but none under
the key, has no tag. -/
def ofText (key : Value) (text : String) : TagInfo :=
  match pairs text.toList with
  | [] => parse text
  | found => parse (((found.find? fun pair => Value.text pair.1 == key).map (·.2)).getD "")

/-- The tag of a value under a key.  A value that does not count as given is an empty tag; any
other one must be a text. -/
def ofValue (key value : Value) : Asked TagInfo := do
  return ofText key (← (value.orElse (.text "")).admitText)

/-- Reads the value of a single tag.  A value that does not count as given is an empty tag; any
other one is cut as a text. -/
def parseValue (value : Value) : Asked TagInfo := do
  return parse (← (value.orElse (.text "")).askText)

end TagInfo

end WireSchema
