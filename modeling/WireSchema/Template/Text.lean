import WireSchema.Template.Datum
import WireSchema.Text.Spelling

namespace WireSchema.Template

/-!
Text templates.

A text template is literal text with places of the form `{{ name }}` or `{{ name.name }}`.  A place
is filled with what its names lead to; a name that stands for nothing leaves the place empty, but
nothing can be looked up in it.  A few names are constants, and a few stand for something unless the
scope of the template gives them.  Two spellings of one name stand for what the later one stands
for.  Tags of the form `{% word %}` are not admitted: a template that has one is refused with the
line where reading stops.
-/

/-! ## Tokens -/

/-- A part of a template's text as it is marked. -/
inductive Mark where
  | literal
  | place
  | tag
  /-- A place or tag that is not closed. -/
  | cut
deriving DecidableEq, Repr

/-- A marked part with the number of the line on which it starts. -/
structure Token where
  mark : Mark
  text : String
  line : Nat
deriving DecidableEq, Repr

/-- A text with line feeds as its only line ends. -/
def withLineFeeds : List Char → List Char
  | [] => []
  | '\r' :: '\n' :: cs => '\n' :: withLineFeeds cs
  | c :: cs => (if c = '\r' then '\n' else c) :: withLineFeeds cs

/-- The token of characters read in reverse; literal text is no token when it is empty. -/
def tokenOf (mark : Mark) (read : List Char) (line : Nat) : List Token :=
  if mark == .literal && read.isEmpty then []
  else [{ mark, text := String.ofList read.reverse, line }]

def lineAfter (line : Nat) (text : List Char) : Nat := line + text.count '\n'

/-- The mark that follows a part of a text, with the characters left after it, the line end after
a tag included in it. -/
def turn? : Mark → List Char → Option (Mark × List Char)
  | .literal, '{' :: '{' :: cs => some (.place, cs)
  | .literal, '{' :: '%' :: cs => some (.tag, cs)
  | .place, '}' :: '}' :: cs => some (.literal, cs)
  | .tag, '%' :: '}' :: '\n' :: cs => some (.literal, cs)
  | .tag, '%' :: '}' :: cs => some (.literal, cs)
  | _, _ => none

theorem turn?_length_lt {mark next : Mark} {cs rest : List Char}
    (turned : turn? mark cs = some (next, rest)) : rest.length < cs.length := by
  unfold turn? at turned
  split at turned
  all_goals simp only [Option.some.injEq, Prod.mk.injEq, reduceCtorEq] at turned
  all_goals
    obtain ⟨_, rfl⟩ := turned
    simp only [List.length_cons]
    omega

/-- The tokens of a text that continues a part: `read` holds the characters of the part so far, the
last one first, and `line` the line on which it starts. -/
def tokensFrom (mark : Mark) (read : List Char) (line : Nat) (cs : List Char) : List Token :=
  match turned : turn? mark cs with
  | some (next, rest) =>
      have := turn?_length_lt turned
      let passed := cs.take (cs.length - rest.length)
      let token := tokenOf mark read line
      let here := lineAfter line read
      if mark == .literal then token ++ tokensFrom next [] here rest
      else token ++ tokensFrom next [] (lineAfter here passed) rest
  | none =>
      match cs with
      | [] => tokenOf (if mark == .literal then .literal else .cut) read line
      | c :: cs => tokensFrom mark (c :: read) line cs
termination_by cs.length

def tokens (text : String) : List Token :=
  tokensFrom .literal [] 1 (withLineFeeds text.toList)

/-! ## Pieces -/

/-- A step from a datum to one of its members. -/
inductive Step where
  | name (name : String)
  | place (place : Nat)
deriving DecidableEq, Repr

inductive Piece where
  | literal (text : String)
  /-- A place that is filled with what a name and further steps lead to. -/
  | place (first : String) (others : List Step)
deriving DecidableEq, Repr

def isName (text : String) : Bool :=
  match text.toList with
  | [] => false
  | c :: cs =>
      (Text.isWordChar c && !c.isDigit)
        && cs.all fun c => Text.isWordChar c || Text.isCombiningMark c

def placeNumber? (text : String) : Option Nat :=
  if text = "0" || (!text.isEmpty && text.toList.all Char.isDigit && !Text.startsWith text "0") then
    text.toNat?
  else none

def readStep? (text : String) : Option Step :=
  if isName text then some (.name text) else (placeNumber? text).map Step.place

/-- The name and the steps of a place; none when it has another content. -/
def placeNames? (content : String) : Option (String × List Step) :=
  let parts := (Text.splitAtEach '.' content.toList).map fun part =>
    String.ofList (Text.trimWhile Text.isBlank part)
  match parts with
  | first :: others =>
      if isName first then (others.mapM readStep?).map fun steps => (first, steps) else none
  | [] => none

/-- What one token makes of a template. -/
inductive Reading where
  | piece (piece : Piece)
  /-- A tag that another one would have to close. -/
  | opening
  | refused
deriving DecidableEq, Repr

/-- Whether a tag has only its word and nothing that the word is about. -/
def isBareTag (content : String) : Bool :=
  ((Text.trim content).toList.any Text.isBlank) == false

def Token.reading (token : Token) : Reading :=
  match token.mark with
  | .literal => .piece (.literal token.text)
  | .place =>
      match placeNames? token.text with
      | some (first, others) => .piece (.place first others)
      | none => .refused
  | .tag => if isBareTag token.text then .refused else .opening
  | .cut => .refused

def Reading.piece? : Reading → Option Piece
  | .piece made => some made
  | _ => none

/-- The line at which a text ends. -/
def lastLine (tokens : List Token) : Nat :=
  (tokens.getLast?.map (·.line)).getD 1

/-- The pieces of tokens, or the line at which they are refused.  What closes a tag is looked for up
to the end, unless something before it is refused. -/
def piecesOf (tokens : List Token) : Except Nat (List Piece) :=
  match tokens.find? (·.reading == .refused) with
  | some token => .error token.line
  | none =>
      if tokens.any (·.reading == .opening) then .error (lastLine tokens)
      else .ok (tokens.filterMap fun token => token.reading.piece?)

/-- The pieces of a text, or the line at which it is refused. -/
def parse (text : String) : Except Nat (List Piece) :=
  piecesOf (tokens text)

/-! ## Names -/

/-- Names that always stand for the same value. -/
def constants : List (String × Value) :=
  [("true", .bool true), ("True", .bool true), ("false", .bool false), ("False", .bool false),
   ("none", .null), ("None", .null)]

/-- Names that stand for something unless the scope gives them. -/
def presetNames : List (String × Datum) :=
  [("dict", .symbol Datum.mappingKind), ("range", .symbol "<class 'range'>"),
   ("namespace", .symbol "<class 'jinja2.utils.Namespace'>"),
   ("cycler", .symbol "<class 'jinja2.utils.Cycler'>"),
   ("joiner", .symbol "<class 'jinja2.utils.Joiner'>")]

/-- The name that stands for the template itself. -/
def selfName : String := "self"

def selfDatum (template : String) : Datum :=
  .symbol ("<TemplateReference " ++ Text.quoted template ++ ">")

def firstNames (pieces : List Piece) : List String :=
  (pieces.filterMap fun
    | .place first _ => some first
    | .literal _ => none).eraseDups

/-- The spelling that counts for a name among the first names of a template. -/
def spellingOf (names : List String) (name : String) : String :=
  ((names.filter fun other => Text.plainSpelling other == Text.plainSpelling name).getLast?).getD
    name

def standsFor (template : String) (scope : Scope) (names : List String) (name : String) :
    Option Datum :=
  match lookupKey? name constants with
  | some value => some (.value value)
  | none =>
      if name == selfName then some (selfDatum template)
      else lookupKey? (spellingOf names name) (scope ++ presetNames)

/-! ## Filling -/

def Step.follow (datum : Datum) : Step → Except LookupFault (Option Datum)
  | .name given => datum.member? given
  | .place given => .ok (datum.item? given)

def follow : Option Datum → List Step → Except LookupFault (Option Datum)
  | datum, [] => .ok datum
  | none, _ :: _ => .error .undefined
  | some datum, step :: steps => do follow (← step.follow datum) steps

def Piece.fill (template : String) (scope : Scope) (names : List String) :
    Piece → Except LookupFault String
  | literal text => .ok text
  | place first others => do
      let datum ← follow (standsFor template scope names first) others
      return (datum.map Datum.display).getD ""

/-- The text of a template whose names stand for what a scope gives.  A scope cannot give the name
of the template itself. -/
def fill (template : String) (scope : Scope) (pieces : List Piece) : Except LookupFault String := do
  if scope.any (·.1 == selfName) then throw (LookupFault.shape .wrongKind)
  return String.join (← pieces.mapM (Piece.fill template scope (firstNames pieces)))

end WireSchema.Template
