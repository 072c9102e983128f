import WireSchema.Document.Yaml.Token

namespace WireSchema.Yaml

/-!
The texts of scalars.

A plain scalar ends where a mark of structure stands, and may go on over lines that are indented
more than the block around it.  A quoted scalar ends at its quote.  In both a single line end counts
as a blank, and of several line ends the first one is left out.  A block scalar has lines of its own
below its mark, which are kept or joined.  `fuel` bounds the number of parts and never runs out
before the text does.
-/

/-- Line ends that follow one another, as they count inside a text: a single one is a blank. -/
def foldedBreaks (first : Char) (others : List Char) : List Char :=
  if first != '\n' then first :: others else if others.isEmpty then [' '] else others

/-! ## Plain scalars -/

/-- Characters that end a plain scalar inside a flow collection. -/
def isFlowMark (c : Char) : Bool := [',', '?', '[', ']', '{', '}'].contains c

/-- Whether a colon before a character ends a plain scalar. -/
def endsName (inFlow : Bool) (next : Char) : Bool :=
  isSpaceOrEnd next || (inFlow && next != '?' && isFlowMark next)

/-- The characters of a plain scalar up to the next blank or mark. -/
def plainChunk (inFlow : Bool) : List Char → List Char
  | [] => []
  | c :: cs =>
      if isSpaceOrEnd c || (c == ':' && endsName inFlow (cs.headD endMark))
          || (inFlow && isFlowMark c) then []
      else c :: plainChunk inFlow cs

/-- What stands between two parts of a plain scalar: its text if the scalar may go on, the place
after it, and whether it has a line end. -/
structure Gap where
  text : Option (List Char)
  cursor : Cursor
  hasBreak : Bool

/-- The line ends and blanks that follow a line end inside a plain scalar; none when a mark of a
document follows. -/
def plainBreaks : Nat → List Char → Cursor → Option (List Char) × Cursor
  | 0, breaks, cursor => (some breaks, cursor)
  | fuel + 1, breaks, cursor =>
      if cursor.head == ' ' then plainBreaks fuel breaks cursor.next
      else
        match cursor.lineBreak? with
        | some (c, after) =>
            if after.isAtDocumentMark then (none, after)
            else plainBreaks fuel (breaks ++ [c]) after
        | none => (some breaks, cursor)

/-- What stands after a part of a plain scalar. -/
def plainGap (cursor : Cursor) : Gap :=
  let (blanks, after) := cursor.span (· == ' ')
  match after.lineBreak? with
  | none => ⟨some blanks, after, false⟩
  | some (first, below) =>
      if below.isAtDocumentMark then ⟨none, below, true⟩
      else
        let (others, last) := plainBreaks below.fuel [] below
        ⟨others.map (foldedBreaks first), last, true⟩

/-- A scalar that was read: its text, the place after it, and whether a line end stands between
them. -/
structure PlainText where
  text : List Char
  cursor : Cursor
  hasBreak : Bool

/-- Reads a plain scalar on from a part; `gap` is what stands before the part. -/
def plainFrom (inFlow : Bool) (indent : Nat) : Nat → List Char → List Char → Bool → Cursor →
    PlainText
  | 0, text, _, hasBreak, cursor => ⟨text, cursor, hasBreak⟩
  | fuel + 1, text, gap, hasBreak, cursor =>
      let chunk := plainChunk inFlow cursor.rest
      if chunk.isEmpty then ⟨text, cursor, hasBreak⟩
      else
        let text := text ++ gap ++ chunk
        let between := plainGap (cursor.skip chunk.length)
        let after := between.cursor
        let gap := between.text.getD []
        if gap.isEmpty || after.head == '#' || (!inFlow && after.column < indent) then
          ⟨text, after, between.hasBreak⟩
        else plainFrom inFlow indent fuel text gap between.hasBreak after

/-- Reads a plain scalar inside a block of an indentation. -/
def plainText (inFlow : Bool) (indent : Nat) (cursor : Cursor) : PlainText :=
  plainFrom inFlow indent cursor.fuel [] [] false cursor

/-! ## Quoted scalars -/

/-- Characters with a name of their own in a double-quoted scalar. -/
def escapes : List (Char × Nat) :=
  [('0', 0x0), ('a', 0x7), ('b', 0x8), ('t', 0x9), ('\t', 0x9), ('n', 0xa), ('v', 0xb), ('f', 0xc),
   ('r', 0xd), ('e', 0x1b), (' ', 0x20), ('"', 0x22), ('\\', 0x5c), ('/', 0x2f), ('N', 0x85),
   ('_', 0xa0), ('L', 0x2028), ('P', 0x2029)]

/-- The number of digits of a character that is written by its code. -/
def codeLengths : List (Char × Nat) := [('x', 2), ('u', 4), ('U', 8)]

/-- Digits of base sixteen. -/
def isHexDigit (c : Char) : Bool := c != '_' && isDigitOf 16 c

def codeChar (code : Nat) : Except Fault Char :=
  if 0x10ffff < code then .error .unusable
  else .ok (if 0xd800 ≤ code && code < 0xe000 then Char.ofNat 0xfffd else Char.ofNat code)

/-- The line ends and blanks that follow a line end inside a quoted scalar.  A mark of a document
must not stand there. -/
def quotedBreaks : Nat → List Char → Cursor → Except Fault (List Char × Cursor)
  | 0, breaks, cursor => .ok (breaks, cursor)
  | fuel + 1, breaks, cursor =>
      if cursor.isAtDocumentMark then .error .malformed
      else
        let after := (cursor.span fun c => c == ' ' || c == '\t').2
        match after.lineBreak? with
        | some (c, below) => quotedBreaks fuel (breaks ++ [c]) below
        | none => .ok (breaks, after)

/-- Reads what follows a backslash. -/
def escaped (cursor : Cursor) : Except Fault (List Char × Cursor) :=
  let c := cursor.head
  match lookupKey? c escapes, lookupKey? c codeLengths with
  | some code, _ => .ok ([Char.ofNat code], cursor.next)
  | none, some length =>
      let digits := cursor.next.rest.take length
      if digits.length = length && digits.all isHexDigit then do
        return ([← codeChar (digitsValue 16 digits)], cursor.next.skip length)
      else .error .malformed
  | none, none =>
      match cursor.lineBreak? with
      | some (_, below) => quotedBreaks below.fuel [] below
      | none => .error .malformed

/-- Characters that end a run of a quoted scalar. -/
def endsRun (c : Char) : Bool := ['\'', '"', '\\'].contains c || isSpaceOrEnd c

/-- Reads a quoted scalar up to the next blank or its quote. -/
def quotedRun (quote : Char) : Nat → List Char → Cursor → Except Fault (List Char × Cursor)
  | 0, text, cursor => .ok (text, cursor)
  | fuel + 1, text, cursor => do
      let (run, after) := cursor.span (!endsRun ·)
      let text := text ++ run
      let c := after.head
      if quote == '\'' && c == '\'' && after.peek 1 == '\'' then
        quotedRun quote fuel (text ++ ['\'']) (after.skip 2)
      else if c != quote && (c == '\'' || c == '"' || (c == '\\' && quote == '\'')) then
        quotedRun quote fuel (text ++ [c]) after.next
      else if c == '\\' then
        let (chars, next) ← escaped after.next
        quotedRun quote fuel (text ++ chars) next
      else return (text, after)

/-- Reads the blanks or line ends between two runs of a quoted scalar. -/
def quotedGap (cursor : Cursor) : Except Fault (List Char × Cursor) := do
  let (blanks, after) := cursor.span fun c => c == ' ' || c == '\t'
  if after.head == endMark then throw Fault.malformed
  else
    match after.lineBreak? with
    | none => return (blanks, after)
    | some (first, below) =>
        let (others, last) ← quotedBreaks below.fuel [] below
        return (foldedBreaks first others, last)

/-- Reads a quoted scalar on to its quote. -/
def quotedFrom (quote : Char) : Nat → List Char → Cursor → Except Fault (List Char × Cursor)
  | 0, _, _ => .error .malformed
  | fuel + 1, text, cursor => do
      if cursor.head == quote then return (text, cursor.next)
      else
        let (gap, after) ← quotedGap cursor
        let (run, next) ← quotedRun quote after.fuel [] after
        quotedFrom quote fuel (text ++ gap ++ run) next

/-- Reads a quoted scalar from its first quote. -/
def quotedText (cursor : Cursor) : Except Fault (List Char × Cursor) := do
  let quote := cursor.head
  let (run, after) ← quotedRun quote cursor.next.fuel [] cursor.next
  quotedFrom quote after.fuel run after

/-! ## Block scalars -/

/-- What becomes of the line ends after a block scalar. -/
inductive Chomping where
  | strip
  | clip
  | keep
deriving DecidableEq, Repr

/-- What stands after the mark of a block scalar. -/
structure BlockHeader where
  chomping : Chomping
  increment : Option Nat
  cursor : Cursor

/-- The chomping that a character asks for. -/
def chomping? (c : Char) : Option Chomping :=
  if c == '+' then some .keep else if c == '-' then some .strip else none

/-- The number of columns that a digit asks for. -/
def increment? (c : Char) : Option Nat :=
  if c.isDigit then some (digitValue c) else none

/-- Reads what stands after the mark of a block scalar, its line end included. -/
def blockHeader (cursor : Cursor) : Except Fault BlockHeader := do
  let early := chomping? cursor.head
  let afterEarly := if early.isSome then cursor.next else cursor
  let increment := increment? afterEarly.head
  let afterDigit := if increment.isSome then afterEarly.next else afterEarly
  let late := if early.isNone && increment.isSome then chomping? afterDigit.head else none
  let after := if late.isSome then afterDigit.next else afterDigit
  if increment == some 0 || !(after.head == ' ' || isBreakOrEnd after.head) then
    throw Fault.malformed
  let spaced := after.skipSpaces
  let ended := if spaced.head == '#' then spaced.skipLine else spaced
  if !isBreakOrEnd ended.head then throw Fault.malformed
  return { chomping := (early.or late).getD .clip, increment, cursor := ended.next }

/-- The empty lines before a block scalar, the greatest indentation among them and the place after
them. -/
def blockIndentation : Nat → List Char → Nat → Cursor → List Char × Nat × Cursor
  | 0, breaks, widest, cursor => (breaks, widest, cursor)
  | fuel + 1, breaks, widest, cursor =>
      if cursor.head == ' ' then
        blockIndentation fuel breaks (max widest cursor.next.column) cursor.next
      else
        match cursor.lineBreak? with
        | some (c, below) => blockIndentation fuel (breaks ++ [c]) widest below
        | none => (breaks, widest, cursor)

/-- The place after blanks up to a column. -/
def skipTo (indent : Nat) (cursor : Cursor) : Cursor :=
  let blanks := (cursor.rest.takeWhile (· == ' ')).length
  cursor.skip (min blanks (indent - cursor.column))

/-- The empty lines inside a block scalar and the place after them. -/
def blockBreaks (indent : Nat) : Nat → List Char → Cursor → List Char × Cursor
  | 0, breaks, cursor => (breaks, cursor)
  | fuel + 1, breaks, cursor =>
      let spaced := skipTo indent cursor
      match spaced.lineBreak? with
      | some (c, below) => blockBreaks indent fuel (breaks ++ [c]) below
      | none => (breaks, spaced)

/-- What joins a line of a block scalar to the next one, given the empty lines between them. -/
def lineJoin (isFolded : Bool) (lineEnd : List Char) (opensText nextOpensText : Bool)
    (breaks : List Char) : List Char :=
  if isFolded && lineEnd == ['\n'] && opensText && nextOpensText then
    if breaks.isEmpty then [' '] else []
  else lineEnd

/-- Whether a place is at a character that is no blank. -/
def isAtText (cursor : Cursor) : Bool := cursor.head != ' ' && cursor.head != '\t'

/-- Reads the lines of a block scalar; `breaks` are the empty lines before the next one. -/
def blockLines (isFolded : Bool) (chomping : Chomping) (indent : Nat) :
    Nat → List Char → List Char → List Char → Cursor → List Char × Cursor
  | 0, text, _, _, cursor => (text, cursor)
  | fuel + 1, text, lineEnd, breaks, cursor =>
      if cursor.column == indent && cursor.head != endMark then
        let (line, ended) := cursor.span (!isBreak ·)
        let text := text ++ breaks ++ line
        let lineEnd := (ended.lineBreak?.map (·.1)).toList
        let below := (ended.lineBreak?.map (·.2)).getD ended
        let (breaks, next) := blockBreaks indent below.fuel [] below
        let join :=
          if next.column == indent && next.head != endMark then
            lineJoin isFolded lineEnd (isAtText cursor) (isAtText next) breaks
          else []
        blockLines isFolded chomping indent fuel (text ++ join) lineEnd breaks next
      else
        let ending :=
          match chomping with
          | .strip => []
          | .clip => lineEnd
          | .keep => lineEnd ++ breaks
        (text ++ ending, cursor)

/-- Reads a block scalar from its mark, inside a block of an indentation. -/
def blockText (indent : Nat) (cursor : Cursor) : Except Fault (List Char × Cursor) := do
  let isFolded := cursor.head == '>'
  let header ← blockHeader cursor.next
  let least := max indent 1
  let start := header.cursor
  match header.increment with
  | some increment =>
      let column := least + increment - 1
      let (breaks, first) := blockBreaks column start.fuel [] start
      return blockLines isFolded header.chomping column start.fuel [] [] breaks first
  | none =>
      let (breaks, widest, first) := blockIndentation start.fuel [] 0 start
      return blockLines isFolded header.chomping (max least widest) start.fuel [] [] breaks first

end WireSchema.Yaml
