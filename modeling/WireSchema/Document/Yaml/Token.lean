import WireSchema.Document.Yaml.Scalar

namespace WireSchema.Yaml

/-!
Tokens and places of YAML documents.

A document is cut into tokens before its structure is read.  Tokens that have no characters of their
own tell where block collections begin and end, as columns decide it.  A cursor is a place in a
document; it knows its line and column, since both decide what may stand there.
-/

inductive Token where
  | documentStart
  | documentEnd
  | streamEnd
  | blockSequenceStart
  | blockMappingStart
  | blockEnd
  | flowSequenceStart
  | flowSequenceEnd
  | flowMappingStart
  | flowMappingEnd
  | blockEntry
  | flowEntry
  | key
  | value
  | scalar (text : String) (isPlain : Bool)
  /-- The document cannot be cut into tokens from here on. -/
  | fault (fault : Fault)
deriving DecidableEq, Repr, Inhabited

/-! ## Characters -/

/-- The character that stands for the end of a document, which holds no such character itself. -/
def endMark : Char := Char.ofNat 0

/-- The mark of the order of bytes, which may stand at the start of a document. -/
def byteOrderMark : Char := Char.ofNat 0xfeff

/-- Characters that end a line. -/
def isBreak (c : Char) : Bool :=
  c == '\n' || c.toNat == 0x85 || c.toNat == 0x2028 || c.toNat == 0x2029

/-- The end of a document or of a line. -/
def isBreakOrEnd (c : Char) : Bool := c == endMark || isBreak c

/-- Blanks, tabs and the end of a document or of a line. -/
def isSpaceOrEnd (c : Char) : Bool := c == ' ' || c == '\t' || isBreakOrEnd c

/-! ## Cursors -/

/-- A place in a document: what follows, and where it stands. -/
structure Cursor where
  rest : List Char
  index : Nat := 0
  line : Nat := 0
  column : Nat := 0
deriving Repr, Inhabited

namespace Cursor

/-- The character that stands some places ahead. -/
def peek (cursor : Cursor) (ahead : Nat) : Char := (cursor.rest[ahead]?).getD endMark

/-- The next character. -/
def head (cursor : Cursor) : Char := cursor.peek 0

/-- The place after the next character. -/
def next (cursor : Cursor) : Cursor :=
  match cursor.rest with
  | [] => cursor
  | c :: rest =>
      if isBreak c then
        { rest, index := cursor.index + 1, line := cursor.line + 1, column := 0 }
      else
        { cursor with
          rest
          index := cursor.index + 1
          column := if c == byteOrderMark then cursor.column else cursor.column + 1 }

/-- The place after a number of characters. -/
def skip : Nat → Cursor → Cursor
  | 0, cursor => cursor
  | count + 1, cursor => skip count cursor.next

/-- The characters that pass a test, and the place after them. -/
def span (cursor : Cursor) (test : Char → Bool) : List Char × Cursor :=
  let taken := cursor.rest.takeWhile test
  (taken, cursor.skip taken.length)

/-- The place after the blanks that follow. -/
def skipSpaces (cursor : Cursor) : Cursor := (cursor.span (· == ' ')).2

/-- The place after the characters that follow on the line. -/
def skipLine (cursor : Cursor) : Cursor := (cursor.span (!isBreak ·)).2

/-- The line end that follows, as it counts inside a text, and the place after it. -/
def lineBreak? (cursor : Cursor) : Option (Char × Cursor) :=
  let c := cursor.head
  if c == endMark || !isBreak c then none
  else some (if c.toNat == 0x85 then '\n' else c, cursor.next)

/-- Whether three characters that begin or end a document follow. -/
def isAtMark (cursor : Cursor) (c : Char) : Bool :=
  cursor.peek 0 == c && cursor.peek 1 == c && cursor.peek 2 == c && isSpaceOrEnd (cursor.peek 3)

/-- Whether a mark that begins or ends a document follows. -/
def isAtDocumentMark (cursor : Cursor) : Bool := cursor.isAtMark '-' || cursor.isAtMark '.'

/-- A bound for the number of steps from a place to the end. -/
def fuel (cursor : Cursor) : Nat := cursor.rest.length + 1

end Cursor

end WireSchema.Yaml
