import WireSchema.Document.Yaml.ScalarText

namespace WireSchema.Yaml

/-!
Cutting documents into tokens.

What a token is depends on the columns of the blocks around it and on whether it stands in a flow
collection.  A scalar or flow collection may turn out to be the name of a member when a colon
follows it; until then its place is remembered, and the tokens for the name are put in there.  A
name must stand on one line with its colon and must not be long, and at the start of a block member
it must be a name.  Anchors, tags and directives are not admitted.
-/

/-- A place where the name of a member may start. -/
structure NamePlace where
  /-- Whether nothing but a name may stand there. -/
  required : Bool
  /-- The number of tokens before it. -/
  position : Nat
  cursor : Cursor
deriving Repr, Inhabited

/-- The greatest number of characters from the start of a name to its colon. -/
def maxNameLength : Nat := 1024

/-- What has been read of a document. -/
structure Scan where
  cursor : Cursor
  /-- The tokens so far, the last one first. -/
  tokens : List Token := []
  /-- The column of the innermost block, below zero when there is none. -/
  indent : Int := -1
  /-- The columns of the blocks around it. -/
  outer : List Int := []
  /-- The number of open flow collections. -/
  depth : Nat := 0
  /-- Where a name may have started, by the number of flow collections around it. -/
  names : List (Nat × NamePlace) := []
  /-- Whether a name may start here. -/
  admitsName : Bool := true
deriving Repr, Inhabited

namespace Scan

/-- Whether a flow collection is open. -/
def inFlow (scan : Scan) : Bool := scan.depth != 0

/-- The column of the next character. -/
def column (scan : Scan) : Int := scan.cursor.column

def push (scan : Scan) (token : Token) : Scan :=
  { scan with tokens := token :: scan.tokens }

/-- Puts a token behind a number of tokens. -/
def insert (scan : Scan) (position : Nat) (token : Token) : Scan :=
  let later := scan.tokens.length - position
  { scan with tokens := scan.tokens.take later ++ token :: scan.tokens.drop later }

/-- Adds a token and passes over its characters. -/
def take (scan : Scan) (count : Nat) (token : Token) : Scan :=
  { scan.push token with cursor := scan.cursor.skip count }

/-! ## Blocks -/

/-- Closes blocks in order to be in a block of a column. -/
def closeFrom (column : Int) : List Int → Scan → Scan
  | outer, scan =>
      if scan.indent ≤ column then { scan with outer }
      else
        match outer with
        | [] => { scan.push .blockEnd with indent := -1, outer := [] }
        | indent :: outer => closeFrom column outer { scan.push .blockEnd with indent }

/-- Closes the blocks that a column is outside of.  In a flow collection columns do not count. -/
def closeBlocks (column : Int) (scan : Scan) : Scan :=
  if scan.inFlow then scan else closeFrom column scan.outer scan

/-- Opens a block in a column unless it is open, with a token behind a number of tokens. -/
def openBlock (column : Int) (position : Nat) (token : Token) (scan : Scan) : Scan :=
  if scan.indent < column then
    { scan.insert position token with indent := column, outer := scan.indent :: scan.outer }
  else scan

def openHere (token : Token) (scan : Scan) : Scan :=
  scan.openBlock scan.column scan.tokens.length token

/-! ## Names -/

/-- The place where a name may have started among the collections that are open. -/
def namePlace? (scan : Scan) : Option NamePlace := lookupKey? scan.depth scan.names

/-- Forgets a place; one that must be a name cannot be forgotten. -/
def dropName (scan : Scan) : Except Fault Scan :=
  match scan.namePlace? with
  | none => .ok scan
  | some place =>
      if place.required then .error .malformed
      else .ok { scan with names := scan.names.filter (·.1 != scan.depth) }

/-- Whether the colon of a name that started at a place may still follow. -/
def isFresh (cursor : Cursor) (place : NamePlace) : Bool :=
  place.cursor.line == cursor.line && cursor.index - place.cursor.index ≤ maxNameLength

/-- Forgets the places whose colon would come too late. -/
def dropStale (scan : Scan) : Except Fault Scan :=
  let stale := scan.names.filter fun name => !isFresh scan.cursor name.2
  if stale.any (·.2.required) then .error .malformed
  else .ok { scan with names := scan.names.filter fun name => isFresh scan.cursor name.2 }

/-- Remembers that a name may start here. -/
def noteName (scan : Scan) : Except Fault Scan := do
  if !scan.admitsName then return scan
  else
    let place : NamePlace :=
      { required := !scan.inFlow && scan.indent == scan.column
        position := scan.tokens.length
        cursor := scan.cursor }
    let scan ← scan.dropName
    return { scan with names := scan.names ++ [(scan.depth, place)] }

/-! ## Blanks -/

/-- The place of the next token, and whether it is on a later line. -/
def nextPlace : Nat → Bool → Cursor → Cursor × Bool
  | 0, later, cursor => (cursor, later)
  | fuel + 1, later, cursor =>
      let spaced := cursor.skipSpaces
      let ended := if spaced.head == '#' then spaced.skipLine else spaced
      match ended.lineBreak? with
      | some (_, below) => nextPlace fuel true below
      | none => (ended, later)

/-- Goes to the next token.  On a new line outside flow collections a name may start. -/
def toNextToken (scan : Scan) : Scan :=
  let start :=
    if scan.cursor.index == 0 && scan.cursor.head == byteOrderMark then scan.cursor.next
    else scan.cursor
  let (cursor, later) := nextPlace start.fuel false start
  { scan with cursor, admitsName := scan.admitsName || (later && !scan.inFlow) }

/-! ## Tokens -/

def readEnd (scan : Scan) : Except Fault Scan := do
  let scan ← (scan.closeBlocks (-1)).dropName
  return { scan.push .streamEnd with names := [], admitsName := false }

/-- A mark that begins or ends a document. -/
def readMark (token : Token) (scan : Scan) : Except Fault Scan := do
  let scan ← (scan.closeBlocks (-1)).dropName
  return { scan.take 3 token with admitsName := false }

/-- The start of a flow collection, which may be a name. -/
def readOpening (token : Token) (scan : Scan) : Except Fault Scan := do
  let scan ← scan.noteName
  return { scan.take 1 token with depth := scan.depth + 1, admitsName := true }

/-- The end of a flow collection. -/
def readClosing (token : Token) (scan : Scan) : Except Fault Scan := do
  let scan ← scan.dropName
  return { scan.take 1 token with depth := scan.depth - 1, admitsName := false }

/-- A comma between the entries of a flow collection. -/
def readComma (scan : Scan) : Except Fault Scan := do
  let scan ← scan.dropName
  return { scan.take 1 .flowEntry with admitsName := true }

def startBlock (token : Token) (scan : Scan) : Except Fault Scan :=
  if scan.inFlow then .ok scan
  else if !scan.admitsName then .error .malformed
  else .ok (scan.openHere token)

def readEntry (scan : Scan) : Except Fault Scan := do
  let scan ← (← scan.startBlock .blockSequenceStart).dropName
  return { scan.take 1 .blockEntry with admitsName := true }

def readKey (scan : Scan) : Except Fault Scan := do
  let scan ← (← scan.startBlock .blockMappingStart).dropName
  return { scan.take 1 .key with admitsName := !scan.inFlow }

/-- Puts in the tokens for a name that starts at a place. -/
def insertName (place : NamePlace) (scan : Scan) : Scan :=
  let scan := scan.insert place.position .key
  if scan.inFlow then scan
  else scan.openBlock place.cursor.column place.position .blockMappingStart

/-- The colon before a value. -/
def readColon (scan : Scan) : Except Fault Scan :=
  match scan.namePlace? with
  | some place =>
      let scan := { scan with names := scan.names.filter (·.1 != scan.depth) }
      .ok { (scan.insertName place).take 1 .value with admitsName := false }
  | none => do
      let scan ← (← scan.startBlock .blockMappingStart).dropName
      return { scan.take 1 .value with admitsName := !scan.inFlow }

def readPlain (scan : Scan) : Except Fault Scan := do
  let scan ← scan.noteName
  let read := plainText scan.inFlow (scan.indent + 1).toNat scan.cursor
  return { scan.push (.scalar (String.ofList read.text) true) with
           cursor := read.cursor, admitsName := read.hasBreak }

def readQuoted (scan : Scan) : Except Fault Scan := do
  let scan ← scan.noteName
  let (text, cursor) ← quotedText scan.cursor
  return { scan.push (.scalar (String.ofList text) false) with cursor, admitsName := false }

def readBlock (scan : Scan) : Except Fault Scan := do
  let scan ← scan.dropName
  let (text, cursor) ← blockText (scan.indent + 1).toNat scan.cursor
  return { scan.push (.scalar (String.ofList text) false) with cursor, admitsName := true }

/-- Characters with which no plain scalar starts unless more of it follows. -/
def markChars : List Char :=
  ['-', '?', ':', ',', '[', ']', '{', '}', '#', '&', '*', '!', '|', '>', '\'', '"', '%', '@',
   Char.ofNat 0x60]

/-- Whether a plain scalar starts here. -/
def startsPlain (scan : Scan) : Bool :=
  let c := scan.cursor.head
  !(isSpaceOrEnd c || markChars.contains c)
    || (!isSpaceOrEnd (scan.cursor.peek 1)
      && (c == '-' || (!scan.inFlow && (c == '?' || c == ':'))))

/-- Whether the next character is a mark of structure: a blank follows it. -/
def isMark (scan : Scan) (c : Char) : Bool :=
  scan.cursor.head == c && isSpaceOrEnd (scan.cursor.peek 1)

/-- Whether the next character is a mark of structure that needs no blank in a flow collection. -/
def isFlowingMark (scan : Scan) (c : Char) : Bool :=
  scan.cursor.head == c && (scan.inFlow || isSpaceOrEnd (scan.cursor.peek 1))

/-- Reads the token that stands here. -/
def readToken (scan : Scan) : Except Fault Scan :=
  let c := scan.cursor.head
  let isAtMargin := scan.cursor.column == 0
  if c == endMark then scan.readEnd
  else if isAtMargin && c == '%' then .error .malformed
  else if isAtMargin && scan.cursor.isAtMark '-' then scan.readMark .documentStart
  else if isAtMargin && scan.cursor.isAtMark '.' then scan.readMark .documentEnd
  else if c == '[' then scan.readOpening .flowSequenceStart
  else if c == '{' then scan.readOpening .flowMappingStart
  else if c == ']' then scan.readClosing .flowSequenceEnd
  else if c == '}' then scan.readClosing .flowMappingEnd
  else if c == ',' then scan.readComma
  else if scan.isMark '-' then scan.readEntry
  else if scan.isFlowingMark '?' then scan.readKey
  else if scan.isFlowingMark ':' then scan.readColon
  else if (c == '|' || c == '>') && !scan.inFlow then scan.readBlock
  else if c == '\'' || c == '"' then scan.readQuoted
  else if scan.startsPlain then scan.readPlain
  else .error .malformed

def step (scan : Scan) : Except Fault Scan := do
  let scan ← scan.toNextToken.dropStale
  (scan.closeBlocks scan.column).readToken

/-- Reads tokens up to the end of the document or a fault. -/
def run : Nat → Scan → List Token
  | 0, scan => (scan.push (.fault .malformed)).tokens.reverse
  | fuel + 1, scan =>
      match scan.step with
      | .error fault => (scan.push (.fault fault)).tokens.reverse
      | .ok next =>
          if next.tokens.head? == some .streamEnd then next.tokens.reverse else run fuel next

end Scan

def tokensOf (cs : List Char) : List Token :=
  Scan.run (cs.length + 2) { cursor := { rest := cs } }

end WireSchema.Yaml
