import WireSchema.Document.Yaml.Scanner

namespace WireSchema.Yaml

/-!
Reading YAML documents.

The tokens of a text are put together to the nodes of one document, and the nodes are given values
only then.  A mapping may take in the members of other mappings; its own members count before
those.  The name of a member may have any value that is no collection, and of several members of one
name the last one counts.  `fuel` bounds the number of nested calls; it is taken from the number of
tokens and never runs out before they do.
-/

/-! ## Nodes -/

/-- A node of a document. -/
inductive Node where
  | scalar (text : String) (isPlain : Bool)
  | sequence (items : List Node)
  | mapping (members : List (Node × Node))
deriving Repr, Inhabited

/-- The node of a value that is left out. -/
def Node.empty : Node := scalar "" true

abbrev TokenReader (α : Type) := StateT (List Token) (Except Fault) α

namespace TokenReader

def peek : TokenReader Token := do
  match ← get with
  | .fault fault :: _ => throw fault
  | token :: _ => return token
  | [] => throw Fault.malformed

/-- Passes over the next token. -/
def skip : TokenReader Unit := modify (·.drop 1)

/-- Passes over the next token if it is a given one, and tells so. -/
def take (token : Token) : TokenReader Bool := do
  if (← peek) == token then
    skip
    return true
  else return false

/-- Passes over the next token, which must be a given one. -/
def require (token : Token) : TokenReader Unit := do
  if !(← take token) then throw Fault.malformed

def isAt (tokens : List Token) : TokenReader Bool := do
  return tokens.contains (← peek)

end TokenReader

open TokenReader

/-- Tokens before which the value of a member of a block mapping is left out. -/
def memberEnds : List Token := [.key, .value, .blockEnd]

/-- Tokens before which an entry of a block sequence is left out. -/
def entryEnds : List Token := [.blockEntry, .blockEnd]

/-- Tokens before which an entry is left out of a block sequence that has no indentation of its
own. -/
def openEntryEnds : List Token := [.blockEntry, .key, .value, .blockEnd]

mutual

/-- Reads a node.  `isBlock` admits block collections, and `isOpen` a block sequence without an
indentation of its own. -/
def node (isBlock isOpen : Bool) : Nat → TokenReader Node
  | 0 => throw Fault.malformed
  | fuel + 1 => do
      match ← peek with
      | .scalar text isPlain =>
          skip
          return .scalar text isPlain
      | .flowSequenceStart =>
          skip
          return .sequence (← flowItems true fuel)
      | .flowMappingStart =>
          skip
          return .mapping (← flowMembers true fuel)
      | .blockEntry =>
          if isOpen then return .sequence (← openEntries fuel) else throw Fault.malformed
      | .blockSequenceStart =>
          if isBlock then
            skip
            return .sequence (← blockEntries fuel)
          else throw Fault.malformed
      | .blockMappingStart =>
          if isBlock then
            skip
            return .mapping (← blockMembers fuel)
          else throw Fault.malformed
      | _ => throw Fault.malformed

/-- Reads a node unless it is left out before one of some tokens. -/
def nodeUnless (ends : List Token) (isBlock isOpen : Bool) : Nat → TokenReader Node
  | 0 => throw Fault.malformed
  | fuel + 1 => do
      if ← isAt ends then return .empty else node isBlock isOpen fuel

/-- Reads the entries of a block sequence. -/
def blockEntries : Nat → TokenReader (List Node)
  | 0 => throw Fault.malformed
  | fuel + 1 => do
      if ← take .blockEntry then
        let entry ← nodeUnless entryEnds true false fuel
        return entry :: (← blockEntries fuel)
      else
        require .blockEnd
        return []

/-- Reads the entries of a block sequence that has no indentation of its own. -/
def openEntries : Nat → TokenReader (List Node)
  | 0 => throw Fault.malformed
  | fuel + 1 => do
      if ← take .blockEntry then
        let entry ← nodeUnless openEntryEnds true false fuel
        return entry :: (← openEntries fuel)
      else return []

/-- Reads the members of a block mapping. -/
def blockMembers : Nat → TokenReader (List (Node × Node))
  | 0 => throw Fault.malformed
  | fuel + 1 => do
      if ← take .key then
        let name ← nodeUnless memberEnds true true fuel
        let value ← memberValue memberEnds true fuel
        return (name, value) :: (← blockMembers fuel)
      else
        require .blockEnd
        return []

def memberValue (ends : List Token) (isBlock : Bool) : Nat → TokenReader Node
  | 0 => throw Fault.malformed
  | fuel + 1 => do
      if ← take .value then nodeUnless ends isBlock isBlock fuel else return .empty

/-- Reads the items of a flow sequence.  An item with a name is a mapping of one member. -/
def flowItems (isFirst : Bool) : Nat → TokenReader (List Node)
  | 0 => throw Fault.malformed
  | fuel + 1 => do
      if ← take .flowSequenceEnd then return []
      else
        if !isFirst then require .flowEntry
        if ← take .flowSequenceEnd then return []
        else
          let item ← flowItem fuel
          return item :: (← flowItems false fuel)

/-- Reads an item of a flow sequence. -/
def flowItem : Nat → TokenReader Node
  | 0 => throw Fault.malformed
  | fuel + 1 => do
      if ← take .key then
        let name ← nodeUnless [.value, .flowEntry, .flowSequenceEnd] false false fuel
        let value ← memberValue [.flowEntry, .flowSequenceEnd] false fuel
        return .mapping [(name, value)]
      else node false false fuel

/-- Reads the members of a flow mapping. -/
def flowMembers (isFirst : Bool) : Nat → TokenReader (List (Node × Node))
  | 0 => throw Fault.malformed
  | fuel + 1 => do
      if ← take .flowMappingEnd then return []
      else
        if !isFirst then require .flowEntry
        if ← take .flowMappingEnd then return []
        else
          let member ← flowMember fuel
          return member :: (← flowMembers false fuel)

/-- Reads a member of a flow mapping; one without the mark of a name has no value. -/
def flowMember : Nat → TokenReader (Node × Node)
  | 0 => throw Fault.malformed
  | fuel + 1 => do
      if ← take .key then
        let name ← nodeUnless [.value, .flowEntry, .flowMappingEnd] false false fuel
        let value ← memberValue [.flowEntry, .flowMappingEnd] false fuel
        return (name, value)
      else return (← node false false fuel, .empty)

end

/-- Passes over marks of the end of a document. -/
def documentEnds : Nat → TokenReader Unit
  | 0 => throw Fault.malformed
  | fuel + 1 => do
      if ← take .documentEnd then documentEnds fuel else return ()

/-- Reads the node of the only document of a text; none when the text holds nothing. -/
def document (fuel : Nat) : TokenReader (Option Node) := do
  if ← isAt [.streamEnd] then return none
  else
    let root ←
      if ← take .documentStart then
        nodeUnless [.documentStart, .documentEnd, .streamEnd] true false fuel
      else node true false fuel
    documentEnds fuel
    require .streamEnd
    return some root

/-! ## Values -/

/-- Whether a node is the name by which a mapping takes in the members of others. -/
def Node.isMerge : Node → Bool
  | scalar text true => text == mergeWord
  | _ => false

/-- The members of the mappings that a mapping takes in. -/
def mergedMembers : Node → Except Fault (List (Node × Node))
  | .mapping members => .ok members
  | .sequence items => do
      let members ← items.mapM fun
        | .mapping members => .ok members
        | _ => .error .malformed
      return members.reverse.flatten
  | .scalar _ _ => .error .malformed

/-- The members of a mapping with those that it takes in before its own, to a depth. -/
def flatMembers : Nat → List (Node × Node) → Except Fault (List (Node × Node))
  | 0, members => .ok members
  | depth + 1, members => do
      let merged ← (members.filter (·.1.isMerge)).mapM fun member => mergedMembers member.2
      let own := members.filter (!·.1.isMerge)
      if merged.isEmpty then return own
      else return (← flatMembers depth merged.flatten) ++ own

def nameValue : Node → Except Fault Value
  | .scalar text false => .ok (.text text)
  | .scalar text true => if text == defaultWord then .ok (.text text) else plainValue text
  | _ => .error .malformed

/-- The number of mappings that may take in one another. -/
def maxMergeDepth : Nat := 64

mutual

/-- The value of a node.  `fuel` bounds its depth. -/
def valueOf : Nat → Node → Except Fault Value
  | 0, _ => .error .malformed
  | _ + 1, .scalar text isPlain => if isPlain then plainValue text else .ok (.text text)
  | fuel + 1, .sequence items => do return .list (← items.mapM (valueOf fuel))
  | fuel + 1, .mapping members => do
      let flat ← flatMembers maxMergeDepth members
      return .map (setKeys (← flat.mapM fun member => memberOf fuel member.1 member.2))

def memberOf : Nat → Node → Node → Except Fault (Value × Value)
  | 0, _, _ => .error .malformed
  | fuel + 1, name, value => do
      let key ← nameValue name
      return (key, ← valueOf fuel value)

end

/-! ## Whole texts -/

/-- Characters that a document may hold. -/
def isAdmitted (c : Char) : Bool :=
  let code := c.toNat
  code == 0x9 || code == 0xa || code == 0xd || (0x20 ≤ code && code ≤ 0x7e) || code == 0x85
    || (0xa0 ≤ code && code ≤ 0xd7ff) || (0xe000 ≤ code && code ≤ 0xfffd) || 0x10000 ≤ code

/-- A text with line feeds for carriage returns. -/
def normalizeLineEnds : List Char → List Char
  | [] => []
  | '\r' :: '\n' :: cs => '\n' :: normalizeLineEnds cs
  | c :: cs => (if c == '\r' then '\n' else c) :: normalizeLineEnds cs

/-- Reads a whole text; an empty one has the value null. -/
def read (text : String) : Except Fault Value := do
  let cs := normalizeLineEnds text.toList
  if !cs.all isAdmitted then throw Fault.malformed
  let tokens := tokensOf cs
  let fuel := 4 * tokens.length + 8
  let (root, _) ← (document fuel).run tokens
  match root with
  | some root => valueOf fuel root
  | none => return .null

end WireSchema.Yaml
