import WireSchema.Text.Lines

namespace WireSchema.Text

/-!
The outer form of a Python module.

A written module is checked before it takes the place of an earlier one.  The check is lexical: a
string must be closed, on its own line unless it has triple quotes, and brackets must be closed in
the order in which they are opened.  Comments and the contents of strings do not count.  A cut-off
module fails it; a module that passes need not compile.
-/

/-- Where the reader of a module stands. -/
inductive ModuleState where
  | code
  /-- In a comment, up to the end of the line. -/
  | comment
  /-- In a string that ends with the quote on the same line. -/
  | line (quote : Char)
  /-- In a string that ends with three quotes. -/
  | block (quote : Char)
deriving DecidableEq, Repr

/-- The bracket that closes an opening one. -/
def closingOf? (c : Char) : Option Char :=
  if c = '(' then some ')' else if c = '[' then some ']' else if c = '{' then some '}' else none

/-- Whether a character closes a bracket. -/
def isClosing (c : Char) : Bool := c == ')' || c == ']' || c == '}'

/-- Whether a character opens or closes a string. -/
def isQuote (c : Char) : Bool := c == '"' || c == '\''

/-- Reads on from a state.  `awaited` holds the brackets that are still to be closed, the next one
first; `skip` characters belong to a mark already read. -/
def moduleFormFrom (state : ModuleState) (awaited : List Char) : Nat → List Char → Bool
  | _, [] => (state == .code || state == .comment) && awaited.isEmpty
  | skip + 1, _ :: cs => moduleFormFrom state awaited skip cs
  | 0, c :: cs =>
      match state with
      | .comment => moduleFormFrom (if c = '\n' then .code else .comment) awaited 0 cs
      | .line quote =>
          if c = quote then moduleFormFrom .code awaited 0 cs
          else if c = '\n' then false
          else moduleFormFrom state awaited (if c = '\\' then 1 else 0) cs
      | .block quote =>
          if c = quote && cs.take 2 == [quote, quote] then moduleFormFrom .code awaited 2 cs
          else moduleFormFrom state awaited (if c = '\\' then 1 else 0) cs
      | .code =>
          if c = '#' then moduleFormFrom .comment awaited 0 cs
          else if isQuote c then
            if cs.take 2 == [c, c] then moduleFormFrom (.block c) awaited 2 cs
            else moduleFormFrom (.line c) awaited 0 cs
          else if isClosing c then
            match awaited with
            | [] => false
            | next :: later => if c = next then moduleFormFrom .code later 0 cs else false
          else moduleFormFrom .code ((closingOf? c).toList ++ awaited) 0 cs

/-- Whether a text has the outer form of a module, whatever ends its lines. -/
def isModuleForm (text : String) : Bool :=
  moduleFormFrom .code [] 0 (withLineFeeds text).toList

end WireSchema.Text
