import WireSchema.Text.Cut

namespace WireSchema.Text

/-!
Words of a command line.

A program setting such as `python -m grpc_tools.protoc` is cut into words as a shell would cut it:
white space separates, single quotes keep everything, double quotes keep everything but the escape
of a quote or a backslash, and a backslash outside quotes keeps the next character.  A quote that
is never closed and a backslash at the very end make the text no command line.
-/

/-- Why a text is no command line. -/
inductive ShellWordFault where
  | openQuote
  | openEscape
deriving DecidableEq, Repr

/-- Where the reader of a command line stands. -/
inductive ShellState where
  /-- Between words. -/
  | between
  /-- Inside a word, outside quotes. -/
  | word
  /-- Inside quotes of the given kind. -/
  | inQuotes (quote : Char)
  /-- After a backslash; inside double quotes or not. -/
  | escaped (inDouble : Bool)
deriving DecidableEq, Repr

/-- White space between the words of a command line. -/
def isShellBlank (c : Char) : Bool :=
  c == ' ' || c == '\t' || c == '\r' || c == '\n'

/-- Reads on from a state.  `current` holds the characters of the word so far, the last one first;
`wasQuoted` tells that the word had quotes, so that it counts even when it is empty. -/
def shellWordsFrom (state : ShellState) (current : List Char) (wasQuoted : Bool) :
    List Char → Except ShellWordFault (List String)
  | [] =>
      match state with
      | .inQuotes _ => .error .openQuote
      | .escaped _ => .error .openEscape
      | _ =>
          if wasQuoted || !current.isEmpty then .ok [String.ofList current.reverse] else .ok []
  | c :: cs =>
      match state with
      | .between | .word =>
          if isShellBlank c then
            if wasQuoted || !current.isEmpty then
              (shellWordsFrom .between [] false cs).map (String.ofList current.reverse :: ·)
            else shellWordsFrom .between [] false cs
          else if c = '\\' then shellWordsFrom (.escaped false) current wasQuoted cs
          else if c = '\'' || c = '"' then shellWordsFrom (.inQuotes c) current true cs
          else shellWordsFrom .word (c :: current) wasQuoted cs
      | .inQuotes quote =>
          if c = quote then shellWordsFrom .word current true cs
          else if c = '\\' && quote = '"' then shellWordsFrom (.escaped true) current true cs
          else shellWordsFrom (.inQuotes quote) (c :: current) true cs
      | .escaped inDouble =>
          if inDouble then
            if c = '\\' || c = '"' then shellWordsFrom (.inQuotes '"') (c :: current) true cs
            else shellWordsFrom (.inQuotes '"') (c :: '\\' :: current) true cs
          else shellWordsFrom .word (c :: current) wasQuoted cs

/-- The words of a command line. -/
def shellWords (text : String) : Except ShellWordFault (List String) :=
  shellWordsFrom .between [] false text.toList

end WireSchema.Text
