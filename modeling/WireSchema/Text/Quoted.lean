import WireSchema.Text.CharClass

namespace WireSchema.Text

/-!
Quoted texts.

A message quotes a text so that its ends, and characters that cannot be seen, are visible.  Single
quotes enclose it unless it holds a single quote and no double one.  The enclosing quote and the
backslash are escaped, and so is every character without a visible form.
-/

/-- The last `width` hexadecimal digits of a number, in lower case. -/
def hexDigits (width value : Nat) : List Char :=
  match width with
  | 0 => []
  | width + 1 => hexDigits width (value / 16) ++ [Nat.digitChar (value % 16)]

/-- How one character stands between the given quotes. -/
def escapeChar (quote c : Char) : List Char :=
  if c = quote || c = '\\' then ['\\', c]
  else if c = '\t' then ['\\', 't']
  else if c = '\n' then ['\\', 'n']
  else if c = '\r' then ['\\', 'r']
  else if isPrintable c then [c]
  else if c.toNat < 0x100 then ['\\', 'x'] ++ hexDigits 2 c.toNat
  else if c.toNat < 0x10000 then ['\\', 'u'] ++ hexDigits 4 c.toNat
  else ['\\', 'U'] ++ hexDigits 8 c.toNat

/-- The quote that encloses a text. -/
def quoteFor (cs : List Char) : Char :=
  if cs.contains '\'' && !cs.contains '"' then '"' else '\''

/-- A text between quotes, with what cannot be shown escaped. -/
def quoted (text : String) : String :=
  let cs := text.toList
  let quote := quoteFor cs
  String.ofList (quote :: cs.flatMap (escapeChar quote) ++ [quote])

end WireSchema.Text
