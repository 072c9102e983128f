import WireSchema.Text.Cut

namespace WireSchema.Text

/-!
Lines of a text.

A line ends at a line feed, a carriage return, both together, or one of the other characters that
end a line; the ending is not part of it.  A text that ends with a line end has no empty last
line.
-/

/-- The lines of a text that continues a line; `current` holds that line's characters so far, the
last one first. -/
def linesFrom (current : List Char) : List Char → List (List Char)
  | [] => if current.isEmpty then [] else [current.reverse]
  | '\r' :: '\n' :: cs => current.reverse :: linesFrom [] cs
  | c :: cs =>
      if isLineEnd c then current.reverse :: linesFrom [] cs
      else linesFrom (c :: current) cs

/-- The lines of a text without their ends. -/
def linesOf (text : String) : List String :=
  (linesFrom [] text.toList).map String.ofList

/-- A text with line feeds as its only line ends, where carriage returns have ended lines too. -/
def withLineFeeds (text : String) : String :=
  replaceAll "\r" "\n" (replaceAll "\r\n" "\n" text)

end WireSchema.Text
