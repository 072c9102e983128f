import WireSchema.Text.Alphanumeric
import WireSchema.Text.Unprintable

namespace WireSchema.Text

/-!
Classes of characters.

Names, type notations and quoted texts may hold characters of any script, so the classes used to
cut them are the ones of the character standard, not the ones of the basic Latin block.  Each
class is a total test on one character; the larger ones are read from a table of intervals.
-/

/-- Whether a code point lies in one of the closed intervals. -/
def inRanges (ranges : List (Nat × Nat)) (code : Nat) : Bool :=
  ranges.any fun range => range.1 ≤ code && code ≤ range.2

/-- White space of any script, the separators of files, groups, records and
units included.  Everything that is trimmed or split at white space goes by this
class. -/
def isBlank (c : Char) : Bool :=
  inRanges
    [(0x9, 0xd), (0x1c, 0x20), (0x85, 0x85), (0xa0, 0xa0), (0x1680, 0x1680), (0x2000, 0x200a),
     (0x2028, 0x2029), (0x202f, 0x202f), (0x205f, 0x205f), (0x3000, 0x3000)]
    c.toNat

/-- White space of the basic Latin block as an integer text admits it around its digits. -/
def isPlainBlank (c : Char) : Bool :=
  c == ' ' || (0x9 ≤ c.toNat && c.toNat ≤ 0xd)

/-- Letters of any script and characters with a numeric value. -/
def isAlphanumeric (c : Char) : Bool :=
  if c.toNat < 0x80 then c.isAlphanum else inRanges alphanumericRanges c.toNat

/-- Characters of a tag key: letters, digits and the underscore. -/
def isWordChar (c : Char) : Bool :=
  isAlphanumeric c || c == '_'

/-- Characters that a quoted text shows as they are. -/
def isPrintable (c : Char) : Bool :=
  if c.toNat < 0x80 then 0x20 ≤ c.toNat && c.toNat < 0x7f
  else !inRanges unprintableRanges c.toNat

/-- Characters after which a new line of text begins. -/
def isLineEnd (c : Char) : Bool :=
  inRanges [(0xa, 0xd), (0x1c, 0x1e), (0x85, 0x85), (0x2028, 0x2029)] c.toNat

end WireSchema.Text
