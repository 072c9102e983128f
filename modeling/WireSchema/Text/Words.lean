import WireSchema.Text.Cut

namespace WireSchema.Text

/-!
Words of an identifier and the spellings built from them.

An identifier is read as words of Latin letters and digits; every other character only separates.
Inside a run of letters and digits a new word begins where letters meet digits, where a small
letter is followed by a capital, and before the last capital of an acronym that runs into a
capitalised word, so that `HTTPServer` has the words `HTTP` and `Server`.  All spellings of names
in the generated files (snake case, capitals, Pascal case) are joined from these words.
-/

/-- Whether two adjacent letters or digits belong to different words, given what
follows them.  The third character tells an acronym from the capital of the word
behind it. -/
def isWordBoundary (first second : Char) (next : Option Char) : Bool :=
  (first.isDigit != second.isDigit)
    || (first.isLower && second.isUpper)
    || (first.isUpper && second.isUpper && (next.map Char.isLower).getD false)

/-- The words of a text, in order.  Characters other than Latin letters and
digits separate.  Letters of other scripts are among these, so that they are lost
in every derived name. -/
def words : List Char → List (List Char)
  | [] => []
  | c :: rest =>
      if c.isAlphanum then
        match rest with
        | [] => [[c]]
        | d :: tail =>
            if d.isAlphanum && !isWordBoundary c d tail.head? then
              match words (d :: tail) with
              | [] => [[c]]
              | word :: others => (c :: word) :: others
            else [c] :: words (d :: tail)
      else words rest

def joinWords (separator : List Char) (parts : List (List Char)) : String :=
  String.ofList (List.intercalate separator parts)

/-- Words in small letters, joined by underscores: `CreatedAt` gives `created_at`. -/
def toSnakeCase (text : String) : String :=
  joinWords ['_'] ((words text.toList).map fun word => word.map Char.toLower)

/-- Words in capitals, joined by underscores: `StatusActive` gives `STATUS_ACTIVE`. -/
def toScreamingSnakeCase (text : String) : String :=
  joinWords ['_'] ((words text.toList).map fun word => word.map Char.toUpper)

/-- A word with a capital first letter and small ones after it. -/
def capitalize : List Char → List Char
  | [] => []
  | c :: cs => c.toUpper :: cs.map Char.toLower

/-- Capitalised words joined without a separator: `user_id` gives `UserId`. -/
def toPascalCase (text : String) : String :=
  joinWords [] ((words text.toList).map capitalize)

/-- The tokens that stand for the marks of a type notation inside a function name, in the order
in which they are put in. -/
def typeMarkTokens : List (String × String) :=
  [("[]", "Slice"), ("*", "Star"), (".", "_"), ("[", "_"), ("]", ""), (",", "_"), (" ", "")]

/-- A type notation as part of a function name: `[]*models.User` gives
`SliceStarmodels_User`.  Different notations can become the same, since every
mark has a replacement that a name may hold itself. -/
def sanitizeTypeName (typeText : String) : String :=
  typeMarkTokens.foldl (fun text token => replaceAll token.1 token.2 text) typeText

end WireSchema.Text
