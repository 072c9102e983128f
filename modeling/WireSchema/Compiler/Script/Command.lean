namespace WireSchema.Script

/-!
Commands of a script.

A script is read into commands before it runs.  A command is a list of words with redirections, or
it is put together from other commands.  A word is a list of parts, which are expanded when the
command is carried out.  Whether a part is quoted is kept: what an unquoted one expands to is cut
into fields and matched against the names of files.
-/

/-- What takes the place of a parameter. -/
inductive Replacement where
  /-- A word in the place of a missing value. -/
  | fallback
  /-- The same, and the parameter is set to it. -/
  | setting
  /-- A missing value ends the script. -/
  | demand
  /-- A word in the place of a value that is there. -/
  | alternative
deriving DecidableEq, Repr

/-- How a stream is redirected. -/
inductive Direction where
  /-- Into a file, which is made or emptied. -/
  | create
  /-- To the end of a file. -/
  | append
  /-- From a file. -/
  | read
  /-- To where another stream goes. -/
  | copy
  /-- From a text inside the script. -/
  | given
deriving DecidableEq, Repr

mutual

inductive Part where
  /-- A character that stands for itself. -/
  | character (c : Char) (quoted : Bool)
  /-- The place of a quote: a word with one counts even when it is empty. -/
  | mark
  /-- The value of a parameter. -/
  | parameter (name : String) (use : Use) (quoted : Bool)
  /-- What commands print. -/
  | output (command : Command) (quoted : Bool)
  /-- The value of an arithmetic expression. -/
  | number (expression : List Part) (quoted : Bool)

/-- What is taken of a parameter. -/
inductive Use where
  | plain
  | length
  /-- `countsEmpty` tells that an empty value counts as missing. -/
  | replaced (replacement : Replacement) (countsEmpty : Bool) (word : List Part)
  /-- The value without what a pattern matches at its start or end. -/
  | without (atEnd longest : Bool) (pattern : List Part)
  /-- No form that is known. -/
  | malformed

/-- A stream of a command that is sent elsewhere. -/
inductive Redirection where
  | of (stream : Nat) (direction : Direction) (target : List Part)

inductive Command where
  | nothing
  /-- Words after settings of variables. -/
  | simple (line : Nat) (settings : List (String × List Part)) (words : List (List Part))
      (redirections : List Redirection)
  | sequence (first second : Command)
  | onSuccess (first second : Command)
  | onFailure (first second : Command)
  | negated (command : Command)
  /-- Commands each of which reads what the one before it prints. -/
  | pipe (commands : List Command)
  | background (command : Command)
  /-- A command with redirections for all of it. -/
  | redirected (line : Nat) (command : Command) (redirections : List Redirection)
  /-- A command whose settings are lost at its end. -/
  | subshell (line : Nat) (command : Command) (redirections : List Redirection)
  | branch (test positive negative : Command)
  /-- A body that is repeated while a test succeeds, or until it does. -/
  | loop (untilSuccess : Bool) (test body : Command)
  /-- A body for each field of some words; without words, for each parameter. -/
  | each (name : String) (words : Option (List (List Part))) (body : Command)
  /-- The first command with a pattern that matches a word. -/
  | choice (word : List Part) (cases : List (List (List Part) × Command))
  | definition (name : String) (body : Command)

end

instance : Inhabited Command := ⟨.nothing⟩

/-- Commands one after the other. -/
def Command.followedBy (second : Command) : Command → Command
  | .nothing => second
  | first => .sequence first second

/-! ## Names -/

/-- Whether a name can begin with a character. -/
def isNameStart (c : Char) : Bool := c.isAlpha || c == '_'

/-- Whether a character can stand in a name. -/
def isNameChar (c : Char) : Bool := c.isAlphanum || c == '_'

def isName (text : String) : Bool :=
  match text.toList with
  | [] => false
  | c :: cs => isNameStart c && cs.all isNameChar

/-- The names of commands that end a script by a fault, and that no function can have. -/
def specialNames : List String :=
  [".", ":", "break", "continue", "eval", "exec", "exit", "export", "readonly", "return", "set",
   "shift", "times", "trap", "unset"]

/-- Whether a character names a parameter that is not set by name. -/
def isSpecialName (c : Char) : Bool :=
  c.isDigit || ['@', '*', '#', '?', '-', '$', '!'].contains c

/-- The text of a word without quotes and expansions. -/
def plainText? : List Part → Option String
  | [] => some ""
  | .character c false :: parts => (plainText? parts).map fun text => String.singleton c ++ text
  | _ => none

/-- A word that sets a variable: its name, and the parts after the equals sign. -/
def setting? (parts : List Part) : Option (String × List Part) :=
  let isEquals : Part → Bool
    | .character '=' false => true
    | _ => false
  match parts.dropWhile (!isEquals ·) with
  | _ :: value =>
      ((plainText? (parts.takeWhile (!isEquals ·))).filter isName).map fun name => (name, value)
  | [] => none

end WireSchema.Script
