import WireSchema.Compiler.Script.Command

namespace WireSchema.Script

/-!
Reading scripts.

A script is read command by command: a line is carried out before the next one is read, so a fault
counts only when the line that has it is reached.  Tokens are words, operators, redirections and
ends of lines; which words are keywords depends on where they stand.  A token that does not belong
where it stands is looked at again by the command around it.
-/

/-- Why a text is no script, and the line at which this is noticed. -/
structure ReadFault where
  message : String
  line : Nat
deriving DecidableEq, Repr

inductive Token where
  | textEnd
  | lineEnd
  | operator (mark : String)
  | redirection (stream : Nat) (mark : String)
  | keyword (name : String)
  | word (parts : List Part)

/-- Where the reader of a script stands. -/
structure Cursor where
  rest : List Char
  line : Nat := 1
  /-- A token that is looked at again. -/
  pending : Option Token := none

abbrev Reader := StateT Cursor (Except ReadFault)

namespace Reader

/-! ## Characters -/

def refuse {α : Type} (message : String) : Reader α := do
  throw { message := "Syntax error: " ++ message, line := (← get).line }

/-- Moves over characters. -/
def skip (count : Nat) : Reader Unit :=
  modify fun cursor =>
    { cursor with
      rest := cursor.rest.drop count
      line := cursor.line + ((cursor.rest.take count).filter (· == '\n')).length }

/-- The characters of a class that come next. -/
def takeWhile (test : Char → Bool) : Reader (List Char) := do
  let found := (← get).rest.takeWhile test
  skip found.length
  return found

/-- The text of a fault for a quote that is not closed. -/
def openQuote : String := "Unterminated quoted string"

/-- The mark around old substitutions. -/
def backQuote : Char := Char.ofNat 96

def readSingle : Reader (List Part) := do
  let found ← takeWhile (· != '\'')
  if (← get).rest.isEmpty then refuse openQuote
  skip 1
  return .mark :: found.map (.character · true)

/-- Moves over blanks, comments and line ends that do not count. -/
def blanksFrom : List Char → Nat → Nat
  | ' ' :: cs, count => blanksFrom cs (count + 1)
  | '\t' :: cs, count => blanksFrom cs (count + 1)
  | '\\' :: '\n' :: cs, count => blanksFrom cs (count + 2)
  | '#' :: cs, count => count + 1 + (cs.takeWhile (· != '\n')).length
  | _, count => count

/-! ## Tokens -/

/-- Operators, longer ones before those they begin with. -/
def operators : List String := ["&&", "||", ";;", "&", "|", ";", "(", ")"]

/-- Marks of redirections, longer ones before those they begin with. -/
def redirections : List String := [">>", ">&", ">|", "<<", "<&", "<>", ">", "<"]

/-- Words that are keywords at the start of a command. -/
def keywords : List String :=
  ["!", "\x7b", "\x7d", "case", "do", "done", "elif", "else", "esac", "fi", "for", "if", "in",
   "then", "until", "while"]

def endsList : Token → Bool
  | .textEnd => true
  | .operator mark => [")", ";;"].contains mark
  | .keyword name =>
      ["do", "done", "elif", "else", "esac", "fi", "then", "\x7d"].contains name
  | _ => false

def endsWord (c : Char) : Bool :=
  [' ', '\t', '\n', ';', '&', '|', '(', ')', '<', '>'].contains c

/-- A token as a fault names it. -/
def tokenText : Token → String
  | .textEnd => "end of file"
  | .lineEnd => "newline"
  | .operator mark => "\"" ++ mark ++ "\""
  | .redirection _ _ => "redirection"
  | .keyword name => "\"" ++ name ++ "\""
  | .word _ => "word"

def unexpected {α : Type} (token : Token) : Reader α :=
  refuse (tokenText token ++ " unexpected")

/-- Refuses a token in the place of another one. -/
def expected {α : Type} (token : Token) (other : String) : Reader α :=
  refuse (tokenText token ++ " unexpected (expecting \"" ++ other ++ "\")")

/-- Lets a token be looked at again. -/
def putBack (token : Token) : Reader Unit :=
  modify fun cursor => { cursor with pending := some token }

/-- The first of some marks with which characters begin. -/
def leading? (marks : List String) (cs : List Char) : Option String :=
  marks.find? fun mark => mark.toList.isPrefixOf cs

/-- The stream that a mark of a redirection is about. -/
def ownStream (mark : String) : Nat := if mark.startsWith "<" then 0 else 1

def readMark? : Reader (Option Token) := do
  let skipped := blanksFrom (← get).rest 0
  skip skipped
  match (← get).rest with
  | [] => return some .textEnd
  | '\n' :: _ =>
      skip 1
      return some .lineEnd
  | c :: cs =>
      match leading? operators (c :: cs), leading? redirections (c :: cs) with
      | some mark, _ =>
          skip mark.length
          return some (.operator mark)
      | none, some mark =>
          skip mark.length
          return some (.redirection (ownStream mark) mark)
      | none, none =>
          if c.isDigit then
            match leading? redirections cs with
            | some mark =>
                skip (mark.length + 1)
                return some (.redirection (c.toNat - '0'.toNat) mark)
            | none => return none
          else return none

/-- A word that stands for a keyword. -/
def keyword? (parts : List Part) : Option String :=
  (plainText? parts).filter keywords.contains

/-! ## Words -/

/-- What ends a list of parts. -/
inductive Ending where
  /-- A character that ends a word. -/
  | word
  /-- A double quote. -/
  | quote
  /-- A closing brace; inside double quotes or not. -/
  | brace (quoted : Bool)
  /-- Two closing brackets, when so many single ones are open. -/
  | sum (depth : Nat)
  /-- The end of the text. -/
  | text

/-- Whether the parts before an ending are quoted. -/
def Ending.isQuoted : Ending → Bool
  | word => false
  | brace quoted => quoted
  | _ => true

/-- The fault of a text that ends too early. -/
def Ending.missing : Ending → Option String
  | quote => some openQuote
  | brace _ => some "Missing '\x7d'"
  | sum _ => some "Missing '))'"
  | _ => none

/-- The characters that keep a backslash from standing for itself. -/
def Ending.escapable : Ending → List Char
  | quote => ['\\', '$', backQuote, '"']
  | brace true => ['\\', '$', backQuote, '"', '}']
  | _ => ['\\', '$', backQuote]

/-- The characters of an old substitution with their escapes read. -/
def withoutEscapes (quoted : Bool) : List Char → List Char
  | '\\' :: c :: cs =>
      if c == '\n' then withoutEscapes quoted cs
      else if c == '\\' || c == backQuote || c == '$' || (quoted && c == '"') then
        c :: withoutEscapes quoted cs
      else '\\' :: c :: withoutEscapes quoted cs
  | c :: cs => c :: withoutEscapes quoted cs
  | [] => []

/-- The number of characters before the mark that closes an old substitution. -/
def oldLength? : List Char → Nat → Option Nat
  | [], _ => none
  | '\\' :: _ :: cs, count => oldLength? cs (count + 2)
  | c :: cs, count => if c == backQuote then some count else oldLength? cs (count + 1)

/-- The name of the parameter between braces, and whether its length is taken. -/
def bracedName? (cs : List Char) : Option (String × Bool) :=
  let nameOf (cs : List Char) : String :=
    match cs with
    | c :: rest =>
        if isNameStart c then String.ofList (c :: rest.takeWhile isNameChar)
        else if c.isDigit then String.ofList (c :: rest.takeWhile Char.isDigit)
        else if isSpecialName c then String.singleton c
        else ""
    | [] => ""
  match cs with
  | '#' :: rest =>
      let name := nameOf rest
      if name != "" && (rest.drop name.length).head? == some '}' then some (name, true)
      else some ("#", false)
  | _ => if nameOf cs == "" then none else some (nameOf cs, false)

/-- The replacement that a mark stands for. -/
def replacement? : Char → Option Replacement
  | '-' => some .fallback
  | '=' => some .setting
  | '?' => some .demand
  | '+' => some .alternative
  | _ => none

/-- Which commands a list may have. -/
inductive ListForm where
  /-- A line of the script. -/
  | line
  /-- At least one command on any number of lines. -/
  | filled
  /-- Any commands on any number of lines. -/
  | any
deriving DecidableEq, Repr

/-- The lines of a text inside the script up to one that is a given word, with how many characters
they take; `dropsTabs` leaves out the tabs at their starts. -/
def givenLines (word : List Char) (dropsTabs : Bool) : Nat → List Char → List Char × Nat
  | 0, _ => ([], 0)
  | _ + 1, [] => ([], 0)
  | fuel + 1, cs =>
      let line := cs.takeWhile (· != '\n')
      let whole := (cs.take (line.length + 1)).length
      let shown := if dropsTabs then line.dropWhile (· == '\t') else line
      if shown == word then ([], whole)
      else
        let (others, count) := givenLines word dropsTabs fuel (cs.drop whole)
        (shown ++ '\n' :: others, whole + count)

/-- Cuts a text inside the script out of what follows the line. -/
def takeGiven (word : List Char) (dropsTabs : Bool) : Reader (List Char) := do
  let rest := (← get).rest
  let line := rest.takeWhile (· != '\n')
  let after := rest.drop (line.length + 1)
  let (content, count) := givenLines word dropsTabs (after.length + 1) after
  modify fun cursor => { cursor with rest := line ++ '\n' :: after.drop count }
  return content

def ownCharacters (parts : List Part) : List Char :=
  parts.filterMap fun
    | .character c _ => some c
    | _ => none

def hasQuotes (parts : List Part) : Bool :=
  parts.any fun
    | .mark => true
    | .character _ quoted => quoted
    | _ => false

/-- Runs a step on another text and comes back. -/
def within {α : Type} (text : List Char) (step : Reader α) : Reader α := do
  let before ← get
  set { before with rest := text, pending := none }
  let result ← step
  set before
  return result

mutual

/-- Reads the parts before an ending, which is read too unless it ends a word. -/
def readParts : Nat → Ending → Reader (List Part)
  | 0, _ => refuse openQuote
  | fuel + 1, ending => do
      match (← get).rest with
      | [] =>
          match ending.missing with
          | some message => refuse message
          | none => return []
      | c :: cs =>
          match ending with
          | .word => if endsWord c then return [] else readOn fuel ending ending c
          | .quote =>
              if c = '"' then skip 1; return [] else readOn fuel ending ending c
          | .brace _ =>
              if c = '}' then skip 1; return [] else readOn fuel ending ending c
          | .sum 0 =>
              if c = ')' && cs.head? == some ')' then skip 2; return []
              else readOn fuel (if c = '(' then .sum 1 else ending) ending c
          | .sum (depth + 1) =>
              let next :=
                if c = '(' then .sum (depth + 2) else if c = ')' then .sum depth else ending
              readOn fuel next ending c
          | .text => readOn fuel ending ending c

/-- Reads a part that begins with a character, and those after it up to an ending. -/
def readOn : Nat → Ending → Ending → Char → Reader (List Part)
  | 0, _, _, _ => refuse openQuote
  | fuel + 1, next, ending, c => do
      let first ← readPart fuel ending c
      return first ++ (← readParts fuel next)

/-- Reads a part that begins with a character. -/
def readPart : Nat → Ending → Char → Reader (List Part)
  | 0, _, _ => refuse openQuote
  | fuel + 1, ending, c => do
      let quoted := ending.isQuoted
      skip 1
      if c = '\\' then
        match (← get).rest with
        | [] => return [.character c true]
        | '\n' :: _ => skip 1; return []
        | escaped :: _ =>
            skip 1
            if quoted && !ending.escapable.contains escaped then
              return [.character c true, .character escaped true]
            else return [.character escaped true]
      else if c = '\'' && !quoted then readSingle
      else if c = '"' then
        match ending with
        | .sum _ => return [.character c true]
        | .text => return [.character c true]
        | _ => return .mark :: (← readParts fuel .quote)
      else if c = '$' then readDollar fuel quoted
      else if c == backQuote then readOld fuel quoted
      else return [.character c quoted]

/-- Reads what follows a dollar sign. -/
def readDollar : Nat → Bool → Reader (List Part)
  | 0, _ => refuse openQuote
  | fuel + 1, quoted => do
      match (← get).rest with
      | '(' :: '(' :: _ =>
          skip 2
          return [.number (← readParts fuel (.sum 0)) quoted]
      | '(' :: _ =>
          skip 1
          let command ← readList fuel .any .nothing
          expectOperator fuel ")"
          return [.output command quoted]
      | '{' :: _ =>
          skip 1
          return [← readBraces fuel quoted]
      | c :: _ =>
          if isNameStart c then
            return [.parameter (String.ofList (← takeWhile isNameChar)) .plain quoted]
          else if isSpecialName c then
            skip 1
            return [.parameter (String.singleton c) .plain quoted]
          else return [.character '$' quoted]
      | [] => return [.character '$' quoted]

/-- Reads a parameter between braces. -/
def readBraces : Nat → Bool → Reader Part
  | 0, _ => refuse openQuote
  | fuel + 1, quoted => do
      match bracedName? (← get).rest with
      | none => readMalformed fuel "" quoted
      | some (name, takesLength) =>
          skip (name.length + if takesLength then 1 else 0)
          match takesLength, (← get).rest with
          | true, '}' :: _ =>
              skip 1
              return .parameter name .length quoted
          | false, '}' :: _ =>
              skip 1
              return .parameter name .plain quoted
          | false, '%' :: '%' :: _ => skip 2; readPattern fuel name true true quoted
          | false, '%' :: _ => skip 1; readPattern fuel name true false quoted
          | false, '#' :: '#' :: _ => skip 2; readPattern fuel name false true quoted
          | false, '#' :: _ => skip 1; readPattern fuel name false false quoted
          | false, ':' :: c :: _ =>
              match replacement? c with
              | some replacement => skip 2; readReplacement fuel name replacement true quoted
              | none => readMalformed fuel name quoted
          | false, c :: _ =>
              match replacement? c with
              | some replacement => skip 1; readReplacement fuel name replacement false quoted
              | none => readMalformed fuel name quoted
          | _, _ => readMalformed fuel name quoted

/-- Reads the rest of a parameter that has no known form. -/
def readMalformed : Nat → String → Bool → Reader Part
  | 0, _, _ => refuse openQuote
  | fuel + 1, name, quoted => do
      let _ ← readParts fuel (.brace quoted)
      return .parameter name .malformed quoted

/-- Reads the pattern of what is left out of a parameter. -/
def readPattern : Nat → String → Bool → Bool → Bool → Reader Part
  | 0, _, _, _, _ => refuse openQuote
  | fuel + 1, name, atEnd, longest, quoted => do
      return .parameter name (.without atEnd longest (← readParts fuel (.brace false))) quoted

/-- Reads the word that takes the place of a parameter. -/
def readReplacement : Nat → String → Replacement → Bool → Bool → Reader Part
  | 0, _, _, _, _ => refuse openQuote
  | fuel + 1, name, replacement, countsEmpty, quoted => do
      let word ← readParts fuel (.brace quoted)
      return .parameter name (.replaced replacement countsEmpty word) quoted

def readOld : Nat → Bool → Reader (List Part)
  | 0, _ => refuse openQuote
  | fuel + 1, quoted => do
      match oldLength? (← get).rest 0 with
      | none =>
          skip (← get).rest.length
          refuse "EOF in backquote substitution"
      | some length =>
          let text := withoutEscapes quoted ((← get).rest.take length)
          skip (length + 1)
          let command ← within text do
            let command ← readList fuel .any .nothing
            match ← readToken fuel false false with
            | .textEnd => return command
            | token => unexpected token
          return [.output command quoted]

def readToken : Nat → Bool → Bool → Reader Token
  | 0, _, _ => return .textEnd
  | fuel + 1, skipsLines, findsKeywords => do
      let found ← match (← get).pending with
        | some token =>
            modify fun cursor => { cursor with pending := none }
            pure token
        | none =>
            match ← readMark? with
            | some token => pure token
            | none => pure (.word (← readParts fuel .word))
      match found with
      | .lineEnd => if skipsLines then readToken fuel skipsLines findsKeywords else return found
      | .word parts =>
          match findsKeywords, keyword? parts with
          | true, some name => return .keyword name
          | _, _ => return found
      | _ => return found

def expectOperator : Nat → String → Reader Unit
  | 0, _ => refuse openQuote
  | fuel + 1, mark => do
      match ← readToken fuel false false with
      | .operator found =>
          if found = mark then return else expected (.operator found) mark
      | token => expected token mark

def expectKeyword : Nat → Bool → String → Reader Unit
  | 0, _, _ => refuse openQuote
  | fuel + 1, skipsLines, name => do
      match ← readToken fuel skipsLines true with
      | .keyword found => if found = name then return else expected (.keyword found) name
      | token => expected token name

/-- Reads a list of commands after those already read. -/
def readList : Nat → ListForm → Command → Reader Command
  | 0, _, _ => refuse openQuote
  | fuel + 1, form, before => do
      let token ← readToken fuel (form != .line) true
      match token with
      | .textEnd => putBack token; return before
      | .lineEnd => return before
      | _ =>
          putBack token
          if form == .any && endsList token then return before
          let command ← readCommands fuel
          let follower ← readToken fuel false false
          let form := if form == .filled then .any else form
          match follower with
          | .operator "&" =>
              readList fuel form (.followedBy (.background command) before)
          | .operator ";" => readList fuel form (.followedBy command before)
          | .lineEnd | .textEnd =>
              putBack follower
              readList fuel form (.followedBy command before)
          | _ =>
              if form == .line then unexpected follower
              putBack follower
              return .followedBy command before

/-- Reads commands that depend on one another. -/
def readCommands : Nat → Reader Command
  | 0 => refuse openQuote
  | fuel + 1 => do readConditional fuel (← readPipeline fuel)

def readConditional : Nat → Command → Reader Command
  | 0, _ => refuse openQuote
  | fuel + 1, before => do
      match ← readToken fuel false false with
      | .operator "&&" =>
          readConditional fuel (.onSuccess before (← readPipelineBelow fuel))
      | .operator "||" =>
          readConditional fuel (.onFailure before (← readPipelineBelow fuel))
      | token => putBack token; return before

/-- Reads a pipeline, which may stand on a later line. -/
def readPipelineBelow : Nat → Reader Command
  | 0 => refuse openQuote
  | fuel + 1 => do
      putBack (← readToken fuel true true)
      readPipeline fuel

def readPipeline : Nat → Reader Command
  | 0 => refuse openQuote
  | fuel + 1 => do
      match ← readToken fuel false true with
      | .keyword "!" => return .negated (← readPiped fuel)
      | token => putBack token; readPiped fuel

def readPiped : Nat → Reader Command
  | 0 => refuse openQuote
  | fuel + 1 => do
      let first ← readCommand fuel
      match ← readOthers fuel with
      | [] => return first
      | others => return .pipe (first :: others)

/-- Reads the further commands of a pipeline. -/
def readOthers : Nat → Reader (List Command)
  | 0 => refuse openQuote
  | fuel + 1 => do
      match ← readToken fuel false false with
      | .operator "|" =>
          putBack (← readToken fuel true true)
          let next ← readCommand fuel
          return next :: (← readOthers fuel)
      | token => putBack token; return []

def readCommand : Nat → Reader Command
  | 0 => refuse openQuote
  | fuel + 1 => do
      let line := (← get).line
      match ← readToken fuel false true with
      | .keyword "if" => readBranch fuel >>= readFrame fuel line
      | .keyword "while" => readLoop fuel false >>= readFrame fuel line
      | .keyword "until" => readLoop fuel true >>= readFrame fuel line
      | .keyword "for" => readEach fuel >>= readFrame fuel line
      | .keyword "case" => readChoice fuel >>= readFrame fuel line
      | .keyword "\x7b" => do
          let command ← readList fuel .filled .nothing
          expectKeyword fuel false "\x7d"
          readFrame fuel line command
      | .operator "(" => do
          let command ← readList fuel .filled .nothing
          expectOperator fuel ")"
          return .subshell line command (← readRedirections fuel)
      | .word parts => putBack (.word parts); readSimple fuel line [] [] []
      | .redirection stream mark =>
          putBack (.redirection stream mark)
          readSimple fuel line [] [] []
      | token => unexpected token

/-- Reads the redirections after a command. -/
def readFrame : Nat → Nat → Command → Reader Command
  | 0, _, _ => refuse openQuote
  | fuel + 1, line, command => do
      match ← readRedirections fuel with
      | [] => return command
      | redirections => return .redirected line command redirections

def readRedirections : Nat → Reader (List Redirection)
  | 0 => refuse openQuote
  | fuel + 1 => do
      match ← readToken fuel false true with
      | .redirection stream mark => do
          let first ← readTarget fuel stream mark
          return first :: (← readRedirections fuel)
      | token => putBack token; return []

def readTarget : Nat → Nat → String → Reader Redirection
  | 0, _, _ => refuse openQuote
  | fuel + 1, stream, mark => do
      let dropsTabs := mark = "<<" && (← get).rest.head? == some '-'
      if dropsTabs then skip 1
      match ← readToken fuel false false with
      | .word parts =>
          match mark with
          | ">>" => return .of stream .append parts
          | ">&" => return .of stream .copy parts
          | "<&" => return .of stream .copy parts
          | "<" => return .of stream .read parts
          | "<<" => do
              let content ← takeGiven (ownCharacters parts) dropsTabs
              if hasQuotes parts then
                return .of stream .given (content.map (.character · true))
              else return .of stream .given (← within content (readParts fuel .text))
          | _ => return .of stream .create parts
      | token => unexpected token

/-- Reads a command of words after those already read. -/
def readSimple : Nat → Nat → List (String × List Part) → List (List Part) → List Redirection →
    Reader Command
  | 0, _, _, _, _ => refuse openQuote
  | fuel + 1, line, settings, words, redirections => do
      match ← readToken fuel false false with
      | .word parts =>
          match words.isEmpty, setting? parts with
          | true, some setting =>
              readSimple fuel line (settings ++ [setting]) words redirections
          | _, _ => readSimple fuel line settings (words ++ [parts]) redirections
      | .redirection stream mark => do
          let redirection ← readTarget fuel stream mark
          readSimple fuel line settings words (redirections ++ [redirection])
      | .operator "(" =>
          match settings, words, redirections with
          | [], [name], [] => do
              expectOperator fuel ")"
              match (plainText? name).filter fun name =>
                isName name && !specialNames.contains name with
              | none => refuse "Bad function name"
              | some name =>
                  putBack (← readToken fuel true true)
                  return .definition name (← readCommand fuel)
          | _, _, _ =>
              putBack (.operator "(")
              return .simple line settings words redirections
      | token =>
          putBack token
          return .simple line settings words redirections

/-- Reads a branch whose keyword has been read. -/
def readBranch : Nat → Reader Command
  | 0 => refuse openQuote
  | fuel + 1 => do
      let test ← readList fuel .filled .nothing
      expectKeyword fuel false "then"
      let positive ← readList fuel .filled .nothing
      match ← readToken fuel false true with
      | .keyword "elif" => return .branch test positive (← readBranch fuel)
      | .keyword "else" => do
          let negative ← readList fuel .filled .nothing
          expectKeyword fuel false "fi"
          return .branch test positive negative
      | .keyword "fi" => return .branch test positive .nothing
      | token => expected token "fi"

/-- Reads a loop whose keyword has been read. -/
def readLoop : Nat → Bool → Reader Command
  | 0, _ => refuse openQuote
  | fuel + 1, untilSuccess => do
      let test ← readList fuel .filled .nothing
      expectKeyword fuel false "do"
      let body ← readList fuel .filled .nothing
      expectKeyword fuel false "done"
      return .loop untilSuccess test body

/-- Reads words up to the end of their line. -/
def readWords : Nat → Reader (List (List Part))
  | 0 => refuse openQuote
  | fuel + 1 => do
      match ← readToken fuel false false with
      | .word parts => return parts :: (← readWords fuel)
      | .lineEnd => return []
      | .operator ";" => return []
      | token => unexpected token

/-- Reads a loop over words whose keyword has been read. -/
def readEach : Nat → Reader Command
  | 0 => refuse openQuote
  | fuel + 1 => do
      let name ← match ← readToken fuel false false with
        | .word parts =>
            match (plainText? parts).filter isName with
            | some name => pure name
            | none => refuse "Bad for loop variable"
        | _ => refuse "Bad for loop variable"
      let words ← match ← readToken fuel true true with
        | .keyword "in" => do pure (some (← readWords fuel))
        | .operator ";" => pure none
        | token => do
            putBack token
            pure none
      expectKeyword fuel true "do"
      let body ← readList fuel .filled .nothing
      expectKeyword fuel false "done"
      return .each name words body

/-- Reads a choice whose keyword has been read. -/
def readChoice : Nat → Reader Command
  | 0 => refuse openQuote
  | fuel + 1 => do
      match ← readToken fuel false false with
      | .word parts =>
          expectKeyword fuel true "in"
          return .choice parts (← readCases fuel)
      | token => refuse (tokenText token ++ " unexpected (expecting word)")

def readCases : Nat → Reader (List (List (List Part) × Command))
  | 0 => refuse openQuote
  | fuel + 1 => do
      match ← readToken fuel true true with
      | .keyword "esac" => return []
      | token =>
          match token with
          | .operator "(" => pure ()
          | _ => putBack token
          let patterns ← readPatterns fuel
          let command ← readList fuel .any .nothing
          match ← readToken fuel true true with
          | .keyword "esac" => return [(patterns, command)]
          | .operator ";;" => return (patterns, command) :: (← readCases fuel)
          | token => expected token ";;"

/-- Reads the patterns of a case with the bracket after them. -/
def readPatterns : Nat → Reader (List (List Part))
  | 0 => refuse openQuote
  | fuel + 1 => do
      let pattern ← match ← readToken fuel false false with
        | .word parts => pure parts
        | .keyword name => pure (name.toList.map (.character · false))
        | token => expected token ")"
      match ← readToken fuel false false with
      | .operator "|" => return pattern :: (← readPatterns fuel)
      | .operator ")" => return [pattern]
      | token => expected token ")"

end

end Reader

/-- The next line of a script with what follows it; none at the end of the script. -/
def nextLine (cursor : Cursor) : Except ReadFault (Option (Command × Cursor)) :=
  let isAtEnd : Bool :=
    match cursor.pending with
    | some .textEnd => true
    | _ => false
  if isAtEnd || cursor.rest.isEmpty then .ok none
  else (Reader.readList (30 * cursor.rest.length + 100) .line .nothing |>.run cursor).map some

end WireSchema.Script
