import WireSchema.Compiler.Script.Files
import WireSchema.Compiler.Script.Printing
import WireSchema.Compiler.Script.Search

namespace WireSchema.Script

/-!
Programs that scripts call.

A script may call the small programs of the system that print, filter and change files.  A program
gets words and what it reads, and leaves behind what it prints, a code, and the files as it has
changed them.  A file that cannot be used is reported and the next one is taken.
-/

/-- What a program works with. -/
structure Desk where
  folder : Folder
  input : String := ""
  output : String := ""
  errors : String := ""
deriving Inhabited

/-- A program: a step that ends with a code. -/
abbrev Program := StateM Desk Nat

namespace Program

def print (text : String) : StateM Desk Unit :=
  modify fun desk => { desk with output := desk.output ++ text }

def report (program message : String) : StateM Desk Unit :=
  modify fun desk => { desk with errors := desk.errors ++ program ++ ": " ++ message ++ "\n" }

/-- Refuses a call of a program, with a hint at its help. -/
def refuse (program message : String) : Program := do
  report program message
  modify fun desk =>
    { desk with
      errors := desk.errors ++ "Try '" ++ program ++ " --help' for more information.\n" }
  return 1

/-- The lines of a text without their ends. -/
def linesOf (text : String) : List String :=
  match (Text.splitAtEach '\n' text.toList).map String.ofList with
  | [] => []
  | lines => if lines.getLast? == some "" then lines.dropLast else lines

def textOfLines (lines : List String) : String := String.join (lines.map (· ++ "\n"))

/-- How a program tells that it cannot read a file. -/
def unreadableText (program path : String) (fault : FileFault) : String :=
  let reason := Folder.faultText fault
  match program with
  | "head" | "tail" => "cannot open '" ++ path ++ "' for reading: " ++ reason
  | "tac" => "failed to open '" ++ path ++ "' for reading: " ++ reason
  | "sort" => "cannot read: " ++ path ++ ": " ++ reason
  | "rev" => "cannot open " ++ path ++ ": " ++ reason
  | "sed" => "can't read " ++ path ++ ": " ++ reason
  | _ => path ++ ": " ++ reason

/-- The bytes of a file, or what is read when its path is a hyphen. -/
def contentOf (program path : String) : StateM Desk (Option String) := do
  let desk ← get
  if path = "-" then return some desk.input
  match desk.folder.read path with
  | .ok content => return some content
  | .error fault =>
      report program (unreadableText program path fault)
      return none

/-- The contents of files by their paths, and whether all could be read; what is read when there
are none. -/
def contentsOf (program : String) (paths : List String) :
    StateM Desk (List (String × String) × Bool) := do
  if paths.isEmpty then return ([("", (← get).input)], true)
  let found ← paths.mapM fun path => do
    return (← contentOf program path).map fun content => (path, content)
  return (found.filterMap id, found.all Option.isSome)

/-- The code of a program that has done all or only a part. -/
def codeOf (complete : Bool) : Nat := if complete then 0 else 1

/-- The code of a program that could not read all its files. -/
def partialCode (program : String) : Nat :=
  if program = "sort" || program = "sed" then 2 else 1

/-- The letters of leading options, and the other words. -/
def options : List String → List Char × List String
  | [] => ([], [])
  | word :: words =>
      match word.toList with
      | ['-', '-'] => ([], words)
      | '-' :: c :: cs =>
          let (letters, others) := options words
          (c :: cs ++ letters, others)
      | _ => ([], word :: words)

/-- A program that makes one text of the contents of its files. -/
def filter (program : String) (paths : List String) (work : String → String) : Program := do
  let (contents, complete) ← contentsOf program paths
  print (work (String.join (contents.map (·.2))))
  return if complete then 0 else partialCode program

def filterLines (program : String) (paths : List String) (work : List String → List String) :
    Program :=
  filter program paths fun content => textOfLines (work (linesOf content))

/-! ## Parts of files -/

/-- The count that begins a list of words: `-n 3`, `-n3` or `-3`, or the same with a letter for
bytes; ten lines when there is none. -/
def countOf (words : List String) : Bool × String × List String :=
  match words with
  | "-n" :: count :: rest => (false, count, rest)
  | "-c" :: count :: rest => (true, count, rest)
  | word :: rest =>
      match word.toList with
      | '-' :: 'n' :: count => (false, String.ofList count, rest)
      | '-' :: 'c' :: count => (true, String.ofList count, rest)
      | '-' :: c :: count =>
          if c.isDigit then (false, String.ofList (c :: count), rest) else (false, "10", words)
      | _ => (false, "10", words)
  | [] => (false, "10", [])

/-- The pieces of a text that are counted: its bytes, or its lines with their ends. -/
def piecesOf (bytes : Bool) (content : String) : List String :=
  if bytes then content.toList.map String.singleton
  else
    let lines := (Text.splitAtEach '\n' content.toList).map String.ofList
    (lines.dropLast.map (· ++ "\n")) ++ (lines.getLast?.filter (· != "")).toList

/-- The number that a count is. -/
def amount (digits : List Char) : Nat := (Sum.digitsIn 10 0 digits).1

/-- The first pieces of a text; with a sign, all but the last ones. -/
def firstPieces (count : String) (pieces : List String) : List String :=
  match count.toList with
  | '-' :: digits => pieces.take (pieces.length - amount digits)
  | _ => pieces.take (amount count.toList)

/-- The last pieces of a text; with a sign, all from a place on. -/
def lastPieces (count : String) (pieces : List String) : List String :=
  match count.toList with
  | '+' :: digits => pieces.drop (amount digits - 1)
  | _ => pieces.drop (pieces.length - amount count.toList)

/-- Prints parts of files. -/
def cut (program : String) (choose : String → List String → List String) (words : List String) :
    Program := do
  let (bytes, count, paths) := countOf words
  let (contents, complete) ← contentsOf program paths
  let parts := contents.map fun content =>
    (content.1, String.join (choose count (piecesOf bytes content.2)))
  match parts with
  | [part] => print part.2
  | _ =>
      print (String.intercalate "\n"
        (parts.map fun part => "==> " ++ part.1 ++ " <==\n" ++ part.2))
  return codeOf complete

/-! ## Counting -/

/-- The number of words of a text. -/
def wordCount (content : String) : Nat :=
  ((content.toList.foldl
    (fun (count, inside) c =>
      let blank := c == ' ' || (9 ≤ c.toNat && c.toNat ≤ 13)
      (if inside || blank then count else count + 1, !blank))
    ((0, false) : Nat × Bool))).1

/-- The counts of a text that letters ask for; lines, words and bytes when there are none. -/
def countsOf (letters : List Char) (content : String) : List Nat :=
  let letters := if letters.isEmpty then ['l', 'w', 'c'] else letters
  (if letters.contains 'l' then [(content.toList.filter (· == '\n')).length] else [])
    ++ (if letters.contains 'w' then [wordCount content] else [])
    ++ (if letters.contains 'c' || letters.contains 'm' then [content.length] else [])

def rightOf (width number : Nat) : String :=
  let digits := toString number
  String.ofList (List.replicate (width - digits.length) ' ') ++ digits

/-- Counts lines, words and bytes. -/
def count (words : List String) : Program := do
  let (letters, paths) := options words
  let (contents, complete) ← contentsOf "wc" paths
  let total := String.join (contents.map (·.2))
  let counts := contents.map fun content => (countsOf letters content.2, content.1)
  let single := counts.length = 1 && (counts.all (·.1.length = 1))
  let width :=
    if single then 1 else if paths.isEmpty then 7 else (toString total.length).length
  let line (row : List Nat × String) : String :=
    String.intercalate " " (row.1.map (rightOf width)) ++ (if row.2 = "" then "" else " " ++ row.2)
  let rows :=
    if paths.length ≤ 1 then counts else counts ++ [(countsOf letters total, "total")]
  print (textOfLines (rows.map line))
  return codeOf complete

/-! ## Order -/

/-- The number at the start of a line. -/
def leadingValue (line : String) : Int :=
  let cs := line.toList.dropWhile Sum.isBlank
  match cs with
  | '-' :: digits => -((Sum.digitsIn 10 0 digits).1 : Int)
  | _ => (Sum.digitsIn 10 0 cs).1

/-- Lines without those that repeat the one before. -/
def withoutRepeats : List String → List String
  | [] => []
  | line :: lines =>
      match withoutRepeats lines with
      | next :: rest => if line = next then next :: rest else line :: next :: rest
      | [] => [line]

/-- Lines in the order that letters ask for. -/
def sorted (letters : List Char) (lines : List String) : List String :=
  let le (first second : String) : Bool :=
    if letters.contains 'n' && leadingValue first != leadingValue second then
      decide (leadingValue first < leadingValue second)
    else decide (first ≤ second)
  let ordered :=
    if letters.contains 'r' then lines.mergeSort fun first second => le second first
    else lines.mergeSort le
  if letters.contains 'u' then withoutRepeats ordered else ordered

/-- Groups of equal lines with their sizes. -/
def groups : List String → List (Nat × String)
  | [] => []
  | line :: lines =>
      match groups lines with
      | (size, next) :: rest =>
          if line = next then (size + 1, next) :: rest else (1, line) :: (size, next) :: rest
      | [] => [(1, line)]

def groupLines (letters : List Char) (lines : List String) : List String :=
  let chosen := (groups lines).filter fun group =>
    (!letters.contains 'd' || 1 < group.1) && (!letters.contains 'u' || group.1 = 1)
  chosen.map fun group =>
    if letters.contains 'c' then rightOf 7 group.1 ++ " " ++ group.2 else group.2

/-! ## Characters -/

/-- The characters of a set: single ones, ranges, named classes and escapes. -/
def setOf : Nat → List Char → List Char
  | 0, _ => []
  | _ + 1, [] => []
  | fuel + 1, c :: cs =>
      match Pattern.className? (c :: cs) with
      | some (name, rest) =>
          ((List.range 256).map Char.ofNat).filter ((Pattern.namedClass? name).getD fun _ => false)
            ++ setOf fuel rest
      | none =>
          let (first, rest) := if c = '\\' then readEscape cs else (c, cs)
          match rest with
          | '-' :: last :: rest =>
              (List.range (last.toNat + 1 - first.toNat)).map
                (fun (offset : Nat) => Char.ofNat (first.toNat + offset)) ++ setOf fuel rest
          | _ => first :: setOf fuel rest

/-- A text in which runs of the characters of a set are single characters. -/
def squeezed (set : List Char) : List Char → List Char
  | [] => []
  | c :: cs =>
      match squeezed set cs with
      | next :: rest =>
          if c = next && set.contains c then next :: rest else c :: next :: rest
      | [] => [c]

/-- A character translated by two sets; the second one is made longer by its last character. -/
def translated (first second : List Char) (c : Char) : Char :=
  match first.reverse.idxOf? c with
  | none => c
  | some place =>
      let place := first.length - 1 - place
      (second[place]?).getD (second.getLast?.getD c)

/-- Translates or deletes characters. -/
def translate (words : List String) : Program := do
  let (letters, sets) := options words
  let set (place : Nat) : List Char :=
    let text := (sets[place]?).getD ""
    setOf (text.length + 1) text.toList
  let isComplement := letters.contains 'c' || letters.contains 'C'
  let complement (set : List Char) : List Char :=
    ((List.range 256).map Char.ofNat).filter (!set.contains ·)
  let first := if isComplement then complement (set 0) else set 0
  let input := (← get).input.toList
  let squeezes := letters.contains 's'
  if letters.contains 'd' then
    let kept := input.filter (!first.contains ·)
    print (String.ofList (if squeezes then squeezed (set 1) kept else kept))
    return 0
  else if sets.length < 2 then
    if squeezes && sets.length = 1 then
      print (String.ofList (squeezed first input))
      return 0
    else
      match sets with
      | [] => refuse "tr" "missing operand"
      | given :: _ =>
          refuse "tr" ("missing operand after '" ++ given
            ++ "'\nTwo strings must be given when translating.")
  else
    let changed := input.map (translated first (set 1))
    print (String.ofList (if squeezes then squeezed (set 1) changed else changed))
    return 0

/-- The numbers of a list of places such as `1,3-4,6-`, up to a greatest one. -/
def placesOf (most : Nat) (text : String) : List Nat :=
  (Text.splitAtEach ',' text.toList).flatMap fun part =>
    match Text.breakAt? ['-'] part with
    | none => [(Sum.digitsIn 10 0 part).1]
    | some (low, high) =>
        let low := if low.isEmpty then 1 else (Sum.digitsIn 10 0 low).1
        let high := if high.isEmpty then most else (Sum.digitsIn 10 0 high).1
        (List.range (high + 1 - low)).map (low + ·)

def fieldsOf (fields : Bool) (separator : Char) (places line : String) : String :=
  if fields then
    let parts := (Text.splitAtEach separator line.toList).map String.ofList
    if parts.length = 1 then line
    else
      let chosen := placesOf parts.length places
      String.intercalate (String.singleton separator)
        ((parts.zipIdx.filter fun part => chosen.contains (part.2 + 1)).map (·.1))
  else
    let chosen := placesOf line.length places
    String.ofList ((line.toList.zipIdx.filter fun c => chosen.contains (c.2 + 1)).map (·.1))

/-- The settings of a program that cuts fields: the separator, whether fields are cut, the places,
and the paths. -/
def fieldSettings (separator : Char) (fields : Bool) (places : String) :
    List String → Char × Bool × String × List String
  | [] => (separator, fields, places, [])
  | word :: words =>
      match word.toList, words with
      | ['-', 'd'], given :: words =>
          fieldSettings ((given.toList.head?).getD '\t') fields places words
      | ['-', 'f'], given :: words => fieldSettings separator true given words
      | ['-', letter], given :: words =>
          if letter = 'c' || letter = 'b' then fieldSettings separator false given words
          else fieldSettings separator fields places (given :: words)
      | '-' :: 'd' :: c :: _, words => fieldSettings c fields places words
      | '-' :: 'f' :: given, words => fieldSettings separator true (String.ofList given) words
      | '-' :: 'c' :: given, words => fieldSettings separator false (String.ofList given) words
      | '-' :: 'b' :: given, words => fieldSettings separator false (String.ofList given) words
      | _, words =>
          let (separator, fields, places, paths) := fieldSettings separator fields places words
          (separator, fields, places, word :: paths)

/-! ## Searching -/

/-- Prints the lines that match an expression. -/
def search (words : List String) : Program := do
  let (letters, rest) := options words
  match rest with
  | [] => return 2
  | text :: paths =>
      let fold (text : String) : String :=
        if letters.contains 'i' then String.ofList (text.toList.map Char.toLower) else text
      let expression :=
        if letters.contains 'F' then Expression.plain (fold text)
        else Expression.ofText (letters.contains 'E') (fold text)
      let (contents, complete) ← contentsOf "grep" paths
      let chosen := contents.map fun content =>
        (content.1, (linesOf content.2).zipIdx.filter fun line =>
          (expression.find? (fold line.1).toList).isSome != letters.contains 'v')
      let head (path : String) : String := if paths.length ≤ 1 then "" else path ++ ":"
      let found := chosen.any fun part => !part.2.isEmpty
      if letters.contains 'q' then return if found then 0 else 1
      for part in chosen do
        if letters.contains 'c' then print (head part.1 ++ toString part.2.length ++ "\n")
        else
          for line in part.2 do
            let place := if letters.contains 'n' then toString (line.2 + 1) ++ ":" else ""
            print (head part.1 ++ place ++ line.1 ++ "\n")
      return if !complete then 2 else if found then 0 else 1

/-- The parts of an instruction between marks; an escaped mark is no end. -/
def instructionParts (mark : Char) : List Char → List (List Char)
  | [] => [[]]
  | '\\' :: c :: cs =>
      let own := if c = mark then [c] else ['\\', c]
      match instructionParts mark cs with
      | [] => [own]
      | part :: parts => (own ++ part) :: parts
  | c :: cs =>
      if c = mark then [] :: instructionParts mark cs
      else
        match instructionParts mark cs with
        | [] => [[c]]
        | part :: parts => (c :: part) :: parts

/-- What takes the place of a match: an ampersand stands for the match itself. -/
def replacementOf (found : List Char) : List Char → List Char
  | [] => []
  | '\\' :: 'n' :: cs => '\n' :: replacementOf found cs
  | '\\' :: c :: cs => c :: replacementOf found cs
  | '&' :: cs => found ++ replacementOf found cs
  | c :: cs => c :: replacementOf found cs

/-- Replaces matches in the lines of files. -/
def edit (words : List String) : Program := do
  let (letters, rest) := options words
  match rest with
  | [] => return 1
  | instruction :: paths =>
      match instruction.toList with
      | 's' :: mark :: cs =>
          match instructionParts mark cs with
          | [pattern, replacement, flags] =>
              let expression :=
                Expression.ofText (letters.contains 'E' || letters.contains 'r')
                  (String.ofList pattern)
              filter "sed" paths fun content =>
                String.join ((piecesOf false content).map fun line =>
                  let own := line.toList.filter (· != '\n')
                  String.ofList (expression.replace (replacementOf · replacement)
                    (flags.contains 'g') (own.length + 2) false own)
                    ++ (if line.toList.getLast? == some '\n' then "\n" else ""))
          | _ => return 1
      | _ => return 1

/-! ## Files -/

/-- Carries out a step for every path, and tells whether all could be carried out. -/
def forPaths (program : String) (paths : List String)
    (step : Folder → String → Except String Folder) : Program := do
  let done ← paths.mapM fun path => do
    let desk ← get
    match step desk.folder path with
    | .ok folder => do
        set { desk with folder }
        return true
    | .error message => do
        report program message
        return false
  return codeOf (done.all id)

/-- Carries out a step for every path, of which there must be one. -/
def changeAll (program missing : String) (paths : List String)
    (step : Folder → String → Except String Folder) : Program :=
  if paths.isEmpty then refuse program missing else forPaths program paths step

/-- A path in quotes with a reason. -/
def about (action path : String) (fault : FileFault) : String :=
  action ++ " '" ++ path ++ "': " ++ Folder.faultText fault

def makeDirectory (withParents : Bool) (folder : Folder) (path : String) :
    Except String Folder := do
  let location := folder.locationOf path
  if withParents then
    match folder.workspace.makeDirectory location with
    | (workspace, .ok _) => return { folder with workspace }
    | (_, .error fault) => throw (about "cannot create directory" path fault)
  else
    match folder.namesOf path with
    | .error fault => throw (about "cannot create directory" path fault)
    | .ok names =>
        if (folder.workspace.entry? names).isSome then
          throw (about "cannot create directory" path .exists)
        else if (folder.workspace.entry? names.dropLast) == some .directory then
          return { folder with workspace := folder.workspace.put names .directory }
        else throw (about "cannot create directory" path .notFound)

/-- Makes a file unless there is one. -/
def touch (folder : Folder) (path : String) : Except String Folder :=
  match folder.target path with
  | .ok (names, bytes) => .ok (folder.store names bytes)
  | .error .isDirectory => .ok folder
  | .error fault => .error (about "cannot touch" path fault)

def withoutTree (workspace : Workspace) (names : List String) : Workspace :=
  { workspace with
    entries := workspace.entries.filter fun entry => (Workspace.namesBelow? names entry.1).isNone }

/-- Removes a file, or a directory where letters say so. -/
def remove (letters : List Char) (folder : Folder) (path : String) : Except String Folder :=
  let deep := letters.contains 'r' || letters.contains 'R'
  let force := letters.contains 'f'
  match folder.namesOf path with
  | .error fault => if force then .ok folder else .error (about "cannot remove" path fault)
  | .ok names =>
      match folder.workspace.entry? names with
      | none => if force then .ok folder else .error (about "cannot remove" path .notFound)
      | some .directory =>
          if deep then .ok { folder with workspace := withoutTree folder.workspace names }
          else .error (about "cannot remove" path .isDirectory)
      | some (.file _) => .ok { folder with workspace := folder.workspace.remove names }

def removeDirectory (folder : Folder) (path : String) : Except String Folder :=
  let failed (reason : String) := Except.error ("failed to remove '" ++ path ++ "': " ++ reason)
  match folder.namesOf path with
  | .error fault => failed (Folder.faultText fault)
  | .ok names =>
      match folder.workspace.entry? names with
      | some .directory =>
          if (folder.workspace.below names).isEmpty then
            .ok { folder with workspace := folder.workspace.remove names }
          else failed "Directory not empty"
      | some (.file _) => failed (Folder.faultText .notDirectory)
      | none => failed (Folder.faultText .notFound)

/-- The path of a file inside a directory, when the path given is that of one. -/
def insideOf (folder : Folder) (path source : String) : String :=
  match folder.kindOf path with
  | .directory => path ++ "/" ++ Text.afterLast '/' source
  | _ => path

/-- Copies a file; the copy takes its place when `moves` holds. -/
def copy (moves : Bool) (words : List String) : Program := do
  let program := if moves then "mv" else "cp"
  let (_, paths) := options words
  match paths.getLast? with
  | none => return 1
  | some place =>
      forPaths program paths.dropLast fun folder path =>
        match folder.read path with
        | .error .isDirectory => .error ("-r not specified; omitting directory '" ++ path ++ "'")
        | .error fault => .error (about "cannot stat" path fault)
        | .ok bytes =>
            match folder.target (insideOf folder place path) with
            | .error fault => .error (about "cannot create regular file" place fault)
            | .ok (names, _) =>
                let stored := folder.store names bytes
                if moves then remove ['f'] stored path else .ok stored

/-- Prints what is read, and stores it in files. -/
def divide (words : List String) : Program := do
  let (letters, paths) := options words
  let input := (← get).input
  print input
  forPaths "tee" paths fun folder path =>
    if path = Folder.emptyFile then .ok folder
    else
      match folder.target path with
      | .ok (names, bytes) =>
          .ok (folder.store names (if letters.contains 'a' then bytes ++ input else input))
      | .error fault => .error (path ++ ": " ++ Folder.faultText fault)

/-- The names of directories that are listed, with hidden ones where letters say so. -/
def listed (letters : List Char) (folder : Folder) (names : List String) : List String :=
  let found := (folder.contents names).filter fun name =>
    letters.contains 'a' || letters.contains 'A' || !name.startsWith "."
  if letters.contains 'a' then [".", ".."] ++ found else found

def list (words : List String) : Program := do
  let (letters, paths) := options words
  let folder := (← get).folder
  let single := paths.length ≤ 1
  let paths := if paths.isEmpty then ["."] else paths
  let isPlain (path : String) : Bool :=
    letters.contains 'd' || (folder.kindOf path != .directory)
  let present := paths.filter fun path => folder.kindOf path != .missing
  for path in paths do
    if folder.kindOf path == .missing then
      report "ls" (about "cannot access" path .notFound)
  let plain := present.filter isPlain
  let directories := present.filter (!isPlain ·)
  print (textOfLines (plain.mergeSort fun first second => decide (first ≤ second)))
  for (path, place) in (directories.mergeSort fun first second => decide (first ≤ second)).zipIdx do
    if !single then
      print ((if place = 0 && plain.isEmpty then "" else "\n") ++ path ++ ":\n")
    match folder.namesOf path with
    | .ok names => print (textOfLines (listed letters folder names))
    | .error _ => return 2
  return if present.length = paths.length then 0 else 2

/-! ## Names and numbers -/

/-- A path without the slashes at its end. -/
def trimmedPath (path : String) : String :=
  let kept := Text.trimEndWhile (· == '/') path.toList
  if kept.isEmpty && path != "" then "/" else String.ofList kept

def lastName (path suffix : String) : String :=
  let name := if trimmedPath path = "/" then "/" else Text.afterLast '/' (trimmedPath path)
  if suffix != "" && name != suffix && Text.endsWith name suffix then
    String.ofList (name.toList.take (name.length - suffix.length))
  else name

def directoryName (path : String) : String :=
  match Text.breakAtLast? '/' (trimmedPath path).toList with
  | none => "."
  | some (start, _) => trimmedPath (String.ofList (start ++ ['/']))

def numbersFrom (last step : Int) : Nat → Int → List Int
  | 0, _ => []
  | fuel + 1, first =>
      if (0 < step && last < first) || (step < 0 && first < last) then []
      else first :: numbersFrom last step fuel (first + step)

/-- The numbers that words ask for: up to a last one, from a first one, by steps. -/
def row? (words : List String) : Option (List Int) := do
  let given ← words.mapM Sum.numberOf?
  match given with
  | [last] => return numbersFrom last 1 last.toNat 1
  | [first, last] => return numbersFrom last 1 (last - first + 1).toNat first
  | [first, step, last] => return numbersFrom last step ((last - first).natAbs + 1) first
  | _ => none

/-- The value of a sum of two numbers, and whether it counts as nothing. -/
def calculate (words : List String) : Program := do
  match words with
  | [first, operator, second] =>
      let number (text : String) : Option Int := (Condition.numberOf text).toOption
      let value : Option String :=
        match operator, number first, number second with
        | "=", _, _ => some (toString (Sum.ofBool (first == second)))
        | "!=", _, _ => some (toString (Sum.ofBool (first != second)))
        | _, some left, some right =>
            if (operator = "/" || operator = "%") && right = 0 then none
            else if ["+", "-", "*", "/", "%", "<", "<=", ">", ">="].contains operator then
              (Sum.outcome? operator left right).map toString
            else none
        | _, _, _ => none
      match value with
      | some text =>
          print (text ++ "\n")
          return if text = "0" then 1 else 0
      | none =>
          report "expr"
            (if (number second) == some 0 then "division by zero" else "non-integer argument")
          return 2
  | [single] =>
      print (single ++ "\n")
      return if single = "0" || single = "" then 1 else 0
  | _ =>
      report "expr" "syntax error"
      return 2

/-! ## All programs -/

def named? (name : String) (words : List String) : Option Program :=
  match name with
  | "cat" => some (filter "cat" (options words).2 id)
  | "tac" => some (filterLines "tac" words List.reverse)
  | "rev" =>
      some (filterLines "rev" words fun lines => lines.map fun line =>
        String.ofList line.toList.reverse)
  | "head" => some (cut "head" firstPieces words)
  | "tail" => some (cut "tail" lastPieces words)
  | "wc" => some (count words)
  | "sort" => some (filterLines "sort" (options words).2 (sorted (options words).1))
  | "uniq" => some (filterLines "uniq" (options words).2 (groupLines (options words).1))
  | "tr" => some (translate words)
  | "cut" =>
      let (separator, fields, places, paths) := fieldSettings '\t' true "" words
      some (filterLines "cut" paths fun lines => lines.map (fieldsOf fields separator places))
  | "grep" => some (search words)
  | "sed" => some (edit words)
  | "mkdir" =>
      some (changeAll "mkdir" "missing operand" (options words).2
        (makeDirectory ((options words).1.contains 'p')))
  | "touch" => some (changeAll "touch" "missing file operand" (options words).2 touch)
  | "rm" =>
      if (options words).1.contains 'f' then
        some (forPaths "rm" (options words).2 (remove (options words).1))
      else some (changeAll "rm" "missing operand" (options words).2 (remove (options words).1))
  | "rmdir" => some (changeAll "rmdir" "missing operand" (options words).2 removeDirectory)
  | "cp" => some (copy false words)
  | "mv" => some (copy true words)
  | "tee" => some (divide words)
  | "ls" => some (list words)
  | "basename" => some do
      print (lastName (words.headD "") ((words[1]?).getD "") ++ "\n")
      return 0
  | "dirname" => some do
      print (textOfLines (words.map directoryName))
      return 0
  | "seq" =>
      (row? words).map fun numbers => do
        print (textOfLines (numbers.map toString))
        return 0
  | "expr" => some (calculate words)
  | "sleep" => some (return 0)
  | _ => none

end Program

end WireSchema.Script
