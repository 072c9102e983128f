import WireSchema.Compiler.Script.Machine

namespace WireSchema.Script.Builtin

/-!
Commands of the shell.

A command of the shell is carried out by the script itself: it prints, tests, changes the settings
of the script or cuts it short.  A fault in one of the special commands ends the script; a fault in
another one makes the command fail.
-/

def natural? (text : String) : Option Nat :=
  if text != "" && text.toList.all Char.isDigit then some (Sum.digitsIn 10 0 text.toList).1
  else none

/-- The number that a word is, where a special command needs one. -/
def requireNatural (text : String) : Step Nat :=
  match natural? text with
  | some number => return number
  | none => Step.fail ("Illegal number: " ++ text)

/-- Reports a fault of a command that is not special. -/
def refuse (message : String) : Step Nat := do
  Step.report message
  return 2

/-! ## Ends -/

/-- Ends the script or a function, with a status that may be given. -/
def stopWith (stop : Stop) (words : List String) : Step Nat := do
  if let some word := words.head? then Step.setStatus ((← requireNatural word) % 256)
  throw stop

/-- Leaves loops or goes on with one; without loops there is nothing to leave. -/
def stopLoops (stop : Nat → Stop) (words : List String) : Step Nat := do
  let asked ← match words.head? with
    | some word => requireNatural word
    | none => pure 1
  if asked = 0 then Step.fail ("Illegal number: " ++ words.headD "")
  let count := min asked (← get).loops
  Step.setStatus 0
  if 0 < count then throw (stop count)
  return 0

def signals : List (String × Nat) :=
  [("HUP", 1), ("INT", 2), ("QUIT", 3), ("ILL", 4), ("TRAP", 5), ("ABRT", 6), ("BUS", 7),
   ("FPE", 8), ("KILL", 9), ("USR1", 10), ("SEGV", 11), ("USR2", 12), ("PIPE", 13), ("ALRM", 14),
   ("TERM", 15)]

/-- The number of a signal that is given by its name or its number. -/
def signalOf? (text : String) : Option Nat :=
  (natural? text).or ((signals.find? (·.1 == text)).map (·.2))

/-- The signal that words ask for, and the numbers of those that it is sent to. -/
def signalWords : List String → Option Nat × List String
  | "-s" :: name :: words => (signalOf? name, words)
  | word :: words =>
      match word.toList with
      | '-' :: name => (signalOf? (String.ofList name), words)
      | _ => (some 15, word :: words)
  | [] => (some 15, [])

/-- Sends a signal, which may end the script. -/
def kill (words : List String) : Step Nat := do
  match signalWords words with
  | (some 0, _) => return 0
  | (some number, targets) =>
      if targets.contains ownNumber then throw (Stop.signal number)
      else
        Step.report "No such process"
        return 1
  | (none, _) => refuse ("invalid signal number or name: " ++ words.headD "")

/-- Keeps a text that is carried out at the end. -/
def trap (words : List String) : Step Nat := do
  match words with
  | action :: conditions =>
      if conditions.any (["EXIT", "0"].contains ·) then
        modify fun machine =>
          { machine with atEnd := if action = "-" || action = "" then none else some action }
      return 0
  | [] => return 0

/-! ## Settings -/

def setLetter? (isSet : Bool) (modes : Modes) (letter : Char) : Option Modes :=
  match letter with
  | 'e' => some { modes with stopsOnFailure := isSet }
  | 'u' => some { modes with demandsValues := isSet }
  | 'x' => some { modes with traces := isSet }
  | 'f' => some { modes with keepsPatterns := isSet }
  | _ => if ['a', 'b', 'C', 'm', 'n', 'v'].contains letter then some modes else none

/-- The letters of modes with long names. -/
def longNames : List (String × Char) :=
  [("errexit", 'e'), ("nounset", 'u'), ("xtrace", 'x'), ("noglob", 'f'), ("allexport", 'a'),
   ("notify", 'b'), ("noclobber", 'C'), ("monitor", 'm'), ("verbose", 'v')]

def setLetters (isSet : Bool) (modes : Modes) (letters : List Char) : Except String Modes :=
  letters.foldlM
    (fun modes letter =>
      match setLetter? isSet modes letter with
      | some modes => .ok modes
      | none => .error ("Illegal option -" ++ String.singleton letter))
    modes

/-- Modes and parameters that words set; the parameters only where words are left. -/
def readModes (modes : Modes) : List String → Except String (Modes × Option (List String))
  | [] => .ok (modes, none)
  | "--" :: words => .ok (modes, some words)
  | word :: words =>
      match word.toList with
      | sign :: letters =>
          if (sign != '-' && sign != '+') || letters.isEmpty then .ok (modes, some (word :: words))
          else if letters = ['o'] then
            match words with
            | name :: words =>
                match longNames.find? (·.1 == name) with
                | some long => do
                    readModes (← setLetters (sign == '-') modes [long.2]) words
                | none => .error ("Illegal option -o " ++ name)
            | [] => .ok (modes, none)
          else do readModes (← setLetters (sign == '-') modes letters) words
      | [] => .ok (modes, some (word :: words))

def setModes (words : List String) : Step Nat := do
  match readModes (← get).modes words with
  | .error message => Step.fail message
  | .ok (modes, parameters) =>
      modify fun machine =>
        { machine with modes, parameters := parameters.getD machine.parameters }
      return 0

/-- Drops leading parameters. -/
def shift (words : List String) : Step Nat := do
  let count ← match words.head? with
    | some word => requireNatural word
    | none => pure 1
  if (← get).parameters.length < count then Step.fail "can't shift that many"
  modify fun machine => { machine with parameters := machine.parameters.drop count }
  return 0

/-- A word that may give a variable a value. -/
def declared (word : String) : String × Option String :=
  match Text.breakAt? ['='] word.toList with
  | some (name, value) => (String.ofList name, some (String.ofList value))
  | none => (word, none)

/-- Carries out a step for every variable that words declare. -/
def declareAll (words : List String) (step : String → Step Unit) : Step Nat := do
  for word in words do
    let (name, value) := declared word
    if name != "-p" then
      if !isName name then Step.fail (name ++ ": bad variable name")
      if let some value := value then Step.assign name value
      step name
  return 0

/-- Keeps the value of a variable for the end of a function. -/
def hide (name : String) : Step Unit :=
  modify fun machine =>
    { machine with
      hidden := machine.hidden.map fun hidden =>
        if hidden.any (·.1 == name) then hidden else (name, machine.stored? name) :: hidden }

def declareLocal (words : List String) : Step Nat := do
  if (← get).hidden.isNone then Step.fail "not in a function"
  for word in words do
    let (name, value) := declared word
    hide name
    if let some value := value then Step.assign name value
  return 0

/-- Removes variables, or functions where a letter says so. -/
def unset (words : List String) : Step Nat := do
  let (letters, names) := Program.options words
  if letters.contains 'f' then
    modify fun machine =>
      { machine with functions := machine.functions.filter (!names.contains ·.1) }
  else
    for name in names do
      if (← get).fixed.contains name then Step.fail (name ++ ": is read only")
      modify (·.assign name none)
  return 0

/-! ## Printing and testing -/

def printFormat : List String → Step Nat
  | [] => refuse "usage: printf format [arg ...]"
  | format :: words => do
      let filling := filledFormat format words
      for message in filling.reports do Step.report message
      Step.print (String.ofList filling.content)
      match filling.fault with
      | some message => refuse message
      | none => return if filling.reports.isEmpty then 0 else 1

def test (words : List String) : Step Nat := do
  match Condition.holds (← get).folder.kindOf words with
  | .ok holds => return if holds then 0 else 1
  | .error message => refuse message

/-- Tests a condition between brackets. -/
def testInBrackets (words : List String) : Step Nat :=
  if words.getLast? == some "]" then test words.dropLast else refuse "missing ]"

/-! ## Folders -/

def folderPath (folder : Folder) : String :=
  spelled (String.intercalate "/" (folder.workspace.root :: folder.names))

/-- Goes to another folder. -/
def changeFolder (words : List String) : Step Nat := do
  let machine ← get
  match words with
  | path :: _ =>
      let location := machine.folder.locationOf path
      match machine.folder.workspace.locate location with
      | .ok names =>
          if machine.folder.workspace.isDirectory names || names.isEmpty then
            let folder := { machine.folder with names }
            set ({ machine with folder }.assign "PWD" (some (folderPath folder)))
            return 0
          else refuse ("can't cd to " ++ path)
      | .error _ => refuse ("can't cd to " ++ path)
  | [] => return 0

/-! ## Reading -/

/-- A line of a text with what follows it; a backslash may keep a character and join lines.  The
third part tells whether the line has an end. -/
def readLine (keepsBackslashes : Bool) : List Char → List Char × List Char × Bool
  | [] => ([], [], false)
  | '\n' :: cs => ([], cs, true)
  | '\\' :: c :: cs =>
      let (line, rest, ended) := readLine keepsBackslashes cs
      if keepsBackslashes then
        if c = '\n' then (['\\'], cs, true) else ('\\' :: c :: line, rest, ended)
      else if c = '\n' then (line, rest, ended)
      else (c :: line, rest, ended)
  | c :: cs =>
      let (line, rest, ended) := readLine keepsBackslashes cs
      (c :: line, rest, ended)

/-- Gives the parts of a line to variables; the last one gets all that is left. -/
def shareOut (separators : List Char) : List String → List Char → List (String × String)
  | [], _ => []
  | [name], cs =>
      let isMargin (c : Char) : Bool := Piece.isBlank c && separators.contains c
      [(name, String.ofList (Text.trimEndWhile isMargin cs))]
  | name :: names, cs =>
      let isMargin (c : Char) : Bool := Piece.isBlank c && separators.contains c
      let part := cs.takeWhile (!separators.contains ·)
      let rest := (cs.drop part.length).dropWhile isMargin
      let rest :=
        match rest with
        | c :: others =>
            if separators.contains c && !isMargin c then others.dropWhile isMargin else rest
        | [] => []
      (name, String.ofList part) :: shareOut separators names rest

/-- Reads a line into variables. -/
def read (words : List String) : Step Nat := do
  let (letters, names) := Program.options words
  if names.isEmpty then return ← refuse "arg count"
  let machine ← get
  let (line, rest, ended) := readLine (letters.contains 'r') (machine.held 0).toList
  set (machine.leave 0 (String.ofList rest))
  let separators := ((machine.stored? "IFS").getD " \t\n").toList
  let isMargin (c : Char) : Bool := Piece.isBlank c && separators.contains c
  for (name, value) in shareOut separators names (line.dropWhile isMargin) do
    Step.assign name value
  return if ended then 0 else 1

/-! ## All commands -/

/-- The command with a name that needs no other command. -/
def named? (name : String) (words : List String) : Option (Step Nat) :=
  match name with
  | ":" => some (return 0)
  | "true" => some (return 0)
  | "false" => some (return 1)
  | "echo" => some do
      Step.print (echoText words)
      return 0
  | "printf" => some (printFormat (if words.head? == some "--" then words.drop 1 else words))
  | "test" => some (test words)
  | "[" => some (testInBrackets words)
  | "exit" => some (stopWith .exit words)
  | "return" => some (stopWith .back words)
  | "break" => some (stopLoops .leave words)
  | "continue" => some (stopLoops .goOn words)
  | "set" => some (setModes words)
  | "shift" => some (shift words)
  | "unset" => some (unset words)
  | "export" => some <| declareAll words fun name =>
      modify fun machine => { machine with exported := name :: machine.exported }
  | "readonly" => some <| declareAll words fun name =>
      modify fun machine => { machine with fixed := name :: machine.fixed }
  | "local" => some (declareLocal words)
  | "read" => some (read words)
  | "cd" => some (changeFolder words)
  | "pwd" => some do
      Step.print (folderPath (← get).folder ++ "\n")
      return 0
  | "kill" => some (kill words)
  | "trap" => some (trap words)
  | "wait" => some (return 0)
  | "umask" => some (return 0)
  | "hash" => some (return 0)
  | "times" => some (return 0)
  | _ => none

/-- Carries out a command of the shell under its name. -/
def carryOut (name : String) (command : Step Nat) : Step Nat := do
  let before := (← get).builtin
  modify fun machine => { machine with builtin := some name }
  let result ← Step.observe command
  modify fun machine => { machine with builtin := before }
  match result with
  | .ok status => return status
  | .error stop => throw stop

end WireSchema.Script.Builtin
